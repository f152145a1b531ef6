import MathMarkup.Proofs.Lexing.Text

/-!
# Lexing distributes over a seam

Cutting a source does not look beyond the first character after a segment.  So where
two sources meet, only the last segment of the first one may be cut differently.
-/

namespace MathMarkup

/-- The lexeme that ends where a source ends, if there is one. -/
def lastLexeme? (source : String) : Option Token :=
  (segments source.toList).getLast?.bind Segment.token?

def Token.IsSpacing (t : Token) : Prop :=
  t.kind = .command ∧ ∃ mark, isSpacingMark mark ∧ t.text.toList = ['\\', mark]

/-- Whether a token that ends before a character would go on with it.  A number
goes on with a digit, and with a period if it has none; a command that is not a
spacing command goes on with a letter; a bare backslash goes on with a spacing
mark. -/
def Token.GoesOnWith (t : Token) (c : Char) : Prop :=
  (t.kind = .number ∧ (c.isDigit ∨ c = '.' ∧ '.' ∉ t.text.toList)) ∨
    (t.kind = .command ∧ ¬t.IsSpacing ∧ c.isAlpha) ∨ (t = .command "\\" ∧ isSpacingMark c)

/-- Whether the last lexeme of a source would go on with the first character of another. -/
def FusesAt (front back : String) : Prop :=
  ∃ t c, lastLexeme? front = some t ∧ back.toList.head? = some c ∧ t.GoesOnWith c

/-- Whether a character belongs to no lexeme, wherever it stands between two of them. -/
def IsGap (c : Char) : Prop :=
  Text.isBlank c ∨ StartsNoLexeme c ∧ c ≠ '.' ∧ ¬isSpacingMark c

/-- The report on the same character when more bytes stand before it. -/
def Diagnostic.shift (bytes : Nat) (d : Diagnostic) : Diagnostic :=
  ⟨d.offset + bytes, d.character⟩

/-- The stream that is reached from a place when a stream at the start of what is
unread there has become `later`. -/
def TokenStream.resume (stream later : TokenStream) : TokenStream where
  unread := later.unread
  offset := stream.offset + later.offset
  diagnostics := stream.diagnostics ++ later.diagnostics.map (Diagnostic.shift stream.offset)

/-! ## Lexemes that go on -/

theorem isValid_last {cs : List Char} {before : List Segment} {last : Segment}
    (h : segments cs = before ++ [last]) : last.IsValid := by
  apply mem_segments_isValid
  rw [h]
  exact List.mem_append_right before List.mem_cons_self

theorem goesOnWith_iff_of_command {text : String} (h : IsCommandText text.toList) (c : Char) :
    Token.GoesOnWith ⟨.command, text⟩ c ↔ IsCommandText (text.toList ++ [c]) := by
  have hne : text.toList ≠ [] := TokenKind.Admits.ne_nil (show TokenKind.command.Admits _ from h)
  obtain ⟨d, cs, htext⟩ := List.exists_cons_of_ne_nil hne
  rw [htext] at h
  obtain ⟨rfl, htail⟩ := isCommandText_cons_iff.mp h
  have hbare : (⟨.command, text⟩ : Token) = .command "\\" ↔ cs = [] := by
    simp [Token.command, ← String.toList_inj, htext]
  have hspacing : Token.IsSpacing ⟨.command, text⟩ ↔ ∃ mark, isSpacingMark mark ∧ cs = [mark] := by
    simp [Token.IsSpacing, htext]
  rw [Token.GoesOnWith, hbare, hspacing, htext, List.cons_append, isCommandText_cons_iff]
  rcases htail with ⟨mark, hmark, rfl⟩ | hletters
  · constructor
    · rintro (⟨hkind, -⟩ | ⟨-, hother, -⟩ | ⟨hnil, -⟩)
      · cases hkind
      · exact absurd ⟨mark, hmark, rfl⟩ hother
      · cases hnil
    · rintro ⟨-, ⟨e, -, heq⟩ | hall⟩
      · cases heq
      · exact absurd (hall mark (by simp)) (not_isAlpha_of_isSpacingMark hmark)
  · constructor
    · rintro (⟨hkind, -⟩ | ⟨-, -, hc⟩ | ⟨rfl, hc⟩)
      · cases hkind
      · refine ⟨rfl, Or.inr fun e he => ?_⟩
        rcases List.mem_append.mp he with he | he
        · exact hletters e he
        · rwa [List.mem_singleton.mp he]
      · exact ⟨rfl, Or.inl ⟨c, hc, rfl⟩⟩
    · rintro ⟨-, ⟨e, he, heq⟩ | hall⟩
      · rcases List.append_eq_singleton_iff.mp heq with ⟨rfl, hlast⟩ | ⟨-, hlast⟩
        · obtain ⟨rfl, -⟩ := List.cons.inj hlast
          exact Or.inr (Or.inr ⟨rfl, he⟩)
        · cases hlast
      · refine Or.inr (Or.inl ⟨rfl, ?_, hall c (by simp)⟩)
        rintro ⟨mark, hmark, rfl⟩
        exact not_isAlpha_of_isSpacingMark hmark (hletters mark (by simp))

theorem goesOnWith_iff_of_number {text : String} (h : IsNumeral text.toList) (c : Char) :
    Token.GoesOnWith ⟨.number, text⟩ c ↔ IsNumeral (text.toList ++ [c]) := by
  have hne : text.toList ≠ [] := TokenKind.Admits.ne_nil (show TokenKind.number.Admits _ from h)
  obtain ⟨d, cs, htext⟩ := List.exists_cons_of_ne_nil hne
  rw [htext] at h
  obtain ⟨hd, hcs, hcount⟩ := isNumeral_cons_iff.mp h
  have hperiod : '.' ∉ text.toList ↔ cs.count '.' = 0 := by
    have hne : '.' ≠ d := by
      rintro rfl
      exact absurd hd (by decide)
    rw [htext, List.mem_cons, not_or, List.count_eq_zero]
    exact and_iff_right hne
  rw [Token.GoesOnWith, hperiod, htext, List.cons_append, isNumeral_cons_iff]
  constructor
  · rintro (⟨-, hc⟩ | ⟨hkind, -⟩ | ⟨htoken, -⟩)
    · refine ⟨hd, ?_, ?_⟩
      · intro e he
        rcases List.mem_append.mp he with he | he
        · exact hcs e he
        · obtain rfl := List.mem_singleton.mp he
          exact hc.imp_right And.left
      · rw [List.count_append]
        rcases hc with hc | ⟨rfl, hzero⟩
        · have hlast : [c].count '.' = 0 := count_period_eq_zero (by simpa using hc)
          omega
        · rw [hzero]
          decide
    · cases hkind
    · cases htoken
  · rintro ⟨-, hall, hle⟩
    refine Or.inl ⟨rfl, ?_⟩
    refine (hall c (by simp)).imp_right ?_
    rintro rfl
    rw [List.count_append, List.count_singleton_self] at hle
    exact ⟨rfl, by omega⟩

theorem Token.IsLexeme.goesOnWith_iff {t : Token} (ht : t.IsLexeme) (c : Char) :
    t.GoesOnWith c ↔ t.kind.Admits (t.text.toList ++ [c]) := by
  obtain ⟨kind, text⟩ := t
  rcases TokenKind.Admits.cases ht with ⟨hkind, h⟩ | ⟨hkind, h⟩ | h
  · obtain rfl : kind = .command := hkind
    exact goesOnWith_iff_of_command h c
  · obtain rfl : kind = .number := hkind
    exact goesOnWith_iff_of_number h c
  · have hkind : kind ≠ .command ∧ kind ≠ .number := by
      rcases h with ⟨hkind, -⟩ | ⟨d, hmark, -⟩
      · obtain rfl : kind = .letter := hkind
        decide
      · exact (TokenKind.ne_of_ofMark? hmark).imp_right And.left
    have hadmits : ¬kind.Admits (text.toList ++ [c]) := by
      intro hlonger
      exact not_extends_of_kind ht hkind.1 hkind.2 [c] ⟨c, rfl, hlonger⟩
    refine iff_of_false ?_ hadmits
    rintro (⟨hnumber, -⟩ | ⟨hcommand, -⟩ | ⟨htoken, -⟩)
    · exact hkind.2 hnumber
    · exact hkind.1 hcommand
    · exact hkind.1 (congrArg Token.kind htoken)

theorem lastLexeme?_eq_some_iff {source : String} {t : Token} :
    lastLexeme? source = some t ↔ ∃ front, segments source.toList = front ++ [.lexeme t] := by
  rw [lastLexeme?, Option.bind_eq_some_iff]
  constructor
  · rintro ⟨s, hlast, hs⟩
    obtain ⟨front, hsegments⟩ := List.getLast?_eq_some_iff.mp hlast
    obtain rfl := Segment.eq_lexeme_of_token? hs
    exact ⟨front, hsegments⟩
  · rintro ⟨front, hsegments⟩
    exact ⟨.lexeme t, List.getLast?_eq_some_iff.mpr ⟨front, hsegments⟩, rfl⟩

/-- Two sources fuse exactly when the last segment of the first one would be
lengthened by the second one. -/
theorem fusesAt_iff {front back : String} :
    FusesAt front back ↔
      ∃ before s, segments front.toList = before ++ [s] ∧ s.Extends back.toList := by
  constructor
  · rintro ⟨t, c, hlast, hhead, hc⟩
    obtain ⟨before, hsegments⟩ := lastLexeme?_eq_some_iff.mp hlast
    have ht : t.IsLexeme := isValid_last hsegments
    exact ⟨before, .lexeme t, hsegments, c, hhead, (ht.goesOnWith_iff c).mp hc⟩
  · rintro ⟨before, s, hsegments, hextends⟩
    have hs : s.IsValid := isValid_last hsegments
    cases s with
    | lexeme t =>
        obtain ⟨c, hhead, hadmits⟩ := hextends
        have hc : t.GoesOnWith c := (Token.IsLexeme.goesOnWith_iff hs c).mpr hadmits
        exact ⟨t, c, lastLexeme?_eq_some_iff.mpr ⟨before, hsegments⟩, hhead, hc⟩
    | blank c => exact hextends.elim
    | unrecognized c => exact hextends.elim

theorem not_fusesAt_of_isSeparate {front back : String} (h : IsSeparate back) :
    ¬FusesAt front back := by
  rw [fusesAt_iff]
  rintro ⟨before, s, hsegments, hextends⟩
  have hs : s.IsValid := isValid_last hsegments
  cases s with
  | lexeme t => exact not_extends_of_isSeparate hs h hextends
  | blank c => exact hextends
  | unrecognized c => exact hextends

/-! ## The segments before a seam -/

theorem Segment.extends_append_iff {s : Segment} {cs : List Char} (hcs : cs ≠ [])
    (rest : List Char) : s.Extends (cs ++ rest) ↔ s.Extends cs := by
  obtain ⟨d, ds, rfl⟩ := List.exists_cons_of_ne_nil hcs
  cases s with
  | lexeme t => exact Iff.rfl
  | blank c => exact Iff.rfl
  | unrecognized c => exact Iff.rfl

/-- Only the last segment of a source depends on what comes after it. -/
theorem segments_append_of_eq {front : List Segment} {last : Segment} {cs : List Char}
    (h : segments cs = front ++ [last]) (rest : List Char) :
    segments (cs ++ rest) = front ++ segments (last.chars ++ rest) := by
  induction front generalizing cs with
  | nil =>
      have hcs := flatMap_chars_segments cs
      rw [h] at hcs
      rw [← hcs]
      simp
  | cons s front ih =>
      cases cs with
      | nil => simp at h
      | cons c cs =>
          rw [segments_cons, List.cons_append] at h
          obtain ⟨rfl, hlater⟩ := List.cons.inj h
          have hne : (Segment.first c cs).2 ≠ [] := by
            intro hnil
            rw [hnil, segments_nil] at hlater
            exact absurd hlater.symm (by simp)
          have hmaximal : ¬(Segment.first c cs).1.Extends ((Segment.first c cs).2 ++ rest) :=
            mt (Segment.extends_append_iff hne rest).mp (Segment.not_extends_first c cs)
          rw [← Segment.chars_first_append c cs, List.append_assoc,
            segments_append (Segment.isValid_first c cs) hmaximal, ih hlater, List.cons_append]

theorem segments_append_of_not_fusesAt {front back : String} (h : ¬FusesAt front back) :
    segments (front ++ back).toList = segments front.toList ++ segments back.toList := by
  rw [String.toList_append]
  cases hlast : (segments front.toList).getLast? with
  | none =>
      have hfront := flatMap_chars_segments front.toList
      rw [List.getLast?_eq_none_iff.mp hlast] at hfront
      rw [← hfront]
      simp
  | some last =>
      obtain ⟨before, hsegments⟩ := List.getLast?_eq_some_iff.mp hlast
      have hmaximal : ¬last.Extends back.toList := fun hextends =>
        h (fusesAt_iff.mpr ⟨before, last, hsegments, hextends⟩)
      rw [segments_append_of_eq hsegments, segments_append (isValid_last hsegments) hmaximal,
        hsegments]
      simp

/-! ## Tokens and reports on both sides -/

theorem lex_append_of_not_fusesAt {front back : String} (h : ¬FusesAt front back) :
    lex (front ++ back) = lex front ++ lex back := by
  rw [lex, segments_append_of_not_fusesAt h, List.filterMap_append]
  rfl

/-- A lexeme is not a token by itself before a text that lengthens it. -/
theorem filterMap_segments_ne_of_extends {t : Token} {cs : List Char} (ht : t.IsLexeme)
    (hextends : (Segment.lexeme t).Extends cs) (later : List Token) :
    (segments (t.text.toList ++ cs)).filterMap Segment.token? ≠ t :: later := by
  obtain ⟨d, ds, hwhole⟩ := List.exists_cons_of_ne_nil
    (List.append_ne_nil_of_left_ne_nil (TokenKind.Admits.ne_nil ht) cs)
  have hcut := Segment.chars_first_append d ds
  have hvalid := Segment.isValid_first d ds
  have hmaximal := Segment.not_extends_first d ds
  rw [hwhole, segments_cons]
  generalize (Segment.first d ds).1 = s at *
  generalize (Segment.first d ds).2 = rest at *
  cases s with
  | lexeme u =>
      intro heq
      obtain ⟨rfl, -⟩ := List.cons.inj heq
      obtain rfl : rest = cs := List.append_cancel_left (hcut.trans hwhole.symm)
      exact hmaximal hextends
  | blank e =>
      have hstart : StartsNoLexeme e := startsNoLexeme_of_isBlank hvalid
      exact absurd (hwhole.trans hcut.symm) (Segment.lexeme_append_ne_cons ht hstart)
  | unrecognized e =>
      exact absurd (hwhole.trans hcut.symm) (Segment.lexeme_append_ne_cons ht hvalid.1)

theorem lex_append_ne_of_fusesAt {front back : String} (h : FusesAt front back) :
    lex (front ++ back) ≠ lex front ++ lex back := by
  obtain ⟨t, c, hlast, hhead, hc⟩ := h
  obtain ⟨before, hsegments⟩ := lastLexeme?_eq_some_iff.mp hlast
  have ht : t.IsLexeme := isValid_last hsegments
  have hextends : (Segment.lexeme t).Extends back.toList :=
    ⟨c, hhead, (ht.goesOnWith_iff c).mp hc⟩
  intro heq
  rw [lex, String.toList_append, segments_append_of_eq hsegments, lex, hsegments] at heq
  have htokens : (segments (t.text.toList ++ back.toList)).filterMap Segment.token? =
      t :: lex back := by
    simpa [Segment.token?, List.filterMap_append, Segment.chars] using heq
  exact filterMap_segments_ne_of_extends ht hextends _ htokens

theorem diagnosticsFrom_add (offset bytes : Nat) (ss : List Segment) :
    diagnosticsFrom (offset + bytes) ss =
      (diagnosticsFrom offset ss).map (Diagnostic.shift bytes) := by
  induction ss generalizing offset with
  | nil => rfl
  | cons s ss ih =>
      have hlater : diagnosticsFrom (offset + bytes + utf8Length s.chars) ss =
          (diagnosticsFrom (offset + utf8Length s.chars) ss).map (Diagnostic.shift bytes) := by
        rw [← ih, Nat.add_right_comm]
      cases hs : s.unrecognized? with
      | none => simp only [diagnosticsFrom, hs, hlater]
      | some c => simp only [diagnosticsFrom, hs, hlater, List.map_cons, Diagnostic.shift]

theorem diagnostics_append_of_not_fusesAt {front back : String} (h : ¬FusesAt front back) :
    diagnostics (front ++ back) =
      diagnostics front ++ (diagnostics back).map (Diagnostic.shift front.utf8ByteSize) := by
  rw [diagnostics, segments_append_of_not_fusesAt h, diagnosticsFrom_append,
    flatMap_chars_segments, diagnosticsFrom_add, utf8Length_eq_utf8ByteSize, String.ofList_toList]
  rfl

/-! ## Gaps -/

theorem not_isBlank_of_isSpacingMark {c : Char} (h : isSpacingMark c) : ¬Text.isBlank c := by
  simp only [isSpacingMark, Bool.or_eq_true, decide_eq_true_eq] at h
  rcases h with ((rfl | rfl) | rfl) | rfl <;> decide

theorem IsGap.startsNoLexeme {c : Char} (h : IsGap c) : StartsNoLexeme c := by
  rcases h with hblank | ⟨hstart, -⟩
  · exact startsNoLexeme_of_isBlank hblank
  · exact hstart

theorem IsGap.isSeparator {c : Char} (h : IsGap c) : IsSeparator c := by
  refine ⟨fun halpha => ?_, fun hdigit => ?_, ?_⟩
  · exact h.startsNoLexeme .letter [] ⟨c, halpha, rfl⟩
  · exact h.startsNoLexeme .number [] (isNumeral_cons_iff.mpr ⟨hdigit, by simp, by simp⟩)
  · rcases h with hblank | ⟨-, hother⟩
    · refine ⟨?_, fun hmark => not_isBlank_of_isSpacingMark hmark hblank⟩
      rintro rfl
      exact absurd hblank (by decide)
    · exact hother

/-- Lexing distributes over two sources exactly when no lexeme goes on across the seam,
and no lexeme goes on across a gap. -/
theorem lex_append_iff_not_fusesAt (front back : String) :
    (lex (front ++ back) = lex front ++ lex back ↔ ¬FusesAt front back) ∧
      (¬FusesAt front back →
        diagnostics (front ++ back) =
          diagnostics front ++ (diagnostics back).map (Diagnostic.shift front.utf8ByteSize)) ∧
      ∀ gap : String, gap ≠ "" → (∀ c ∈ gap.toList, IsGap c) →
        lex (front ++ gap ++ back) = lex front ++ lex back := by
  refine ⟨⟨fun heq hfuses => lex_append_ne_of_fusesAt hfuses heq, lex_append_of_not_fusesAt⟩,
    diagnostics_append_of_not_fusesAt, ?_⟩
  intro gap hne hgap
  obtain ⟨d, ds, hchars⟩ := List.exists_cons_of_ne_nil (mt String.toList_eq_nil_iff.mp hne)
  have hseparate : IsSeparate (gap ++ back) :=
    isSeparate_append hchars (hgap d (by rw [hchars]; simp)).isSeparator back
  rw [String.append_assoc, lex_append_of_not_fusesAt (not_fusesAt_of_isSeparate hseparate),
    lex_skipped_append fun c hc => (hgap c hc).startsNoLexeme]

theorem lex_append_at_second_period :
    ¬FusesAt "1.2" ".3" ∧ IsGap '?' ∧
      diagnostics ("1.2" ++ ".3") =
        diagnostics "1.2" ++ (diagnostics ".3").map (Diagnostic.shift 3) ∧
      lex ("1.2" ++ "?" ++ ".3") = lex "1.2" ++ lex ".3" := by
  have hsegments : segments "1.2".toList = [.lexeme ⟨.number, "1.2"⟩] := by
    rw [show "1.2".toList = ['1', '.', '2'] from rfl, segments_cons,
      show Segment.first '1' ['.', '2'] = (.lexeme ⟨.number, "1.2"⟩, []) by decide, segments_nil]
  have hapart : ¬FusesAt "1.2" ".3" := by
    rintro ⟨t, c, hlast, hhead, hc⟩
    rw [lastLexeme?, hsegments] at hlast
    obtain rfl := Option.some.inj hlast
    obtain rfl := Option.some.inj hhead
    rcases hc with ⟨-, hdigit | ⟨-, hperiod⟩⟩ | ⟨hkind, -⟩ | ⟨htoken, -⟩
    · exact absurd hdigit (by decide)
    · exact hperiod (by decide)
    · cases hkind
    · cases htoken
  have hgap : IsGap '?' := Or.inr ⟨startsNoLexeme_iff.mpr (by decide), by decide, by decide⟩
  obtain ⟨-, hreports, htokens⟩ := lex_append_iff_not_fusesAt "1.2" ".3"
  refine ⟨hapart, hgap, hreports hapart, htokens "?" (by decide) ?_⟩
  intro c hc
  obtain rfl := List.mem_singleton.mp hc
  exact hgap

end MathMarkup
