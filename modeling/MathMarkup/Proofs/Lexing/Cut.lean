import MathMarkup.Proofs.Lexing.Classes

/-!
# The first segment of a source

Cutting a source takes off the only segment that belongs to its class and that the
next character would not lengthen.
-/

namespace MathMarkup

theorem not_of_head?_dropWhile {p : Char → Bool} {cs : List Char} {c : Char}
    (h : (cs.dropWhile p).head? = some c) : ¬p c := by
  simpa [h] using List.head?_dropWhile_not p cs

theorem forall_takeWhile (p : Char → Bool) (cs : List Char) : ∀ c ∈ cs.takeWhile p, p c :=
  List.all_eq_true.mp List.all_takeWhile

theorem not_isAlpha_of_isSpacingMark {c : Char} (h : isSpacingMark c) : ¬c.isAlpha := by
  simp only [isSpacingMark, Bool.or_eq_true, decide_eq_true_eq] at h
  rcases h with ((rfl | rfl) | rfl) | rfl <;> decide

namespace Segment

/-! ## Commands -/

theorem admits_splitCommand (cs : List Char) :
    TokenKind.command.Admits ('\\' :: (splitCommand cs).1) := by
  refine isCommandText_cons_iff.mpr ⟨rfl, ?_⟩
  cases cs with
  | nil => exact Or.inr (by simp [splitCommand])
  | cons c cs =>
      by_cases hc : isSpacingMark c
      · exact Or.inl ⟨c, hc, by simp [splitCommand, hc]⟩
      · rw [splitCommand, if_neg hc]
        exact Or.inr (forall_takeWhile Char.isAlpha (c :: cs))

theorem not_admits_splitCommand {cs : List Char} {d : Char}
    (h : (splitCommand cs).2.head? = some d) :
    ¬TokenKind.command.Admits ('\\' :: (splitCommand cs).1 ++ [d]) := by
  intro hadmits
  have htail := (isCommandText_cons_iff.mp hadmits).2
  cases cs with
  | nil => simp [splitCommand] at h
  | cons c cs =>
      by_cases hc : isSpacingMark c
      · rw [splitCommand, if_pos hc] at htail
        rcases htail with ⟨e, -, heq⟩ | hletters
        · simp at heq
        · exact not_isAlpha_of_isSpacingMark hc (hletters c (by simp))
      · have hwhole := splitCommand_append (c :: cs)
        rw [splitCommand, if_neg hc] at h htail hwhole
        rcases htail with ⟨e, he, heq⟩ | hletters
        · rcases List.append_eq_singleton_iff.mp heq with ⟨hnil, heq⟩ | ⟨-, heq⟩
          · rw [hnil, List.nil_append] at hwhole
            rw [hwhole] at h
            obtain rfl := Option.some.inj h
            obtain ⟨rfl, -⟩ := List.cons.inj heq
            exact hc he
          · simp at heq
        · exact not_of_head?_dropWhile h (hletters d (by simp))

/-! ## Numbers -/

theorem admits_splitNumber {c : Char} (hc : c.isDigit) (cs : List Char) :
    TokenKind.number.Admits (c :: (splitNumber cs).1) := by
  have hwhole : ∀ x ∈ c :: cs.takeWhile Char.isDigit, x.isDigit := by
    intro x hx
    rcases List.mem_cons.mp hx with rfl | hx
    · exact hc
    · exact forall_takeWhile Char.isDigit cs x hx
  unfold splitNumber
  split
  next rest hrest =>
    exact ⟨c :: cs.takeWhile Char.isDigit, rest.takeWhile Char.isDigit, by simp, hwhole,
      forall_takeWhile Char.isDigit rest, Or.inr rfl⟩
  next =>
    exact ⟨c :: cs.takeWhile Char.isDigit, [], by simp, hwhole, by simp, Or.inl rfl⟩

theorem not_admits_splitNumber {c d : Char} {cs : List Char}
    (h : (splitNumber cs).2.head? = some d) :
    ¬TokenKind.number.Admits (c :: (splitNumber cs).1 ++ [d]) := by
  intro hadmits
  rw [List.cons_append] at hadmits
  obtain ⟨-, hchars, hcount⟩ := isNumeral_cons_iff.mp hadmits
  have hd := hchars d (by simp)
  unfold splitNumber at h hcount
  split at h
  next rest hrest =>
    rw [hrest] at hcount
    have hperiod : d = '.' := hd.resolve_left (not_of_head?_dropWhile h)
    subst hperiod
    simp only [List.count_append, List.count_cons_self, List.count_nil] at hcount
    omega
  next hrest =>
    rcases hd with hd | rfl
    · exact not_of_head?_dropWhile h hd
    · cases hdrop : cs.dropWhile Char.isDigit with
      | nil => simp [hdrop] at h
      | cons e rest =>
          rw [hdrop] at h
          obtain rfl := Option.some.inj h
          exact hrest rest hdrop

theorem not_admits_of_length {kind : TokenKind} {c d : Char}
    (hcommand : kind ≠ .command) (hnumber : kind ≠ .number) : ¬kind.Admits [c, d] := by
  intro h
  rcases h.cases with ⟨hkind, -⟩ | ⟨hkind, -⟩ | ⟨-, e, -, heq⟩ | ⟨e, -, heq⟩
  · exact hcommand hkind
  · exact hnumber hkind
  · simp at heq
  · simp at heq

/-! ## The first segment -/

theorem IsValid.chars_ne_nil {s : Segment} (h : s.IsValid) : s.chars ≠ [] := by
  cases s with
  | blank c => simp [chars]
  | unrecognized c => simp [chars]
  | lexeme t => exact TokenKind.Admits.ne_nil h

theorem isValid_ofChars {kind : TokenKind} {cs : List Char} (h : kind.Admits cs) :
    (ofChars kind cs).IsValid := by
  simpa [ofChars, IsValid, Token.IsLexeme] using h

theorem not_extends_ofChars {kind : TokenKind} {cs rest : List Char}
    (h : ∀ d, rest.head? = some d → ¬kind.Admits (cs ++ [d])) :
    ¬(ofChars kind cs).Extends rest := by
  rintro ⟨d, hd, hadmits⟩
  exact h d hd (by simpa using hadmits)

theorem isValid_first (c : Char) (cs : List Char) : (first c cs).1.IsValid := by
  unfold first
  split
  next hc =>
    subst hc
    exact isValid_ofChars (admits_splitCommand cs)
  next hslash =>
  split
  next hc => exact isValid_ofChars (admits_splitNumber hc cs)
  next hdigit =>
  split
  next hc => exact isValid_ofChars ⟨c, hc, rfl⟩
  next halpha =>
  split
  next kind hkind => exact isValid_ofChars (TokenKind.admits_of_ofMark? hkind)
  next hkind =>
    have hstart : TokenKind.startingWith? c = none := by
      rw [TokenKind.startingWith?, if_neg hslash, if_neg hdigit, if_neg halpha, hkind]
    split
    next hblank => exact hblank
    next hblank => exact ⟨startsNoLexeme_iff.mpr hstart, hblank⟩

theorem not_extends_first (c : Char) (cs : List Char) :
    ¬(first c cs).1.Extends (first c cs).2 := by
  unfold first
  split
  next hc =>
    subst hc
    exact not_extends_ofChars fun d hd => not_admits_splitCommand hd
  split
  next => exact not_extends_ofChars fun d hd => not_admits_splitNumber hd
  split
  next => exact not_extends_ofChars fun d _ => not_admits_of_length (by decide) (by decide)
  split
  next kind hkind =>
    obtain ⟨hcommand, hnumber, -⟩ := TokenKind.ne_of_ofMark? hkind
    exact not_extends_ofChars fun d _ => not_admits_of_length hcommand hnumber
  next => split <;> exact id

/-- Of two lexemes at the same place, one that cannot be lengthened is not
shorter than the other one. -/
theorem eq_nil_of_not_extends {t u : Token} {between rest : List Char} (hu : u.IsLexeme)
    (hkind : t.kind = u.kind)
    (htext : u.text.toList = t.text.toList ++ between)
    (hmaximal : ¬(lexeme t).Extends (between ++ rest)) : between = [] := by
  cases between with
  | nil => rfl
  | cons d ds =>
      have hlonger : u.kind.Admits ((t.text.toList ++ [d]) ++ ds) := by
        have := hu
        rw [Token.IsLexeme, htext] at this
        simpa using this
      rw [← hkind] at hlonger
      exact absurd ⟨d, by simp, hlonger.of_append (by simp)⟩ hmaximal

theorem lexeme_unique {t u : Token} {rest rest' : List Char} (ht : t.IsLexeme)
    (hu : u.IsLexeme) (hmaximal : ¬(lexeme t).Extends rest)
    (hmaximal' : ¬(lexeme u).Extends rest')
    (heq : t.text.toList ++ rest = u.text.toList ++ rest') : t = u ∧ rest = rest' := by
  have hkind : t.kind = u.kind := by
    obtain ⟨c, cs, ht'⟩ := List.exists_cons_of_ne_nil (TokenKind.Admits.ne_nil ht)
    obtain ⟨d, ds, hu'⟩ := List.exists_cons_of_ne_nil (TokenKind.Admits.ne_nil hu)
    rw [ht', hu'] at heq
    obtain ⟨rfl, -⟩ := List.cons.inj heq
    rw [Token.IsLexeme, ht'] at ht
    rw [Token.IsLexeme, hu'] at hu
    exact Option.some.inj (ht.startingWith?.symm.trans hu.startingWith?)
  have htext : t.text.toList = u.text.toList ∧ rest = rest' := by
    rcases List.append_eq_append_iff.mp heq with ⟨between, hlong, rfl⟩ | ⟨between, hlong, rfl⟩
    · obtain rfl := eq_nil_of_not_extends hu hkind hlong hmaximal
      simp [hlong]
    · obtain rfl := eq_nil_of_not_extends ht hkind.symm hlong hmaximal'
      simp [hlong]
  refine ⟨?_, htext.2⟩
  cases t
  cases u
  simp_all [String.toList_inj]

theorem lexeme_append_ne_cons {t : Token} {c : Char} {rest cs : List Char} (ht : t.IsLexeme)
    (hc : StartsNoLexeme c) : t.text.toList ++ rest ≠ c :: cs := by
  intro heq
  obtain ⟨d, ds, htext⟩ := List.exists_cons_of_ne_nil (TokenKind.Admits.ne_nil ht)
  rw [htext] at heq
  obtain ⟨rfl, -⟩ := List.cons.inj heq
  rw [Token.IsLexeme, htext] at ht
  exact hc t.kind ds ht

/-- A source has at most one first segment that belongs to its class and cannot be lengthened. -/
theorem cut_unique {s u : Segment} {rest rest' : List Char} (hs : s.IsValid) (hu : u.IsValid)
    (hmaximal : ¬s.Extends rest) (hmaximal' : ¬u.Extends rest')
    (heq : s.chars ++ rest = u.chars ++ rest') : s = u ∧ rest = rest' := by
  cases s with
  | lexeme t =>
      cases u with
      | lexeme t' =>
          obtain ⟨rfl, hrest⟩ := lexeme_unique hs hu hmaximal hmaximal' heq
          exact ⟨rfl, hrest⟩
      | blank c =>
          exact absurd heq (lexeme_append_ne_cons hs (startsNoLexeme_of_isBlank hu))
      | unrecognized c => exact absurd heq (lexeme_append_ne_cons hs hu.1)
  | blank c =>
      cases u with
      | lexeme t =>
          exact absurd heq.symm (lexeme_append_ne_cons hu (startsNoLexeme_of_isBlank hs))
      | blank d =>
          obtain ⟨rfl, hrest⟩ := List.cons.inj heq
          exact ⟨rfl, hrest⟩
      | unrecognized d =>
          obtain ⟨rfl, -⟩ := List.cons.inj heq
          exact absurd hs hu.2
  | unrecognized c =>
      cases u with
      | lexeme t => exact absurd heq.symm (lexeme_append_ne_cons hu hs.1)
      | blank d =>
          obtain ⟨rfl, -⟩ := List.cons.inj heq
          exact absurd hu hs.2
      | unrecognized d =>
          obtain ⟨rfl, hrest⟩ := List.cons.inj heq
          exact ⟨rfl, hrest⟩

theorem first_eq_of_isValid {s : Segment} {c : Char} {cs rest : List Char} (hs : s.IsValid)
    (hmaximal : ¬s.Extends rest) (heq : s.chars ++ rest = c :: cs) :
    first c cs = (s, rest) := by
  obtain ⟨hsegment, hrest⟩ := cut_unique (isValid_first c cs) hs (not_extends_first c cs)
    hmaximal ((chars_first_append c cs).trans heq.symm)
  exact Prod.ext hsegment hrest

end Segment
end MathMarkup
