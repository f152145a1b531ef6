import MathMarkup.Proofs.Lexing.Cut
import MathMarkup.Token.Stream

/-!
# Segmentation of a source

Every source has exactly one segmentation.  Its lexemes are the tokens, and its
unrecognized characters are the ones that are reported.
-/

namespace MathMarkup

theorem isSegmentation_segments (source : List Char) :
    IsSegmentation source (segments source) := by
  fun_induction segments source with
  | case1 => exact .nil
  | case2 c cs cut ih =>
      have hstep := IsSegmentation.cons (Segment.isValid_first c cs)
        (Segment.not_extends_first c cs) ih
      rwa [Segment.chars_first_append] at hstep

theorem segments_append {s : Segment} {rest : List Char} (hs : s.IsValid)
    (hmaximal : ¬s.Extends rest) : segments (s.chars ++ rest) = s :: segments rest := by
  obtain ⟨c, cs, hchars⟩ := List.exists_cons_of_ne_nil hs.chars_ne_nil
  rw [hchars, List.cons_append, segments_cons,
    Segment.first_eq_of_isValid hs hmaximal (by rw [hchars, List.cons_append])]

theorem IsSegmentation.eq_segments {source : List Char} {ss : List Segment}
    (h : IsSegmentation source ss) : ss = segments source := by
  induction h with
  | nil => exact segments_nil.symm
  | cons hs hmaximal _ ih => rw [segments_append hs hmaximal, ← ih]

theorem mem_segments_isValid {source : List Char} {s : Segment} (h : s ∈ segments source) :
    s.IsValid := by
  fun_induction segments source with
  | case1 => simp at h
  | case2 c cs cut ih =>
      rcases List.mem_cons.mp h with rfl | h
      · exact Segment.isValid_first c cs
      · exact ih h

theorem Segment.eq_lexeme_of_token? {s : Segment} {t : Token} (h : s.token? = some t) :
    s = .lexeme t := by
  cases s with
  | lexeme u =>
      obtain rfl := Option.some.inj h
      rfl
  | blank c => cases h
  | unrecognized c => cases h

theorem isLexeme_of_mem_lex {source : String} {t : Token} (h : t ∈ lex source) :
    t.IsLexeme := by
  obtain ⟨s, hs, ht⟩ := List.mem_filterMap.mp h
  obtain rfl := Segment.eq_lexeme_of_token? ht
  exact mem_segments_isValid hs

@[simp]
theorem utf8Length_nil : utf8Length [] = 0 := rfl

@[simp]
theorem utf8Length_append (cs ds : List Char) :
    utf8Length (cs ++ ds) = utf8Length cs + utf8Length ds := by
  induction cs with
  | nil => simp [utf8Length]
  | cons c cs ih => simp only [List.cons_append, utf8Length, ih, Nat.add_assoc]

theorem utf8Length_pos {cs : List Char} (h : cs ≠ []) : 0 < utf8Length cs := by
  obtain ⟨c, cs, rfl⟩ := List.exists_cons_of_ne_nil h
  have hc := Char.utf8Size_pos c
  rw [utf8Length]
  omega

theorem utf8Length_eq_utf8ByteSize (cs : List Char) :
    utf8Length cs = (String.ofList cs).utf8ByteSize := by
  induction cs with
  | nil => rfl
  | cons c cs ih =>
      have hcons : String.ofList (c :: cs) = String.singleton c ++ String.ofList cs := by
        rw [String.singleton_eq_ofList, ← String.ofList_append]
        rfl
      rw [hcons, String.utf8ByteSize_append, String.utf8ByteSize_singleton, ← ih]
      rfl

/-! ## Reports -/

theorem diagnosticsFrom_append (offset : Nat) (ss us : List Segment) :
    diagnosticsFrom offset (ss ++ us) =
      diagnosticsFrom offset ss ++
        diagnosticsFrom (offset + utf8Length (ss.flatMap Segment.chars)) us := by
  induction ss generalizing offset with
  | nil => simp [diagnosticsFrom]
  | cons s ss ih =>
      simp only [List.cons_append, diagnosticsFrom, ih, List.flatMap_cons, utf8Length_append,
        Nat.add_assoc]
      cases s.unrecognized? with
      | none => rfl
      | some c => rfl

theorem mem_diagnosticsFrom {offset : Nat} {ss : List Segment} {d : Diagnostic} :
    d ∈ diagnosticsFrom offset ss ↔
      ∃ before after, ss = before ++ .unrecognized d.character :: after ∧
        d.offset = offset + utf8Length (before.flatMap Segment.chars) := by
  constructor
  · intro h
    induction ss generalizing offset with
    | nil => simp [diagnosticsFrom] at h
    | cons s ss ih =>
        have hlater : d ∈ diagnosticsFrom (offset + utf8Length s.chars) ss →
            ∃ before after, s :: ss = before ++ .unrecognized d.character :: after ∧
              d.offset = offset + utf8Length (before.flatMap Segment.chars) := by
          intro h
          obtain ⟨before, after, rfl, hoffset⟩ := ih h
          refine ⟨s :: before, after, rfl, ?_⟩
          simp [hoffset, Nat.add_assoc]
        cases s with
        | unrecognized c =>
            rcases List.mem_cons.mp h with rfl | h
            · exact ⟨[], ss, rfl, by simp⟩
            · exact hlater h
        | blank c => exact hlater h
        | lexeme t => exact hlater h
  · rintro ⟨before, after, rfl, hoffset⟩
    rw [diagnosticsFrom_append, ← hoffset]
    simp [diagnosticsFrom, Segment.unrecognized?]

theorem le_offset_of_mem_diagnosticsFrom {offset : Nat} {ss : List Segment} {d : Diagnostic}
    (h : d ∈ diagnosticsFrom offset ss) : offset ≤ d.offset := by
  obtain ⟨before, after, -, hoffset⟩ := mem_diagnosticsFrom.mp h
  omega

theorem pairwise_diagnosticsFrom (offset : Nat) (ss : List Segment) :
    (diagnosticsFrom offset ss).Pairwise fun d e => d.offset < e.offset := by
  induction ss generalizing offset with
  | nil => exact .nil
  | cons s ss ih =>
      cases s with
      | unrecognized c =>
          refine List.pairwise_cons.mpr ⟨?_, ih _⟩
          intro d hd
          have hle := le_offset_of_mem_diagnosticsFrom hd
          have hpos : 0 < utf8Length (Segment.unrecognized c).chars :=
            utf8Length_pos (by simp [Segment.chars])
          simp only
          omega
      | blank c => exact ih _
      | lexeme t => exact ih _

/-! ## Reading a token stream -/

namespace TokenStream

/-- The stream after several segments, with `rest` as the unread source. -/
def passAll (stream : TokenStream) (ss : List Segment) (rest : List Char) : TokenStream where
  unread := rest
  offset := stream.offset + utf8Length (ss.flatMap Segment.chars)
  diagnostics := stream.diagnostics ++ diagnosticsFrom stream.offset ss

theorem passAll_nil (stream : TokenStream) : stream.passAll [] stream.unread = stream := by
  simp [passAll, diagnosticsFrom]

theorem passAll_append (stream : TokenStream) (ss us : List Segment) (mid rest : List Char) :
    (stream.passAll ss mid).passAll us rest = stream.passAll (ss ++ us) rest := by
  simp [passAll, diagnosticsFrom_append, Nat.add_assoc]

theorem pass_eq_passAll (stream : TokenStream) (s : Segment) (rest : List Char) :
    stream.pass s rest = stream.passAll [s] rest := by
  cases s <;> simp [pass, passAll, diagnosticsFrom, Segment.unrecognized?]

theorem exists_skipped (stream : TokenStream) :
    ∃ skipped : List Segment, (∀ s ∈ skipped, s.token? = none) ∧
      segments stream.unread =
        skipped ++ stream.next.1.toList.map .lexeme ++ segments stream.next.2.unread ∧
      stream.next.2 =
        stream.passAll (skipped ++ stream.next.1.toList.map .lexeme) stream.next.2.unread ∧
      (stream.next.1 = none → stream.next.2.unread = []) := by
  fun_induction next stream with
  | case1 stream hunread =>
      exact ⟨[], by simp, by simp, (passAll_nil stream).symm, fun _ => hunread⟩
  | case2 stream c cs hunread cut token htoken =>
      have hlexeme : cut.1 = .lexeme token := Segment.eq_lexeme_of_token? htoken
      refine ⟨[], by simp, ?_, ?_, by simp⟩
      · rw [hunread, segments_cons]
        exact congrArg (· :: segments cut.2) hlexeme
      · rw [pass_eq_passAll, hlexeme]
        rfl
  | case3 stream c cs hunread cut hnone ih =>
      obtain ⟨skipped, htokens, hsegments, hafter, hend⟩ := ih
      refine ⟨cut.1 :: skipped, ?_, ?_, ?_, hend⟩
      · simpa [hnone] using htokens
      · rw [hunread, segments_cons, List.cons_append, List.cons_append, ← hsegments]
        rfl
      · rw [pass_eq_passAll] at hafter ⊢
        rw [passAll_append] at hafter
        exact hafter

/-- A request passes over segments up to its token, or over all of them. -/
theorem exists_passed (stream : TokenStream) :
    ∃ ss, segments stream.unread = ss ++ segments stream.next.2.unread ∧
      stream.next.2 = stream.passAll ss stream.next.2.unread ∧
      ss.filterMap Segment.token? = stream.next.1.toList ∧
      (stream.next.1 = none → stream.next.2.unread = []) := by
  obtain ⟨skipped, htokens, hsegments, hafter, hend⟩ := exists_skipped stream
  refine ⟨_, hsegments, hafter, ?_, hend⟩
  rw [List.filterMap_append, List.filterMap_eq_nil_iff.mpr htokens]
  cases stream.next.1 with
  | none => rfl
  | some token => rfl

theorem drain_eq (stream : TokenStream) :
    stream.drain = ((segments stream.unread).filterMap Segment.token?,
      stream.passAll (segments stream.unread) []) := by
  fun_induction drain stream with
  | case1 stream after hnext =>
      obtain ⟨ss, hsegments, hafter, htokens, hend⟩ := exists_passed stream
      rw [hnext] at hsegments hafter htokens hend
      have hdone : after.unread = [] := hend rfl
      rw [hdone, segments_nil, List.append_nil] at hsegments
      rw [hdone] at hafter
      rw [hsegments, htokens, ← hafter]
      rfl
  | case2 stream token after hnext later ih =>
      obtain ⟨ss, hsegments, hafter, htokens, -⟩ := exists_passed stream
      rw [hnext] at hsegments hafter htokens
      have hlater : later = _ := ih
      rw [hlater, hsegments, List.filterMap_append, htokens, ← passAll_append, ← hafter]
      rfl

end TokenStream

/-- The segmentation of a source exists and is unique.  Its lexemes are the tokens, and
its unrecognized segments are reported at the byte offsets where they stand. -/
theorem exists_unique_segmentation (source : String) :
    ∃ ss, IsSegmentation source.toList ss ∧
      (∀ other, IsSegmentation source.toList other → other = ss) ∧
      ss.flatMap Segment.chars = source.toList ∧
      lex source = ss.filterMap Segment.token? ∧
      (TokenStream.ofString source).drain =
        (lex source, ⟨[], source.utf8ByteSize, diagnostics source⟩) ∧
      (∀ d, d ∈ diagnostics source ↔
        ∃ before after, ss = before ++ .unrecognized d.character :: after ∧
          d.offset = utf8Length (before.flatMap Segment.chars)) ∧
      (diagnostics source).Pairwise fun d e => d.offset < e.offset := by
  refine ⟨segments source.toList, isSegmentation_segments source.toList,
    fun other h => h.eq_segments, flatMap_chars_segments source.toList, rfl, ?_, ?_, ?_⟩
  · rw [TokenStream.drain_eq, TokenStream.passAll]
    simp only [TokenStream.ofString, flatMap_chars_segments, utf8Length_eq_utf8ByteSize,
      String.ofList_toList, Nat.zero_add, List.nil_append]
    rfl
  · intro d
    rw [diagnostics, mem_diagnosticsFrom]
    simp only [Nat.zero_add]
  · exact pairwise_diagnosticsFrom 0 (segments source.toList)

end MathMarkup
