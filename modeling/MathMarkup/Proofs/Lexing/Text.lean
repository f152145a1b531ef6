import MathMarkup.Proofs.Lexing.Segmentation

/-!
# Lexing a text that is put together from pieces

A lexeme at the beginning of a text is one token of it, provided that the first
character after it does not lengthen it.
-/

namespace MathMarkup

/-- Whether a character can stand after the first one in no lexeme. -/
def IsSeparator (c : Char) : Prop :=
  ¬c.isAlpha ∧ ¬c.isDigit ∧ c ≠ '.' ∧ ¬isSpacingMark c

instance (c : Char) : Decidable (IsSeparator c) := by
  unfold IsSeparator
  infer_instance

/-- Whether a text lengthens no lexeme that stands before it. -/
def IsSeparate (rest : String) : Prop :=
  ∀ c ∈ rest.toList.head?, IsSeparator c

theorem isSeparate_empty : IsSeparate "" := by
  intro c hc
  simp at hc

theorem isSeparate_append {c : Char} {cs : List Char} {front : String}
    (hfront : front.toList = c :: cs) (hc : IsSeparator c) (rest : String) :
    IsSeparate (front ++ rest) := by
  intro d hd
  rw [String.toList_append, hfront] at hd
  obtain rfl := Option.some.inj hd
  exact hc

theorem not_extends_of_isSeparate {t : Token} {rest : String} (ht : t.IsLexeme)
    (hrest : IsSeparate rest) : ¬(Segment.lexeme t).Extends rest.toList := by
  rintro ⟨c, hc, hadmits⟩
  obtain ⟨halpha, hdigit, hperiod, hmark⟩ := hrest c hc
  rcases hadmits.last (TokenKind.Admits.ne_nil ht) with h | h | h | h
  · exact halpha h
  · exact hdigit h
  · exact hperiod h
  · exact hmark h

theorem not_extends_of_kind {t : Token} (ht : t.IsLexeme) (hcommand : t.kind ≠ .command)
    (hnumber : t.kind ≠ .number) (rest : List Char) : ¬(Segment.lexeme t).Extends rest := by
  rintro ⟨d, -, hadmits⟩
  rcases TokenKind.Admits.cases ht with ⟨hkind, -⟩ | ⟨hkind, -⟩ | ⟨-, c, -, hc⟩ | ⟨c, -, hc⟩
  · exact hcommand hkind
  · exact hnumber hkind
  · rw [hc] at hadmits
    exact Segment.not_admits_of_length hcommand hnumber hadmits
  · rw [hc] at hadmits
    exact Segment.not_admits_of_length hcommand hnumber hadmits

theorem not_extends_thinSpace (rest : List Char) :
    ¬(Segment.lexeme .thinSpace).Extends rest := by
  rintro ⟨d, -, hadmits⟩
  have htext : Token.thinSpace.text.toList = ['\\', ','] := by decide
  rw [htext] at hadmits
  rcases (isCommandText_cons_iff.mp hadmits).2 with ⟨e, -, heq⟩ | hletters
  · simp at heq
  · exact absurd (hletters ',' (by simp)) (by decide)

theorem lex_lexeme_append {t : Token} {rest : String} (ht : t.IsLexeme)
    (hrest : ¬(Segment.lexeme t).Extends rest.toList) : lex (t.text ++ rest) = t :: lex rest := by
  have hs : (Segment.lexeme t).IsValid := ht
  have hcut := segments_append hs hrest
  rw [lex, String.toList_append]
  rw [Segment.chars] at hcut
  rw [hcut]
  rfl

theorem Segment.exists_skipped {c : Char} (h : StartsNoLexeme c) :
    ∃ s : Segment, s.IsValid ∧ (∀ rest, ¬s.Extends rest) ∧ s.chars = [c] ∧ s.token? = none := by
  by_cases hblank : Text.isBlank c
  · exact ⟨.blank c, hblank, fun _ => id, rfl, rfl⟩
  · exact ⟨.unrecognized c, ⟨h, hblank⟩, fun _ => id, rfl, rfl⟩

theorem lex_skipped_append {front : String} (hfront : ∀ c ∈ front.toList, StartsNoLexeme c)
    (rest : String) : lex (front ++ rest) = lex rest := by
  rw [lex, lex, String.toList_append]
  generalize front.toList = cs at hfront
  induction cs with
  | nil => rfl
  | cons c cs ih =>
      have hlater := ih fun d hd => hfront d (List.mem_cons_of_mem c hd)
      obtain ⟨s, hs, hmaximal, hchars, htoken⟩ :=
        Segment.exists_skipped (hfront c List.mem_cons_self)
      have hcut := segments_append hs (hmaximal (cs ++ rest.toList))
      rw [hchars] at hcut
      rw [List.cons_append, ← List.singleton_append, hcut, List.filterMap_cons_none htoken, hlater]

theorem toList_space : " ".toList = [' '] := by decide

theorem lex_space_append (rest : String) : lex (" " ++ rest) = lex rest := by
  apply lex_skipped_append
  intro c hc
  rw [toList_space] at hc
  obtain rfl := List.mem_singleton.mp hc
  exact startsNoLexeme_of_isBlank (by decide)

theorem isSeparate_space_append (rest : String) : IsSeparate (" " ++ rest) :=
  isSeparate_append toList_space (by decide) rest

end MathMarkup
