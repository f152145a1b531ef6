import MathMarkup.Token.Lexeme

/-!
# Properties of the lexical classes

The first character of a lexeme determines its kind, and a nonempty beginning of a
lexeme is again a lexeme of that kind.
-/

namespace MathMarkup

/-- The kind of the lexemes that start with a character. -/
def TokenKind.startingWith? (c : Char) : Option TokenKind :=
  if c = '\\' then some .command
  else if c.isDigit then some .number
  else if c.isAlpha then some .letter
  else TokenKind.ofMark? c

theorem isAlpha_iff_toNat {c : Char} :
    c.isAlpha ↔ (65 ≤ c.toNat ∧ c.toNat ≤ 90) ∨ (97 ≤ c.toNat ∧ c.toNat ≤ 122) := by
  change (decide (c.val ≥ 65 ∧ c.val ≤ 90) || (decide (c.val ≥ 97) && decide (c.val ≤ 122))) =
    true ↔ _
  simp only [Bool.or_eq_true, Bool.and_eq_true, decide_eq_true_eq, ge_iff_le,
    UInt32.le_iff_toNat_le]
  exact Iff.rfl

theorem not_isDigit_of_isAlpha {c : Char} (h : c.isAlpha) : ¬c.isDigit := by
  rw [isAlpha_iff_toNat] at h
  rw [Char.isDigit_iff_toNat]
  change ¬(48 ≤ c.toNat ∧ c.toNat ≤ 57)
  omega

/-- The characters that are tokens by themselves, with their kinds. -/
def TokenKind.marks : List (Char × TokenKind) :=
  [('{', .leftBracket), ('}', .rightBracket), ('(', .leftParen), (')', .rightParen),
    ('^', .superscript), ('_', .subscript), ('+', .plus), ('-', .minus), ('*', .times)]

theorem TokenKind.mem_marks_of_ofMark? {c : Char} {kind : TokenKind}
    (h : TokenKind.ofMark? c = some kind) : (c, kind) ∈ marks := by
  unfold TokenKind.ofMark? at h
  split at h
  case h_10 => exact absurd h (by simp)
  all_goals
    obtain rfl := Option.some.inj h
    decide

theorem TokenKind.startingWith?_of_ofMark? {c : Char} {kind : TokenKind}
    (h : TokenKind.ofMark? c = some kind) : TokenKind.startingWith? c = some kind := by
  have hmarks : ∀ mark ∈ marks, startingWith? mark.1 = some mark.2 := by decide
  exact hmarks (c, kind) (mem_marks_of_ofMark? h)

theorem TokenKind.ne_of_ofMark? {c : Char} {kind : TokenKind}
    (h : TokenKind.ofMark? c = some kind) :
    kind ≠ .command ∧ kind ≠ .number ∧ kind ≠ .letter := by
  have hmarks : ∀ mark ∈ marks,
      mark.2 ≠ .command ∧ mark.2 ≠ .number ∧ mark.2 ≠ .letter := by decide
  exact hmarks (c, kind) (mem_marks_of_ofMark? h)

theorem TokenKind.ofMark?_injective {c d : Char} {kind : TokenKind}
    (hc : TokenKind.ofMark? c = some kind) (hd : TokenKind.ofMark? d = some kind) : c = d := by
  have hmarks : ∀ mark ∈ marks, ∀ other ∈ marks, mark.2 = other.2 → mark.1 = other.1 := by
    decide
  exact hmarks (c, kind) (mem_marks_of_ofMark? hc) (d, kind) (mem_marks_of_ofMark? hd) rfl

/-! ## Admission by kind -/

theorem TokenKind.admits_of_ofMark? {c : Char} {kind : TokenKind}
    (h : TokenKind.ofMark? c = some kind) : kind.Admits [c] := by
  obtain ⟨hcommand, hnumber, hletter⟩ := ne_of_ofMark? h
  cases kind with
  | command => exact absurd rfl hcommand
  | number => exact absurd rfl hnumber
  | letter => exact absurd rfl hletter
  | _ => exact ⟨c, h, rfl⟩

theorem TokenKind.Admits.cases {kind : TokenKind} {cs : List Char} (h : kind.Admits cs) :
    (kind = .command ∧ IsCommandText cs) ∨ (kind = .number ∧ IsNumeral cs) ∨
      (kind = .letter ∧ IsLetterText cs) ∨
      ∃ c, TokenKind.ofMark? c = some kind ∧ cs = [c] := by
  cases kind with
  | command => exact Or.inl ⟨rfl, h⟩
  | number => exact Or.inr (Or.inl ⟨rfl, h⟩)
  | letter => exact Or.inr (Or.inr (Or.inl ⟨rfl, h⟩))
  | _ => exact Or.inr (Or.inr (Or.inr h))

theorem Token.isLexeme_iff_of_ofMark? {t : Token} {c : Char}
    (h : TokenKind.ofMark? c = some t.kind) :
    t.IsLexeme ↔ t.text = String.singleton c := by
  constructor
  · intro ht
    obtain ⟨hcommand, hnumber, hletter⟩ := TokenKind.ne_of_ofMark? h
    rcases ht.cases with ⟨hkind, -⟩ | ⟨hkind, -⟩ | ⟨hkind, -⟩ | ⟨d, hd, htext⟩
    · exact absurd hkind hcommand
    · exact absurd hkind hnumber
    · exact absurd hkind hletter
    · rw [← TokenKind.ofMark?_injective h hd] at htext
      rw [← String.toList_inj, htext, String.toList_singleton]
  · intro htext
    rw [Token.IsLexeme, htext, String.toList_singleton]
    exact TokenKind.admits_of_ofMark? h

theorem isCommandText_cons_iff {c : Char} {cs : List Char} :
    IsCommandText (c :: cs) ↔
      c = '\\' ∧ ((∃ d, isSpacingMark d ∧ cs = [d]) ∨ ∀ d ∈ cs, d.isAlpha) := by
  constructor
  · rintro (⟨d, hd, heq⟩ | ⟨letters, hletters, heq⟩)
    · obtain ⟨rfl, rfl⟩ := List.cons.inj heq
      exact ⟨rfl, Or.inl ⟨d, hd, rfl⟩⟩
    · obtain ⟨rfl, rfl⟩ := List.cons.inj heq
      exact ⟨rfl, Or.inr hletters⟩
  · rintro ⟨rfl, ⟨d, hd, rfl⟩ | hletters⟩
    · exact Or.inl ⟨d, hd, rfl⟩
    · exact Or.inr ⟨cs, hletters, rfl⟩

theorem count_period_eq_zero {cs : List Char} (h : ∀ c ∈ cs, c.isDigit) :
    cs.count '.' = 0 := by
  refine List.count_eq_zero.mpr fun hmem => ?_
  exact absurd (h '.' hmem) (by decide)

theorem isDigit_of_count_period_eq_zero {cs : List Char}
    (h : ∀ c ∈ cs, c.isDigit ∨ c = '.') (hcount : cs.count '.' = 0) :
    ∀ c ∈ cs, c.isDigit := by
  intro c hc
  refine (h c hc).resolve_right ?_
  rintro rfl
  exact List.count_eq_zero.mp hcount hc

theorem eq_period_of_dropWhile {cs fraction : List Char} {c : Char}
    (h : ∀ d ∈ cs, d.isDigit ∨ d = '.')
    (hrest : cs.dropWhile Char.isDigit = c :: fraction) : c = '.' := by
  have hnot : ¬c.isDigit := by
    simpa [hrest] using List.head?_dropWhile_not Char.isDigit cs
  have hmem : c ∈ cs := by
    apply (List.dropWhile_sublist Char.isDigit).subset
    simp [hrest]
  exact (h c hmem).resolve_left hnot

theorem isNumeral_cons_iff {c : Char} {cs : List Char} :
    IsNumeral (c :: cs) ↔
      c.isDigit ∧ (∀ d ∈ cs, d.isDigit ∨ d = '.') ∧ cs.count '.' ≤ 1 := by
  constructor
  · rintro ⟨whole, fraction, hne, hwhole, hfraction, hcs⟩
    obtain ⟨d, ds, rfl⟩ := List.exists_cons_of_ne_nil hne
    have hds : ∀ x ∈ ds, x.isDigit := fun x hx => hwhole x (by simp [hx])
    rcases hcs with hcs | hcs
    · obtain ⟨rfl, rfl⟩ := List.cons.inj hcs
      have hcount : cs.count '.' = 0 := count_period_eq_zero hds
      exact ⟨hwhole c (by simp), fun x hx => Or.inl (hds x hx), by omega⟩
    · rw [List.cons_append] at hcs
      obtain ⟨rfl, rfl⟩ := List.cons.inj hcs
      have hcount : (ds ++ '.' :: fraction).count '.' = 1 := by
        rw [List.count_append, count_period_eq_zero hds, List.count_cons_self,
          count_period_eq_zero hfraction]
      refine ⟨hwhole c (by simp), ?_, by omega⟩
      intro x hx
      rcases List.mem_append.mp hx with hx | hx
      · exact Or.inl (hds x hx)
      · rcases List.mem_cons.mp hx with rfl | hx
        · exact Or.inr rfl
        · exact Or.inl (hfraction x hx)
  · rintro ⟨hc, hcs, hcount⟩
    have happend : cs.takeWhile Char.isDigit ++ cs.dropWhile Char.isDigit = cs :=
      List.takeWhile_append_dropWhile
    have hwhole : ∀ x ∈ c :: cs.takeWhile Char.isDigit, x.isDigit := by
      intro x hx
      rcases List.mem_cons.mp hx with rfl | hx
      · exact hc
      · exact List.all_eq_true.mp List.all_takeWhile x hx
    cases hrest : cs.dropWhile Char.isDigit with
    | nil =>
      rw [hrest, List.append_nil] at happend
      rw [happend] at hwhole
      exact ⟨c :: cs, [], by simp, hwhole, by simp, Or.inl rfl⟩
    | cons d fraction =>
      obtain rfl := eq_period_of_dropWhile hcs hrest
      rw [hrest] at happend
      have hsub : ∀ x ∈ fraction, x ∈ cs := fun x hx => by
        rw [← happend]
        simp [hx]
      have hzero : fraction.count '.' = 0 := by
        rw [← happend, List.count_append, List.count_cons_self] at hcount
        omega
      refine ⟨c :: cs.takeWhile Char.isDigit, fraction, by simp, hwhole, ?_, Or.inr ?_⟩
      · exact isDigit_of_count_period_eq_zero (fun x hx => hcs x (hsub x hx)) hzero
      · rw [List.cons_append, happend]

/-! ## The first character and the beginnings of a lexeme -/

theorem TokenKind.Admits.ne_nil {kind : TokenKind} {cs : List Char} (h : kind.Admits cs) :
    cs ≠ [] := by
  rintro rfl
  rcases h.cases with ⟨-, h⟩ | ⟨-, h⟩ | ⟨-, h⟩ | ⟨c, -, h⟩
  · rcases h with ⟨d, -, h⟩ | ⟨letters, -, h⟩
    · simp at h
    · simp at h
  · obtain ⟨whole, fraction, hne, -, -, h⟩ := h
    rcases h with h | h
    · exact hne h.symm
    · simp at h
  · obtain ⟨c, -, h⟩ := h
    simp at h
  · simp at h

/-- The kind of a lexeme is the one that its first character starts. -/
theorem TokenKind.Admits.startingWith? {kind : TokenKind} {c : Char} {cs : List Char}
    (h : kind.Admits (c :: cs)) : TokenKind.startingWith? c = some kind := by
  rcases h.cases with ⟨rfl, h⟩ | ⟨rfl, h⟩ | ⟨rfl, h⟩ | ⟨d, hd, heq⟩
  · obtain ⟨rfl, -⟩ := isCommandText_cons_iff.mp h
    rfl
  · have hc : c.isDigit := (isNumeral_cons_iff.mp h).1
    have hslash : c ≠ '\\' := by
      rintro rfl
      exact absurd hc (by decide)
    rw [TokenKind.startingWith?, if_neg hslash, if_pos hc]
  · obtain ⟨d, hd, heq⟩ := h
    obtain ⟨rfl, -⟩ := List.cons.inj heq
    have hslash : c ≠ '\\' := by
      rintro rfl
      exact absurd hd (by decide)
    rw [TokenKind.startingWith?, if_neg hslash, if_neg (not_isDigit_of_isAlpha hd), if_pos hd]
  · obtain ⟨rfl, -⟩ := List.cons.inj heq
    exact startingWith?_of_ofMark? hd

theorem TokenKind.admits_of_startingWith? {kind : TokenKind} {c : Char}
    (h : TokenKind.startingWith? c = some kind) : kind.Admits [c] := by
  unfold TokenKind.startingWith? at h
  split at h
  next hc =>
    obtain rfl := Option.some.inj h
    exact isCommandText_cons_iff.mpr ⟨hc, Or.inr (by simp)⟩
  split at h
  next hc =>
    obtain rfl := Option.some.inj h
    exact isNumeral_cons_iff.mpr ⟨hc, by simp, by simp⟩
  split at h
  next hc =>
    obtain rfl := Option.some.inj h
    exact ⟨c, hc, rfl⟩
  exact admits_of_ofMark? h

theorem startsNoLexeme_iff {c : Char} :
    StartsNoLexeme c ↔ TokenKind.startingWith? c = none := by
  constructor
  · intro h
    cases hkind : TokenKind.startingWith? c with
    | none => rfl
    | some kind => exact absurd (TokenKind.admits_of_startingWith? hkind) (h kind [])
  · intro h kind cs hadmits
    rw [hadmits.startingWith?] at h
    simp at h

/-- A nonempty beginning of a lexeme is a lexeme of the same kind. -/
theorem TokenKind.Admits.of_append {kind : TokenKind} {cs ds : List Char}
    (h : kind.Admits (cs ++ ds)) (hne : cs ≠ []) : kind.Admits cs := by
  obtain ⟨c, cs, rfl⟩ := List.exists_cons_of_ne_nil hne
  rcases h.cases with ⟨rfl, h⟩ | ⟨rfl, h⟩ | ⟨rfl, h⟩ | ⟨d, hd, heq⟩
  · obtain ⟨hc, hcs⟩ := isCommandText_cons_iff.mp h
    refine isCommandText_cons_iff.mpr ⟨hc, ?_⟩
    rcases hcs with ⟨d, hd, heq⟩ | hletters
    · rcases List.append_eq_singleton_iff.mp heq with ⟨rfl, -⟩ | ⟨rfl, -⟩
      · exact Or.inr (by simp)
      · exact Or.inl ⟨d, hd, rfl⟩
    · exact Or.inr fun x hx => hletters x (by simp [hx])
  · rw [List.cons_append] at h
    obtain ⟨hc, hcs, hcount⟩ := isNumeral_cons_iff.mp h
    rw [List.count_append] at hcount
    exact isNumeral_cons_iff.mpr ⟨hc, fun x hx => hcs x (by simp [hx]), by omega⟩
  · obtain ⟨d, hd, heq⟩ := h
    obtain ⟨rfl, htail⟩ := List.cons.inj heq
    obtain ⟨rfl, -⟩ := List.append_eq_nil_iff.mp htail
    exact ⟨c, hd, rfl⟩
  · obtain ⟨rfl, htail⟩ := List.cons.inj heq
    obtain ⟨rfl, -⟩ := List.append_eq_nil_iff.mp htail
    exact admits_of_ofMark? hd

/-- What a lexeme can go on with after its first character. -/
theorem TokenKind.Admits.last {kind : TokenKind} {cs : List Char} {c : Char}
    (h : kind.Admits (cs ++ [c])) (hne : cs ≠ []) :
    c.isAlpha ∨ c.isDigit ∨ c = '.' ∨ isSpacingMark c := by
  obtain ⟨d, cs, rfl⟩ := List.exists_cons_of_ne_nil hne
  rcases h.cases with ⟨-, h⟩ | ⟨-, h⟩ | ⟨-, h⟩ | ⟨e, -, heq⟩
  · rcases (isCommandText_cons_iff.mp h).2 with ⟨e, he, heq⟩ | hletters
    · rcases List.append_eq_singleton_iff.mp heq with ⟨-, heq⟩ | ⟨-, heq⟩
      · obtain ⟨rfl, -⟩ := List.cons.inj heq
        exact Or.inr (Or.inr (Or.inr he))
      · simp at heq
    · exact Or.inl (hletters c (by simp))
  · rcases (isNumeral_cons_iff.mp h).2.1 c (by simp) with hc | hc
    · exact Or.inr (Or.inl hc)
    · exact Or.inr (Or.inr (Or.inl hc))
  · obtain ⟨e, -, heq⟩ := h
    simp at heq
  · simp at heq

theorem toNat_of_startingWith? {c : Char} {kind : TokenKind}
    (h : TokenKind.startingWith? c = some kind) : 33 ≤ c.toNat ∧ c.toNat ≤ 126 := by
  unfold TokenKind.startingWith? at h
  split at h
  next hc =>
    subst hc
    decide
  split at h
  next hc =>
    rw [Char.isDigit_iff_toNat] at hc
    change 48 ≤ c.toNat ∧ c.toNat ≤ 57 at hc
    omega
  split at h
  next hc =>
    rw [isAlpha_iff_toNat] at hc
    omega
  have hmarks : ∀ mark ∈ TokenKind.marks, 33 ≤ mark.1.toNat ∧ mark.1.toNat ≤ 126 := by decide
  exact hmarks (c, kind) (TokenKind.mem_marks_of_ofMark? h)

theorem TokenKind.Admits.toNat_of_mem {kind : TokenKind} {cs : List Char} {c : Char}
    (h : kind.Admits cs) (hc : c ∈ cs) : 33 ≤ c.toNat ∧ c.toNat ≤ 126 := by
  obtain ⟨before, after, rfl⟩ := List.append_of_mem hc
  cases before with
  | nil => exact toNat_of_startingWith? h.startingWith?
  | cons d before =>
      have hfront : kind.Admits ((d :: before ++ [c]) ++ after) := by simpa using h
      rcases (hfront.of_append (by simp)).last (List.cons_ne_nil d before) with hc | hc | rfl | hc
      · rw [isAlpha_iff_toNat] at hc
        omega
      · rw [Char.isDigit_iff_toNat] at hc
        change 48 ≤ c.toNat ∧ c.toNat ≤ 57 at hc
        omega
      · decide
      · simp only [isSpacingMark, Bool.or_eq_true, decide_eq_true_eq] at hc
        rcases hc with ((rfl | rfl) | rfl) | rfl <;> decide

theorem startsNoLexeme_of_isBlank {c : Char} (h : Text.isBlank c) : StartsNoLexeme c := by
  have hranges : ∀ range ∈ Text.blankRanges, range.last < 33 ∨ 126 < range.first := by decide
  obtain ⟨range, hmem, hcontains⟩ := List.any_eq_true.mp h
  have hrange := hranges range hmem
  simp only [Text.CodeRange.contains, Bool.and_eq_true, decide_eq_true_eq] at hcontains
  rw [startsNoLexeme_iff]
  cases hkind : TokenKind.startingWith? c with
  | none => rfl
  | some kind =>
    have hascii := toNat_of_startingWith? hkind
    omega

end MathMarkup
