import MathMarkup.Parsing.Phrase

/-!
# Equations of the reading functions

Each reading function in terms of replies alone, without the bounds on the unread
tokens that make the functions terminate.
-/

namespace MathMarkup
namespace Parsing

theorem val_expect_of_kind {kind : TokenKind} {t : Token} (h : t.kind = kind) (e : ParseError)
    (i : Nat) (ts : List Token) : (expect kind e ⟨i, t :: ts⟩).1 = .ok t ⟨i + 1, ts⟩ := by
  simp [expect, h]

theorem val_expect_nil (kind : TokenKind) (e : ParseError) (i : Nat) :
    (expect kind e ⟨i, []⟩).1 = .error e ⟨i, []⟩ := rfl

theorem val_expect_of_ne {kind : TokenKind} {t : Token} (h : t.kind ≠ kind) (e : ParseError)
    (i : Nat) (ts : List Token) : (expect kind e ⟨i, t :: ts⟩).1 = .error e ⟨i, t :: ts⟩ := by
  simp [expect, h]

theorem expect_eq_ok {kind : TokenKind} {e : ParseError} {c d : Cursor} {t : Token}
    (h : (expect kind e c).1 = .ok t d) : t.kind = kind ∧ c.unread = t :: d.unread := by
  obtain ⟨i, ts⟩ := c
  cases ts with
  | nil => cases h
  | cons u us =>
    by_cases hkind : u.kind = kind
    · rw [val_expect_of_kind hkind] at h
      obtain ⟨rfl, rfl⟩ := Reply.ok.inj h
      exact ⟨hkind, rfl⟩
    · rw [val_expect_of_ne hkind] at h
      cases h

theorem expect_eq_error {kind : TokenKind} {e e' : ParseError} {c d : Cursor}
    (h : (expect kind e c).1 = .error e' d) :
    e' = e ∧ d = c ∧ ∀ t ∈ c.unread.head?, t.kind ≠ kind := by
  obtain ⟨i, ts⟩ := c
  cases ts with
  | nil =>
    rw [val_expect_nil] at h
    obtain ⟨rfl, rfl⟩ := Reply.error.inj h
    exact ⟨rfl, rfl, by simp⟩
  | cons u us =>
    by_cases hkind : u.kind = kind
    · rw [val_expect_of_kind hkind] at h
      cases h
    · rw [val_expect_of_ne hkind] at h
      obtain ⟨rfl, rfl⟩ := Reply.error.inj h
      exact ⟨rfl, rfl, by simpa using hkind⟩

theorem val_differential_of_some {integrand : Expr} {c : Cursor} {name : String} {n : Nat}
    (h : differential? integrand c.unread = some (name, n)) (e : ParseError) :
    (differential integrand e c).1 = .ok name (c.skip n) := by
  rw [differential]
  split
  · simp_all
  · simp_all

theorem val_differential_of_none {integrand : Expr} {c : Cursor}
    (h : differential? integrand c.unread = none) (e : ParseError) :
    (differential integrand e c).1 = .error e c := by
  rw [differential]
  split
  · simp_all
  · rfl

theorem differential_eq_error {integrand : Expr} {e e' : ParseError} {c d : Cursor}
    (h : (differential integrand e c).1 = .error e' d) :
    e' = e ∧ d = c ∧ differential? integrand c.unread = none := by
  cases hdiff : differential? integrand c.unread with
  | none =>
    rw [val_differential_of_none hdiff] at h
    obtain ⟨rfl, rfl⟩ := Reply.error.inj h
    exact ⟨rfl, rfl, rfl⟩
  | some found =>
    rw [val_differential_of_some hdiff] at h
    cases h

theorem val_operand_additive (c : Cursor) :
    (operand .additive c).1 = (binary .multiplicative c).1 := by
  rw [operand]

theorem val_operand_multiplicative (c : Cursor) :
    (operand .multiplicative c).1 = (primary c).1 := by
  rw [operand]

/-- A chain is an operand and the links after it. -/
theorem val_binary (level : Level) (c : Cursor) :
    (binary level c).1 =
      (operand level c).1.andThen fun first d =>
        (links level d).1.andThen fun chain e =>
          .ok (first.foldLinks chain.1 chain.2) e := by
  rw [binary]
  apply Forward.val_andThen
  intro first d _
  apply Forward.val_andThen
  intro chain e _
  rfl

theorem val_links_nil (level : Level) (i : Nat) :
    (links level ⟨i, []⟩).1 = .ok ([], []) ⟨i, []⟩ := by
  rw [links]
  rfl

theorem val_links_of_isOperator {level : Level} {t : Token} (h : level.IsOperator t)
    (i : Nat) (ts : List Token) :
    (links level ⟨i, t :: ts⟩).1 =
      (operand level ⟨i + 1, ts⟩).1.andThen fun first d =>
        (links level d).1.andThen fun chain e =>
          .ok (t :: chain.1, first :: chain.2) e := by
  rw [links]
  rw [if_pos h, Forward.val_weaken]
  apply Forward.val_andThen
  intro first d _
  apply Forward.val_andThen
  intro chain e _
  rfl

theorem val_links_of_not_isOperator {level : Level} {t : Token} (h : ¬level.IsOperator t)
    (i : Nat) (ts : List Token) :
    (links level ⟨i, t :: ts⟩).1 = .ok ([], []) ⟨i, t :: ts⟩ := by
  rw [links]
  rw [if_neg h]
  rfl

theorem val_primary_nil (i : Nat) :
    (primary ⟨i, []⟩).1 = .error (.unexpectedToken i none) ⟨i, []⟩ := by
  rw [primary]
  rfl

theorem val_primary_of_number {t : Token} (h : t.kind = .number) (i : Nat) (ts : List Token) :
    (primary ⟨i, t :: ts⟩).1 = .ok (.number t.text) ⟨i + 1, ts⟩ := by
  rw [primary]
  simp [h]

theorem val_primary_of_letter {t : Token} (h : t.kind = .letter) (i : Nat) (ts : List Token) :
    (primary ⟨i, t :: ts⟩).1 = .ok (.var t.text) ⟨i + 1, ts⟩ := by
  rw [primary]
  simp [h]

theorem val_primary_of_leftParen {t : Token} (h : t.kind = .leftParen) (i : Nat)
    (ts : List Token) :
    (primary ⟨i, t :: ts⟩).1 =
      (binary .additive ⟨i + 1, ts⟩).1.andThen fun inner d =>
        (expect .rightParen (.unmatchedParenthesis i) d).1.andThen fun closing e =>
          .ok (.group t inner closing) e := by
  have hnumber : ¬t.kind = .number := by simp [h]
  have hletter : ¬t.kind = .letter := by simp [h]
  rw [primary]
  rw [if_neg hnumber, if_neg hletter, if_pos h, Forward.val_weaken]
  apply Forward.val_andThen
  intro inner d _
  apply Forward.val_andThen
  intro closing e _
  rfl

theorem val_primary_of_other {t : Token} (hnumber : t.kind ≠ .number)
    (hletter : t.kind ≠ .letter) (hparen : t.kind ≠ .leftParen) (i : Nat) (ts : List Token) :
    (primary ⟨i, t :: ts⟩).1 = (integral ⟨i, t :: ts⟩).1 := by
  rw [primary]
  simp [hnumber, hletter, hparen]

theorem val_integral_nil (i : Nat) :
    (integral ⟨i, []⟩).1 = .error (.unexpectedToken i none) ⟨i, []⟩ := by
  rw [integral]
  rfl

theorem val_integral_sign (i : Nat) (ts : List Token) :
    (integral ⟨i, .integralSign :: ts⟩).1 =
      (bounds ⟨i + 1, ts⟩).1.andThen fun between d =>
        (binary .additive d).1.andThen fun integrand e =>
          (differential integrand (.unterminatedIntegral i) e).1.andThen fun name f =>
            .ok (.integral between.1.isSome between.1 between.2 integrand name) f := by
  rw [integral]
  rw [if_pos rfl, Forward.val_weaken]
  apply Forward.val_andThen
  intro between d _
  apply Forward.val_andThen
  intro integrand e _
  apply Forward.val_andThen
  intro name f _
  rfl

theorem val_integral_of_ne {t : Token} (h : t ≠ .integralSign) (i : Nat) (ts : List Token) :
    (integral ⟨i, t :: ts⟩).1 = .error (.unexpectedToken i (some t.text)) ⟨i, t :: ts⟩ := by
  rw [integral]
  simp [h]

theorem val_bounds_nil (i : Nat) :
    (bounds ⟨i, []⟩).1 = .ok (none, none) ⟨i, []⟩ := by
  rw [bounds]
  rfl

theorem val_bounds_of_not_marker {t : Token} (h : t.kind.oppositeMarker? = none) (i : Nat)
    (ts : List Token) :
    (bounds ⟨i, t :: ts⟩).1 = .ok (none, none) ⟨i, t :: ts⟩ := by
  rw [bounds]
  simp only
  split
  · rfl
  · simp_all

/-- A marker needs a bound, the opposite marker and another bound after it. -/
theorem val_bounds_of_marker {t : Token} {opposite : TokenKind}
    (h : t.kind.oppositeMarker? = some opposite) (i : Nat) (ts : List Token) :
    (bounds ⟨i, t :: ts⟩).1 =
      (binary .additive ⟨i + 1, ts⟩).1.andThen fun first d =>
        (expect opposite (.malformedIntegral i) d).1.andThen fun _ e =>
          (binary .additive e).1.andThen fun second f =>
            .ok (boundsFrom t.kind first second) f := by
  rw [bounds]
  simp only
  split
  · simp_all
  · rename_i found hfound
    obtain rfl : found = opposite := by simpa [hfound] using h
    rw [Forward.val_weaken]
    apply Forward.val_andThen
    intro first d _
    apply Forward.val_andThen
    intro _ e _
    apply Forward.val_andThen
    intro second f _
    rfl

end Parsing
end MathMarkup
