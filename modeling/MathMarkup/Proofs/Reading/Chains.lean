import Mathlib.Data.List.Basic
import MathMarkup.Expr.Basic

/-!
# Chains are folded without loss

Folding a chain puts one node on top of the left spine for each operator, so taking
as many nodes off again gives the chain back.
-/

namespace MathMarkup
namespace Expr

theorem foldLinks_concat {first : Expr} {operators : List Token} {operands : List Expr}
    (h : operators.length = operands.length) (operator : Token) (operand : Expr) :
    first.foldLinks (operators ++ [operator]) (operands ++ [operand]) =
      binary (first.foldLinks operators operands) operator operand := by
  rw [foldLinks_append h]
  simp only [foldLinks]

/-- Taking nodes off the left spine undoes folding as many operators, and only that. -/
theorem unfoldLinks_eq_some_iff {n : Nat} {e first : Expr} {operators : List Token}
    {operands : List Expr} :
    e.unfoldLinks n = some (first, operators, operands) ↔
      operators.length = n ∧ operands.length = n ∧ first.foldLinks operators operands = e := by
  induction n generalizing e operators operands with
  | zero =>
      rw [unfoldLinks]
      constructor
      · rintro ⟨⟩
        exact ⟨rfl, rfl, by simp [foldLinks]⟩
      · rintro ⟨hoperators, hoperands, rfl⟩
        obtain rfl := List.eq_nil_of_length_eq_zero hoperators
        obtain rfl := List.eq_nil_of_length_eq_zero hoperands
        simp [foldLinks]
  | succ n ih =>
      constructor
      · intro h
        cases e with
        | binary left operator right =>
            obtain ⟨⟨first', operators', operands'⟩, hleft, heq⟩ := Option.map_eq_some_iff.mp h
            obtain ⟨rfl, rfl, rfl⟩ : first' = first ∧ operators' ++ [operator] = operators ∧
                operands' ++ [right] = operands := by simpa using heq
            obtain ⟨hoperators, hoperands, rfl⟩ := ih.mp hleft
            refine ⟨by simp [hoperators], by simp [hoperands], ?_⟩
            exact foldLinks_concat (hoperators.trans hoperands.symm) operator right
        | _ => simp [unfoldLinks] at h
      · rintro ⟨hoperators, hoperands, rfl⟩
        rcases operators.eq_nil_or_concat' with rfl | ⟨operators, operator, rfl⟩
        · cases hoperators
        rcases operands.eq_nil_or_concat' with rfl | ⟨operands, right, rfl⟩
        · cases hoperands
        rw [List.length_append] at hoperators hoperands
        have heven : operators.length = operands.length :=
          Nat.add_right_cancel (hoperators.trans hoperands.symm)
        have hleft := ih.mpr ⟨Nat.succ.inj hoperators, Nat.succ.inj hoperands, rfl⟩
        rw [foldLinks_concat heven, unfoldLinks, hleft]
        rfl

/-- Folding pair by pair comes to an end exactly if both lists end at once. -/
theorem isSome_ofChain?_iff {first : Expr} {operators : List Token} {operands : List Expr} :
    (first.ofChain? operators operands).isSome ↔ operators.length = operands.length := by
  induction operators generalizing first operands with
  | nil => cases operands <;> simp [ofChain?]
  | cons operator operators ih =>
      cases operands with
      | nil => simp [ofChain?]
      | cons operand operands =>
          rw [ofChain?, ih, List.length_cons, List.length_cons, Nat.add_right_cancel_iff]

theorem ofChain?_eq_some_iff {first e : Expr} {operators : List Token} {operands : List Expr} :
    first.ofChain? operators operands = some e ↔
      operators.length = operands.length ∧ first.foldLinks operators operands = e := by
  constructor
  · intro h
    have heven : operators.length = operands.length :=
      isSome_ofChain?_iff.mp (Option.isSome_iff_exists.mpr ⟨e, h⟩)
    rw [ofChain?_eq_foldLinks heven] at h
    exact ⟨heven, Option.some.inj h⟩
  · rintro ⟨heven, rfl⟩
    exact ofChain?_eq_foldLinks heven first

theorem ofChain?_append {operators : List Token} {operands : List Expr}
    (h : operators.length = operands.length) (first : Expr) (operators' : List Token)
    (operands' : List Expr) :
    first.ofChain? (operators ++ operators') (operands ++ operands') =
      (first.foldLinks operators operands).ofChain? operators' operands' := by
  induction operators generalizing first operands with
  | nil =>
      obtain rfl := List.length_eq_zero_iff.mp h.symm
      simp only [List.nil_append, foldLinks]
  | cons operator operators ih =>
      cases operands with
      | nil => cases h
      | cons operand operands => exact ih (Nat.succ.inj h) (binary first operator operand)

theorem ofChain?_eq_some_iff_unfoldLinks {first e : Expr} {operators : List Token}
    {operands : List Expr} :
    first.ofChain? operators operands = some e ↔
      e.unfoldLinks operators.length = some (first, operators, operands) := by
  rw [ofChain?_eq_some_iff, unfoldLinks_eq_some_iff]
  constructor
  · rintro ⟨heven, hfold⟩
    exact ⟨rfl, heven.symm, hfold⟩
  · rintro ⟨-, heven, hfold⟩
    exact ⟨heven.symm, hfold⟩

theorem spineLength_foldLinks {operators : List Token} {operands : List Expr}
    (h : operators.length = operands.length) (first : Expr) :
    (first.foldLinks operators operands).spineLength = first.spineLength + operators.length := by
  induction operators generalizing first operands with
  | nil => simp [foldLinks]
  | cons operator operators ih =>
      cases operands with
      | nil => cases h
      | cons operand operands =>
          rw [foldLinks, ih (Nat.succ.inj h), spineLength, List.length_cons]
          omega

theorem display_foldLinks (first : Expr) (operators : List Token) (operands : List Expr) :
    (first.foldLinks operators operands).display =
      first.display ++ String.join (List.zipWith
        (fun operator operand => " " ++ operator.text ++ " " ++ operand.display)
        operators operands) := by
  induction operators generalizing first operands with
  | nil => simp [foldLinks]
  | cons operator operators ih =>
      cases operands with
      | nil => simp [foldLinks]
      | cons operand operands =>
          rw [foldLinks, ih, display, List.zipWith_cons_cons, String.join_cons]
          simp only [String.append_assoc]

/-- Folding fails only for lists of different lengths.  Otherwise nothing is lost: both
lists are found on the spine of the tree, and it comes from no other chain of the same
length. -/
theorem ofChain?_lossless (first : Expr) (operators : List Token) (operands : List Expr) :
    (first.ofChain? operators operands = none ↔ operators.length ≠ operands.length) ∧
      (∀ e, first.ofChain? operators operands = some e ↔
        e.unfoldLinks operators.length = some (first, operators, operands)) ∧
      ∀ e, first.ofChain? operators operands = some e →
        e.spineLength = first.spineLength + operators.length ∧
          (∀ first' operators' operands', operators'.length = operators.length →
            first'.ofChain? operators' operands' = some e →
              first' = first ∧ operators' = operators ∧ operands' = operands) ∧
          (∀ operators' operands',
            first.ofChain? (operators ++ operators') (operands ++ operands') =
              e.ofChain? operators' operands') ∧
          e.display = first.display ++ String.join (List.zipWith
            (fun operator operand => " " ++ operator.text ++ " " ++ operand.display)
            operators operands) := by
  refine ⟨?_, fun e => ofChain?_eq_some_iff_unfoldLinks, fun e h => ?_⟩
  · rw [← Option.not_isSome_iff_eq_none, isSome_ofChain?_iff]
  obtain ⟨heven, rfl⟩ := ofChain?_eq_some_iff.mp h
  refine ⟨spineLength_foldLinks heven first, ?_, ?_, display_foldLinks first operators operands⟩
  · intro first' operators' operands' hlength h'
    have hunfold := ofChain?_eq_some_iff_unfoldLinks.mp h
    have hunfold' := ofChain?_eq_some_iff_unfoldLinks.mp h'
    rw [hlength, hunfold] at hunfold'
    obtain ⟨rfl, hlists⟩ := Prod.mk.inj (Option.some.inj hunfold')
    obtain ⟨rfl, rfl⟩ := Prod.mk.inj hlists
    exact ⟨rfl, rfl, rfl⟩
  · exact ofChain?_append heven first

def shortSum : Expr :=
  binary (var "a") ⟨.plus, "+"⟩ (number "1")

def longSum : Expr :=
  binary (binary shortSum ⟨.minus, "-"⟩ (var "b")) ⟨.plus, "+"⟩ (var "c")

theorem ofChain?_after_chain :
    shortSum.ofChain? [⟨.minus, "-"⟩, ⟨.plus, "+"⟩] [var "b", var "c"] = some longSum ∧
      longSum.spineLength = 1 + 2 ∧ longSum.display = "a + 1" ++ " - b + c" := by
  have hfold : shortSum.ofChain? [⟨.minus, "-"⟩, ⟨.plus, "+"⟩] [var "b", var "c"] =
      some longSum := rfl
  obtain ⟨-, -, hsome⟩ :=
    ofChain?_lossless shortSum [⟨.minus, "-"⟩, ⟨.plus, "+"⟩] [var "b", var "c"]
  obtain ⟨hlength, -, -, hdisplay⟩ := hsome longSum hfold
  exact ⟨hfold, hlength, hdisplay.trans (by decide +kernel)⟩

end Expr
end MathMarkup
