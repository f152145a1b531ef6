import MathMarkup.Token.Basic

/-!
# Expressions

The tree of a math expression.  The type admits trees that no source text denotes,
such as an integral with one bound, and every function here is defined for those
as well: printing, renaming the texts, and taking the left spine apart.
-/

namespace MathMarkup

inductive Expr where
  | number (text : String)
  | var (name : String)
  | binary (left : Expr) (operator : Token) (right : Expr)
  | group (opening : Token) (inner : Expr) (closing : Token)
  /-- An integral of `integrand` over the variable `name`. -/
  | integral (isDefinite : Bool) (lower upper : Option Expr) (integrand : Expr) (name : String)

namespace Expr

/-- Induction in which the bounds of an integral count as parts of it. -/
@[induction_eliminator]
theorem induction {motive : Expr → Prop}
    (number : ∀ text, motive (.number text))
    (var : ∀ name, motive (.var name))
    (binary : ∀ left operator right, motive left → motive right →
      motive (.binary left operator right))
    (group : ∀ opening inner closing, motive inner →
      motive (.group opening inner closing))
    (integral : ∀ isDefinite lower upper integrand name,
      (∀ e ∈ lower, motive e) → (∀ e ∈ upper, motive e) → motive integrand →
      motive (.integral isDefinite lower upper integrand name))
    (e : Expr) : motive e :=
  @Expr.rec motive (fun bound => ∀ e ∈ bound, motive e)
    number var
    (fun left operator right hleft hright => binary left operator right hleft hright)
    (fun opening inner closing hinner => group opening inner closing hinner)
    (fun isDefinite lower upper integrand name hlower hupper hintegrand =>
      integral isDefinite lower upper integrand name hlower hupper hintegrand)
    (by simp) (by simp) e

mutual

def decidableEq : (a b : Expr) → Decidable (a = b)
  | .number s, .number t => decidable_of_iff (s = t) (by simp)
  | .var s, .var t => decidable_of_iff (s = t) (by simp)
  | .binary l₁ o₁ r₁, .binary l₂ o₂ r₂ =>
    let := decidableEq l₁ l₂
    let := decidableEq r₁ r₂
    decidable_of_iff (l₁ = l₂ ∧ o₁ = o₂ ∧ r₁ = r₂) (by simp)
  | .group o₁ e₁ c₁, .group o₂ e₂ c₂ =>
    let := decidableEq e₁ e₂
    decidable_of_iff (o₁ = o₂ ∧ e₁ = e₂ ∧ c₁ = c₂) (by simp)
  | .integral d₁ l₁ u₁ e₁ n₁, .integral d₂ l₂ u₂ e₂ n₂ =>
    let := decidableEqBound l₁ l₂
    let := decidableEqBound u₁ u₂
    let := decidableEq e₁ e₂
    decidable_of_iff (d₁ = d₂ ∧ l₁ = l₂ ∧ u₁ = u₂ ∧ e₁ = e₂ ∧ n₁ = n₂) (by simp)
  | .number _, .var _ | .number _, .binary .. | .number _, .group .. | .number _, .integral ..
  | .var _, .number _ | .var _, .binary .. | .var _, .group .. | .var _, .integral ..
  | .binary .., .number _ | .binary .., .var _ | .binary .., .group .. | .binary .., .integral ..
  | .group .., .number _ | .group .., .var _ | .group .., .binary .. | .group .., .integral ..
  | .integral .., .number _ | .integral .., .var _ | .integral .., .binary ..
  | .integral .., .group .. => isFalse (by simp)

def decidableEqBound : (a b : Option Expr) → Decidable (a = b)
  | none, none => isTrue rfl
  | some a, some b =>
    let := decidableEq a b
    decidable_of_iff (a = b) (by simp)
  | none, some _ | some _, none => isFalse (by simp)

end

instance : DecidableEq Expr := decidableEq

/-- Whether the root of an expression is a binary node with an operator of a level. -/
def IsBinaryOf (level : Level) : Expr → Prop
  | binary _ operator _ => level.IsOperator operator
  | _ => False

def IsBinary : Expr → Prop
  | binary .. => True
  | _ => False

/-- The name of an expression that is nothing but a variable. -/
def name? : Expr → Option String
  | var name => some name
  | _ => none

/-- Applies operators from left to right, ignoring what is left over of the longer list. -/
def foldLinks : Expr → List Token → List Expr → Expr
  | first, operator :: operators, operand :: operands =>
    foldLinks (binary first operator operand) operators operands
  | first, _, _ => first

theorem foldLinks_append {first : Expr} {operators : List Token} {operands : List Expr}
    (h : operators.length = operands.length) (operators' : List Token) (operands' : List Expr) :
    first.foldLinks (operators ++ operators') (operands ++ operands') =
      (first.foldLinks operators operands).foldLinks operators' operands' := by
  induction operators generalizing first operands with
  | nil =>
    obtain rfl := List.length_eq_zero_iff.mp h.symm
    simp [foldLinks]
  | cons operator operators ih =>
    cases operands with
    | nil => simp at h
    | cons operand operands => exact ih (Nat.succ.inj h)

/-- Applies operators pair by pair from left to right, unless one list ends before the other. -/
def ofChain? : Expr → List Token → List Expr → Option Expr
  | first, [], [] => some first
  | first, operator :: operators, operand :: operands =>
    ofChain? (binary first operator operand) operators operands
  | _, [], _ :: _ => none
  | _, _ :: _, [] => none

theorem ofChain?_eq_foldLinks {operators : List Token} {operands : List Expr}
    (h : operators.length = operands.length) (first : Expr) :
    first.ofChain? operators operands = some (first.foldLinks operators operands) := by
  induction operators generalizing first operands with
  | nil =>
      obtain rfl := List.length_eq_zero_iff.mp h.symm
      simp only [ofChain?, foldLinks]
  | cons operator operators ih =>
      cases operands with
      | nil => cases h
      | cons operand operands => exact ih (Nat.succ.inj h) (binary first operator operand)

/-! ## Printing, renaming and taking apart -/

/-- The markup of an expression. -/
def display : Expr → String
  | number text => text
  | var name => name
  | binary left operator right => left.display ++ " " ++ operator.text ++ " " ++ right.display
  | group opening inner closing => opening.text ++ inner.display ++ closing.text
  | integral _ lower upper integrand name =>
    "\\int" ++ bound "_" lower ++ bound "^" upper ++ " " ++ integrand.display ++ " \\,d" ++ name
where
  bound (marker : String) : Option Expr → String
    | none => ""
    | some e => marker ++ e.display

/-- The expression with all of its tokens mapped. -/
def rename (f : Token → Token) : Expr → Expr
  | number text => number (f ⟨.number, text⟩).text
  | var name => var (f ⟨.letter, name⟩).text
  | binary left operator right => binary (left.rename f) (f operator) (right.rename f)
  | group opening inner closing => group (f opening) (inner.rename f) (f closing)
  | integral isDefinite lower upper integrand name =>
    integral isDefinite (renameBound lower) (renameBound upper) (integrand.rename f)
      (f ⟨.letter, name⟩).text
where
  renameBound : Option Expr → Option Expr
    | none => none
    | some e => some (e.rename f)

theorem renameBound_eq_map (f : Token → Token) (bound : Option Expr) :
    rename.renameBound f bound = bound.map (rename f) := by
  cases bound <;> rfl

/-- The number of operators on the left spine. -/
def spineLength : Expr → Nat
  | binary left _ _ => left.spineLength + 1
  | _ => 0

/-- Takes `n` operators and right operands off the left spine, in the order of application. -/
def unfoldLinks : Nat → Expr → Option (Expr × List Token × List Expr)
  | 0, e => some (e, [], [])
  | n + 1, binary left operator right =>
    (unfoldLinks n left).map fun (first, operators, operands) =>
      (first, operators ++ [operator], operands ++ [right])
  | _ + 1, _ => none

end Expr

end MathMarkup
