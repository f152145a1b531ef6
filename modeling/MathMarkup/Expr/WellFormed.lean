import MathMarkup.Expr.Basic
import MathMarkup.Token.Lexeme

/-!
# Well-formed expressions

A node is shaped when its kinds, the levels of its operands and its bounds fit
together, and well formed when its texts are lexemes as well.
-/

namespace MathMarkup
namespace Expr

/-- Whether every node of a tree, those in bounds included, satisfies a condition. -/
def Every (p : Expr → Prop) : Expr → Prop
  | number text => p (number text)
  | var name => p (var name)
  | binary left operator right =>
    p (binary left operator right) ∧ left.Every p ∧ right.Every p
  | group opening inner closing => p (group opening inner closing) ∧ inner.Every p
  | integral isDefinite lower upper integrand name =>
    p (integral isDefinite lower upper integrand name) ∧ everyBound lower ∧ everyBound upper ∧
      integrand.Every p
where
  everyBound : Option Expr → Prop
    | none => True
    | some e => e.Every p

/-- Whether two expressions may be the operands of an operator of a level. -/
def MayJoin (level : Level) (left right : Expr) : Prop :=
  match level with
  | .additive => ¬right.IsBinaryOf .additive
  | .multiplicative => ¬left.IsBinaryOf .additive ∧ ¬right.IsBinary

/-- Whether the bounds are both present or both absent, as the flag says. -/
def BoundsAgree (isDefinite : Bool) (lower upper : Option Expr) : Prop :=
  isDefinite = lower.isSome ∧ isDefinite = upper.isSome

/-- Whether the parts of a node fit together, their texts aside. -/
def IsShaped : Expr → Prop
  | binary left operator right => ∃ level : Level, level.IsOperator operator ∧ MayJoin level left right
  | group opening _ closing => opening.kind = .leftParen ∧ closing.kind = .rightParen
  | integral isDefinite lower upper _ _ => BoundsAgree isDefinite lower upper
  | _ => True

/-- Whether the texts of a node are lexemes of their kinds. -/
def IsSpelled : Expr → Prop
  | number text => IsNumeral text.toList
  | var name => IsLetterText name.toList
  | binary _ operator _ => operator.IsLexeme
  | group opening _ closing => opening.IsLexeme ∧ closing.IsLexeme
  | integral _ _ _ _ name => IsLetterText name.toList

def Shaped (e : Expr) : Prop :=
  e.Every IsShaped

/-- Whether the parts of every node fit together and all texts are lexemes. -/
def WellFormed (e : Expr) : Prop :=
  e.Every fun node => node.IsShaped ∧ node.IsSpelled

theorem everyBound_iff {p : Expr → Prop} {bound : Option Expr} :
    Every.everyBound p bound ↔ ∀ e ∈ bound, e.Every p := by
  cases bound with
  | none => simp [Every.everyBound]
  | some e => simp [Every.everyBound]

theorem every_and {p q : Expr → Prop} (e : Expr) :
    (e.Every fun node => p node ∧ q node) ↔ e.Every p ∧ e.Every q := by
  induction e with
  | number text => exact Iff.rfl
  | var name => exact Iff.rfl
  | binary left operator right ihleft ihright =>
    simp only [Every, ihleft, ihright]
    grind
  | group opening inner closing ih =>
    simp only [Every, ih]
    grind
  | integral isDefinite lower upper integrand name ihlower ihupper ih =>
    simp only [Every, everyBound_iff, ih]
    grind

end Expr
end MathMarkup
