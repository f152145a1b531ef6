import MathMarkup.Expr.Basic

/-!
# The operator-precedence machine

A one-pass reader of expressions without integrals, with a stack of operands and a
stack of pending operators and open parentheses.
-/

namespace MathMarkup
namespace Precedence

/-- What waits for an operand. -/
inductive Pending where
  | operator (level : Level) (token : Token)
  | parenthesis (token : Token)
deriving DecidableEq

/-- The state of the machine; both stacks have their top first. -/
structure State where
  operands : List Expr
  pending : List Pending
  needsOperand : Bool
deriving DecidableEq

def State.initial : State := ⟨[], [], true⟩

def levelOf? (t : Token) : Option Level :=
  if Level.additive.IsOperator t then some .additive
  else if Level.multiplicative.IsOperator t then some .multiplicative
  else none

/-- Whether an operator of level `earlier` is applied before a later one of level `later`. -/
def appliesBefore (earlier later : Level) : Bool :=
  earlier = .multiplicative || later = .additive

def apply (token : Token) : List Expr → Option (List Expr)
  | right :: left :: rest => some (.binary left token right :: rest)
  | _ => none

/-- Applies the pending operators that come before one of level `later`. -/
def reduceFor (later : Level) (operands : List Expr) :
    List Pending → Option (List Expr × List Pending)
  | .operator level token :: pending =>
    if appliesBefore level later then
      (apply token operands).bind fun operands => reduceFor later operands pending
    else some (operands, .operator level token :: pending)
  | pending => some (operands, pending)

/-- Applies the pending operators up to the nearest open parenthesis. -/
def reduceAll (operands : List Expr) : List Pending → Option (List Expr × List Pending)
  | .operator _ token :: pending =>
    (apply token operands).bind fun operands => reduceAll operands pending
  | pending => some (operands, pending)

def takeOperand (s : State) (t : Token) : Option State :=
  match t.kind with
  | .number => some ⟨.number t.text :: s.operands, s.pending, false⟩
  | .letter => some ⟨.var t.text :: s.operands, s.pending, false⟩
  | .leftParen => some ⟨s.operands, .parenthesis t :: s.pending, true⟩
  | _ => none

def takeOperator (s : State) (t : Token) : Option State :=
  match levelOf? t with
  | some level =>
    (reduceFor level s.operands s.pending).map fun (operands, pending) =>
      ⟨operands, .operator level t :: pending, true⟩
  | none =>
    if t.kind = .rightParen then
      match reduceAll s.operands s.pending with
      | some (inner :: operands, .parenthesis opening :: pending) =>
        some ⟨.group opening inner t :: operands, pending, false⟩
      | _ => none
    else none

def step (s : State) (t : Token) : Option State :=
  if s.needsOperand then takeOperand s t else takeOperator s t

def State.result? (s : State) : Option Expr :=
  if s.needsOperand then none
  else match reduceAll s.operands s.pending with
    | some ([e], []) => some e
    | _ => none

def run (tokens : List Token) : Option Expr :=
  (tokens.foldlM step State.initial).bind State.result?

end Precedence
end MathMarkup
