import MathMarkup.Parsing.Phrase

/-!
# Bounded reading

The reading functions once more, in a form that can break down: where the allowed
depth of calls is used up, and where a chain is folded that has not as many
operators as operands after the first one.
-/

namespace MathMarkup

inductive Breakdown where
  | exhausted
  | unevenChain
deriving DecidableEq

abbrev Bounded (α : Type) : Type :=
  Except Breakdown (Reply α)

namespace Bounded

open Parsing (expect differential Bounds boundsFrom)

/-- Goes on from where reading stopped, unless it failed or broke down. -/
def andThen {α β : Type} (reading : Bounded α) (next : α → Cursor → Bounded β) : Bounded β :=
  match reading with
  | .error breakdown => .error breakdown
  | .ok (.error e c) => .ok (.error e c)
  | .ok (.ok value c) => next value c

theorem andThen_eq_ok {α β : Type} {reading : Bounded α} {reply : Reply α}
    {next : α → Cursor → Bounded β} {next' : α → Cursor → Reply β} (h : reading = .ok reply)
    (hnext : ∀ value c, reply = .ok value c → next value c = .ok (next' value c)) :
    reading.andThen next = .ok (reply.andThen next') := by
  subst h
  cases reply with
  | ok value c => exact hnext value c rfl
  | error e c => rfl

def fold (first : Expr) (operators : List Token) (operands : List Expr) (c : Cursor) :
    Bounded Expr :=
  match first.ofChain? operators operands with
  | some e => .ok (.ok e c)
  | none => .error .unevenChain

mutual

def operand : Nat → Level → Cursor → Bounded Expr
  | 0, _, _ => .error .exhausted
  | n + 1, .additive, c => binary n .multiplicative c
  | n + 1, .multiplicative, c => primary n c

def binary : Nat → Level → Cursor → Bounded Expr
  | 0, _, _ => .error .exhausted
  | n + 1, level, c => (operand n level c).andThen fun first d => collect n level first [] [] d

/-- Collects the operators of a level and their right operands, and folds them at the end. -/
def collect : Nat → Level → Expr → List Token → List Expr → Cursor → Bounded Expr
  | 0, _, _, _, _, _ => .error .exhausted
  | _ + 1, _, first, operators, operands, ⟨i, []⟩ => fold first operators operands ⟨i, []⟩
  | n + 1, level, first, operators, operands, ⟨i, t :: ts⟩ =>
    if level.IsOperator t then
      (operand n level ⟨i + 1, ts⟩).andThen fun right d =>
        collect n level first (operators ++ [t]) (operands ++ [right]) d
    else fold first operators operands ⟨i, t :: ts⟩

def primary : Nat → Cursor → Bounded Expr
  | 0, _ => .error .exhausted
  | _ + 1, ⟨i, []⟩ => .ok (.error (.unexpectedToken i none) ⟨i, []⟩)
  | n + 1, ⟨i, t :: ts⟩ =>
    if t.kind = .number then .ok (.ok (.number t.text) ⟨i + 1, ts⟩)
    else if t.kind = .letter then .ok (.ok (.var t.text) ⟨i + 1, ts⟩)
    else if t.kind = .leftParen then
      (binary n .additive ⟨i + 1, ts⟩).andThen fun inner d =>
        andThen (.ok (expect .rightParen (.unmatchedParenthesis i) d).1) fun closing e =>
          .ok (.ok (.group t inner closing) e)
    else integral n ⟨i, t :: ts⟩

def integral : Nat → Cursor → Bounded Expr
  | 0, _ => .error .exhausted
  | _ + 1, ⟨i, []⟩ => .ok (.error (.unexpectedToken i none) ⟨i, []⟩)
  | n + 1, ⟨i, t :: ts⟩ =>
    if t = .integralSign then
      (bounds n ⟨i + 1, ts⟩).andThen fun between d =>
        (binary n .additive d).andThen fun integrand e =>
          andThen (.ok (differential integrand (.unterminatedIntegral i) e).1) fun name f =>
            .ok (.ok (.integral between.1.isSome between.1 between.2 integrand name) f)
    else .ok (.error (.unexpectedToken i (some t.text)) ⟨i, t :: ts⟩)

def bounds : Nat → Cursor → Bounded Bounds
  | 0, _ => .error .exhausted
  | _ + 1, ⟨i, []⟩ => .ok (.ok (none, none) ⟨i, []⟩)
  | n + 1, ⟨i, t :: ts⟩ =>
    match t.kind.oppositeMarker? with
    | none => .ok (.ok (none, none) ⟨i, t :: ts⟩)
    | some opposite =>
      (binary n .additive ⟨i + 1, ts⟩).andThen fun first d =>
        andThen (.ok (expect opposite (.malformedIntegral i) d).1) fun _ e =>
          (binary n .additive e).andThen fun second f =>
            .ok (.ok (boundsFrom t.kind first second) f)

end

end Bounded

/-- Reads a phrase with at most `n` calls inside one another. -/
def Phrase.readWithin (n : Nat) (phrase : Phrase) (c : Cursor) : Bounded Expr :=
  match phrase with
  | .binary level => Bounded.binary n level c
  | .primary => Bounded.primary n c
  | .integral => Bounded.integral n c

end MathMarkup
