import MathMarkup.Expr.Basic
import MathMarkup.Parsing.Cursor

/-!
# Reading phrases

The functions that read the phrases of the expression grammar call each other only
on cursors with fewer unread tokens, or on a phrase of lower rank at the same
cursor.
-/

namespace MathMarkup

/-! ## Differentials -/

/-- Whether an integral without a written differential may end before tokens:
at the end of the list, before a closing parenthesis, or before the marker of a
bound. -/
def EndsIntegral : List Token → Prop
  | [] => True
  | t :: _ => t.kind = .rightParen ∨ t.kind = .superscript ∨ t.kind = .subscript

instance (unread : List Token) : Decidable (EndsIntegral unread) := by
  cases unread <;> unfold EndsIntegral <;> infer_instance

/-- The variable of integration that ends an integral after `integrand`, and
the number of tokens that its differential takes. -/
def differential? (integrand : Expr) (unread : List Token) : Option (String × Nat) :=
  match unread with
  | .thinSpace :: .differential :: ⟨.letter, name⟩ :: _ => some (name, 3)
  | .thinSpace :: ⟨.letter, name⟩ :: _ => some (name, 2)
  | .thinSpace :: _ => none
  | .differential :: ⟨.letter, name⟩ :: _ => some (name, 2)
  | _ => if EndsIntegral unread then integrand.name?.map (·, 0) else none

inductive Phrase where
  | binary (level : Level)
  | primary
  | integral
deriving DecidableEq

/-- The marker of the bound that has to follow a bound with this marker. -/
def TokenKind.oppositeMarker? : TokenKind → Option TokenKind
  | .subscript => some .superscript
  | .superscript => some .subscript
  | _ => none

namespace Parsing

abbrev Bounds := Option Expr × Option Expr

/-- The bounds whose first one follows a marker of the given kind. -/
def boundsFrom (marker : TokenKind) (first second : Expr) : Bounds :=
  if marker = .subscript then (some first, some second) else (some second, some first)

def expect (kind : TokenKind) (e : ParseError) (c : Cursor) : Forward c Token :=
  match c with
  | ⟨i, []⟩ => .error e ⟨i, []⟩
  | ⟨i, t :: ts⟩ =>
    if t.kind = kind then (Forward.ok t ⟨i + 1, ts⟩).weaken (by simp)
    else .error e ⟨i, t :: ts⟩

def differential (integrand : Expr) (e : ParseError) (c : Cursor) : Forward c String :=
  match differential? integrand c.unread with
  | some (name, n) => (Forward.ok name (c.skip n)).weaken (by simp [Cursor.skip])
  | none => .error e c

/-- The order in which the reading functions call each other at one cursor. -/
def rank : Level → Nat
  | .additive => 2
  | .multiplicative => 0

mutual

def operand (level : Level) (c : Cursor) : Forward c Expr :=
  match level with
  | .additive => binary .multiplicative c
  | .multiplicative => primary c
termination_by 8 * c.unread.length + rank level + 2
decreasing_by all_goals simp [rank]

/-- Reads operands of a level and the operators between them. -/
def binary (level : Level) (c : Cursor) : Forward c Expr :=
  (operand level c).andThen fun first d _ =>
    (links level d).andThen fun (operators, operands) e _ =>
      .ok (first.foldLinks operators operands) e
termination_by 8 * c.unread.length + rank level + 3
decreasing_by all_goals omega

/-- Reads the operators of a level that follow an operand, with their right operands. -/
def links (level : Level) (c : Cursor) : Forward c (List Token × List Expr) :=
  match c with
  | ⟨i, []⟩ => .ok ([], []) ⟨i, []⟩
  | ⟨i, t :: ts⟩ =>
    if level.IsOperator t then
      ((operand level ⟨i + 1, ts⟩).andThen fun first d _ =>
        (links level d).andThen fun (operators, operands) e _ =>
          .ok (t :: operators, first :: operands) e).weaken (by simp)
    else .ok ([], []) ⟨i, t :: ts⟩
termination_by 8 * c.unread.length + rank level
decreasing_by all_goals (simp_all <;> omega)

def primary (c : Cursor) : Forward c Expr :=
  match c with
  | ⟨i, []⟩ => .error (.unexpectedToken i none) ⟨i, []⟩
  | ⟨i, t :: ts⟩ =>
    if t.kind = .number then (Forward.ok (.number t.text) ⟨i + 1, ts⟩).weaken (by simp)
    else if t.kind = .letter then (Forward.ok (.var t.text) ⟨i + 1, ts⟩).weaken (by simp)
    else if t.kind = .leftParen then
      ((binary .additive ⟨i + 1, ts⟩).andThen fun inner d _ =>
        (expect .rightParen (.unmatchedParenthesis i) d).andThen fun closing e _ =>
          .ok (.group t inner closing) e).weaken (by simp)
    else integral ⟨i, t :: ts⟩
termination_by 8 * c.unread.length + 1
decreasing_by all_goals (simp [rank] <;> omega)

def integral (c : Cursor) : Forward c Expr :=
  match c with
  | ⟨i, []⟩ => .error (.unexpectedToken i none) ⟨i, []⟩
  | ⟨i, t :: ts⟩ =>
    if t = .integralSign then
      ((bounds ⟨i + 1, ts⟩).andThen fun (lower, upper) d _ =>
        (binary .additive d).andThen fun integrand e _ =>
          (differential integrand (.unterminatedIntegral i) e).andThen fun name f _ =>
            .ok (.integral lower.isSome lower upper integrand name) f).weaken (by simp)
    else .error (.unexpectedToken i (some t.text)) ⟨i, t :: ts⟩
termination_by 8 * c.unread.length
decreasing_by all_goals (simp_all [rank] <;> omega)

/-- Reads two bounds with opposite markers, or none. -/
def bounds (c : Cursor) : Forward c Bounds :=
  match c with
  | ⟨i, []⟩ => .ok (none, none) ⟨i, []⟩
  | ⟨i, t :: ts⟩ =>
    match t.kind.oppositeMarker? with
    | none => .ok (none, none) ⟨i, t :: ts⟩
    | some opposite =>
      ((binary .additive ⟨i + 1, ts⟩).andThen fun first d _ =>
        (expect opposite (.malformedIntegral i) d).andThen fun _ e _ =>
          (binary .additive e).andThen fun second f _ =>
            .ok (boundsFrom t.kind first second) f).weaken (by simp)
termination_by 8 * c.unread.length
decreasing_by all_goals (simp_all [rank]; omega)

end

end Parsing

def Phrase.read (phrase : Phrase) (c : Cursor) : Reply Expr :=
  match phrase with
  | .binary level => (Parsing.binary level c).1
  | .primary => (Parsing.primary c).1
  | .integral => (Parsing.integral c).1

/-- Reads a whole token list as one expression. -/
def parse (tokens : List Token) : Except ParseError Expr :=
  match (Phrase.binary .additive).read (.start tokens) with
  | .error e _ => .error e
  | .ok expression c =>
    match c.unread with
    | [] => .ok expression
    | t :: _ =>
      if t.kind = .rightParen then .error (.unmatchedParenthesis c.index)
      else .error c.unexpected

/-! ## Sessions -/

/-- A token list and the index of the next token to read. -/
structure Session where
  tokens : List Token
  index : Nat
deriving DecidableEq

namespace Session

def start (tokens : List Token) : Session := ⟨tokens, 0⟩

def cursor (s : Session) : Cursor := ⟨s.index, s.tokens.drop s.index⟩

/-- Reads a phrase, and stays where reading stopped. -/
def read (s : Session) (phrase : Phrase) : Except ParseError Expr × Session :=
  match phrase.read s.cursor with
  | .ok expression c => (.ok expression, ⟨s.tokens, c.index⟩)
  | .error e c => (.error e, ⟨s.tokens, c.index⟩)

def readAll (s : Session) (phrases : List Phrase) : Session :=
  phrases.foldl (fun s phrase => (s.read phrase).2) s

end Session

end MathMarkup
