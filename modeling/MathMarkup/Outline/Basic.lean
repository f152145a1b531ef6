import MathMarkup.Expr.Basic
import MathMarkup.Text.Quoted

/-!
# Outlines

An outline shows the structure of a value as text, on one line or indented by four
spaces for each level of brackets.
-/

namespace MathMarkup

inductive Bracket where
  | round
  | curly
  | square
deriving DecidableEq

inductive Outline where
  | atom (text : String)
  | field (label : String) (value : Outline)
  /-- A name, which may be empty, and items in brackets. -/
  | node (name : String) (bracket : Bracket) (items : List Outline)

namespace Bracket

def opening : Bracket → String
  | round => "("
  | curly => " \x7b"
  | square => "["

def closing : Bracket → String
  | round => ")"
  | curly => "\x7d"
  | square => "]"

def padding : Bracket → String
  | round => ""
  | curly => " "
  | square => ""

end Bracket

namespace Outline

/-- The items of a record, each labelled. -/
def record (name : String) (fields : List (String × Outline)) : Outline :=
  node name .curly (fields.map fun (label, value) => field label value)

def wrap (name : String) (item : Outline) : Outline :=
  node name .round [item]

def ofList (items : List Outline) : Outline :=
  node "" .square items

def ofOption : Option Outline → Outline
  | some item => wrap "Some" item
  | none => atom "None"

/-- The layout on one line. -/
def inline : Outline → String
  | atom text => text
  | field label value => label ++ ": " ++ value.inline
  | node name bracket [] => name ++ bracket.opening ++ bracket.closing
  | node name bracket (item :: items) =>
    name ++ bracket.opening ++ bracket.padding ++ item.inline ++ later items ++
      bracket.padding ++ bracket.closing
where
  later : List Outline → String
    | [] => ""
    | item :: items => ", " ++ item.inline ++ later items

def newline (depth : Nat) : String :=
  String.ofList ('\n' :: List.replicate (4 * depth) ' ')

/-- The layout with one line for each item, inside a line at a depth. -/
def indented (depth : Nat) : Outline → String
  | atom text => text
  | field label value => label ++ ": " ++ value.indented depth
  | node name bracket [] => name ++ bracket.opening ++ bracket.closing
  | node name bracket (item :: items) =>
    name ++ bracket.opening ++ lines depth (item :: items) ++ newline depth ++ bracket.closing
where
  lines (depth : Nat) : List Outline → String
    | [] => ""
    | item :: items =>
      newline (depth + 1) ++ item.indented (depth + 1) ++ "," ++ lines depth items

end Outline

/-! ## Tokens and expressions -/

def Outline.ofString (s : String) : Outline :=
  atom (Text.quoteString s)

def Token.outline (t : Token) : Outline :=
  .record "Token" [("kind", .atom t.kind.name), ("text", .ofString t.text)]

namespace Expr

def outlineOfVariable (name : String) : Outline :=
  .record "Variable" [("name", .ofString name)]

def outline : Expr → Outline
  | number text => .wrap "NumericLiteral" (.ofString text)
  | var name => .wrap "Variable" (outlineOfVariable name)
  | binary left operator right =>
    .wrap "Binary" (.record "BinaryExpression"
      [("left", left.outline), ("operator", operator.outline), ("right", right.outline)])
  | group opening inner closing =>
    .wrap "Grouped" (.record "Grouped"
      [("left", opening.outline), ("inner", inner.outline), ("right", closing.outline)])
  | integral isDefinite lower upper integrand name =>
    .wrap "Integral" (.record "Integral"
      [("is_definite", .atom (if isDefinite then "true" else "false")),
        ("lower", outlineOfBound lower), ("upper", outlineOfBound upper),
        ("integrand", integrand.outline), ("variable", outlineOfVariable name)])
where
  outlineOfBound : Option Expr → Outline
    | none => .ofOption none
    | some e => .ofOption (some e.outline)

end Expr

end MathMarkup
