import MathMarkup.Outline.Basic

/-!
# The two layouts as one

The inline and the indented layout of an outline differ only in what stands around
the items of a node.  With that as a parameter both are one text.
-/

namespace MathMarkup

inductive Layout where
  | inline
  | indented
deriving DecidableEq

namespace Layout

/-- What stands between the opening bracket of a node and its first item. -/
def before (depth : Nat) (bracket : Bracket) : Layout → List Char
  | inline => bracket.padding.toList
  | indented => (Outline.newline (depth + 1)).toList

def between (depth : Nat) : Layout → List Char
  | inline => [',', ' ']
  | indented => ',' :: (Outline.newline (depth + 1)).toList

def after (depth : Nat) (bracket : Bracket) : Layout → List Char
  | inline => bracket.padding.toList
  | indented => ',' :: (Outline.newline depth).toList

end Layout

namespace Outline

@[induction_eliminator]
theorem induction {motive : Outline → Prop}
    (atom : ∀ text, motive (.atom text))
    (field : ∀ label value, motive value → motive (.field label value))
    (node : ∀ name bracket items, (∀ item ∈ items, motive item) →
      motive (.node name bracket items))
    (o : Outline) : motive o :=
  @Outline.rec motive (fun items => ∀ item ∈ items, motive item)
    atom
    (fun label value hvalue => field label value hvalue)
    (fun name bracket items hitems => node name bracket items hitems)
    (by simp) (by simp +contextual) o

/-- The text of an outline in a layout. -/
def chars (layout : Layout) (depth : Nat) : Outline → List Char
  | atom text => text.toList
  | field label value => label.toList ++ ':' :: ' ' :: value.chars layout depth
  | node name bracket [] => name.toList ++ (bracket.opening.toList ++ bracket.closing.toList)
  | node name bracket (item :: items) =>
    name.toList ++ (bracket.opening.toList ++ (layout.before depth bracket ++
      (item.chars layout (depth + 1) ++ later depth bracket items)))
where
  later (depth : Nat) (bracket : Bracket) : List Outline → List Char
    | [] => layout.after depth bracket ++ bracket.closing.toList
    | item :: items =>
      layout.between depth ++ (item.chars layout (depth + 1) ++ later depth bracket items)

def isWordChar (c : Char) : Bool :=
  c.isAlphanum || c = '_'

/-- Whether a text can be read without quotes. -/
def IsWord (text : String) : Prop :=
  ∀ c ∈ text.toList, isWordChar c

instance (text : String) : Decidable (IsWord text) :=
  List.decidableBAll (isWordChar ·) text.toList

inductive IsAtom : String → Prop
  | word {text : String} : IsWord text → IsAtom text
  | quoted (s : String) : IsAtom (Text.quoteString s)

/-- Outlines of words and quoted texts, in which no brackets are empty. -/
inductive Legible : Outline → Prop
  | atom {text : String} : IsAtom text → Legible (atom text)
  | field {label : String} {value : Outline} :
      IsWord label → Legible value → Legible (field label value)
  | node {name : String} {bracket : Bracket} {item : Outline} {items : List Outline} :
      IsWord name → Legible item → (∀ other ∈ items, Legible other) →
      Legible (node name bracket (item :: items))

/-- What the word at the beginning of an outline is for the outline. -/
inductive Role where
  | whole
  | label
  | name (bracket : Bracket)

/-- The role of the first word of an outline, which is empty before quoted text. -/
def role : Outline → Role
  | atom _ => .whole
  | field _ _ => .label
  | node _ bracket _ => .name bracket

/-- The role of a word, as the text after the word shows it. -/
def Role.before : List Char → Role
  | ':' :: _ => label
  | '(' :: _ => name .round
  | ' ' :: '\x7b' :: _ => name .curly
  | '[' :: _ => name .square
  | _ => whole

def EndsWord (rest : List Char) : Prop :=
  ∀ c ∈ rest.head?, ¬isWordChar c

/-- Whether a text may come right after an outline. -/
def EndsOutline (rest : List Char) : Prop :=
  EndsWord rest ∧ rest.head? ≠ some '"' ∧ Role.before rest = .whole

end Outline

end MathMarkup
