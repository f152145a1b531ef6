import MathMarkup.Token.Segment

/-!
# Lexical classes
-/

namespace MathMarkup

/-- A spacing command, or a backslash and a possibly empty run of ASCII letters. -/
def IsCommandText (cs : List Char) : Prop :=
  (∃ c, isSpacingMark c ∧ cs = ['\\', c]) ∨
    ∃ letters, (∀ c ∈ letters, c.isAlpha) ∧ cs = '\\' :: letters

/-- One or more ASCII digits, after which a period and further digits may stand. -/
def IsNumeral (cs : List Char) : Prop :=
  ∃ whole fraction, whole ≠ [] ∧ (∀ c ∈ whole, c.isDigit) ∧ (∀ c ∈ fraction, c.isDigit) ∧
    (cs = whole ∨ cs = whole ++ '.' :: fraction)

def IsLetterText (cs : List Char) : Prop :=
  ∃ c, c.isAlpha ∧ cs = [c]

def TokenKind.Admits (kind : TokenKind) (cs : List Char) : Prop :=
  match kind with
  | .command => IsCommandText cs
  | .number => IsNumeral cs
  | .letter => IsLetterText cs
  | kind => ∃ c, TokenKind.ofMark? c = some kind ∧ cs = [c]

/-- Whether the kind of a token admits its text. -/
def Token.IsLexeme (t : Token) : Prop :=
  t.kind.Admits t.text.toList

/-- Whether no lexeme starts with a character. -/
def StartsNoLexeme (c : Char) : Prop :=
  ∀ kind cs, ¬TokenKind.Admits kind (c :: cs)

/-- Whether a segment belongs to its class, whatever stands after it. -/
def Segment.IsValid : Segment → Prop
  | blank c => Text.isBlank c
  | unrecognized c => StartsNoLexeme c ∧ ¬Text.isBlank c
  | lexeme t => t.IsLexeme

/-- Whether the first character of `rest` would lengthen a segment within its class. -/
def Segment.Extends (s : Segment) (rest : List Char) : Prop :=
  match s with
  | lexeme t => ∃ c, rest.head? = some c ∧ t.kind.Admits (t.text.toList ++ [c])
  | _ => False

/-- `IsSegmentation source ss` says that `ss` cuts `source` into segments of
which each one belongs to its class and is as long as its class allows. -/
inductive IsSegmentation : List Char → List Segment → Prop
  | nil : IsSegmentation [] []
  | cons {s : Segment} {rest : List Char} {ss : List Segment} (valid : s.IsValid)
      (maximal : ¬s.Extends rest) (later : IsSegmentation rest ss) :
      IsSegmentation (s.chars ++ rest) (s :: ss)

end MathMarkup
