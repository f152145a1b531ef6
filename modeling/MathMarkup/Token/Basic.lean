/-!
# Tokens
-/

namespace MathMarkup

inductive TokenKind where
  | command
  | leftBracket
  | rightBracket
  | leftParen
  | rightParen
  | superscript
  | subscript
  | plus
  | minus
  | times
  | number
  | letter
deriving DecidableEq

/-- A lexical category with the text that was written for it. -/
structure Token where
  kind : TokenKind
  text : String
deriving DecidableEq

namespace TokenKind

/-- The published name of a category. -/
def name : TokenKind → String
  | command => "Command"
  | leftBracket => "LeftBracket"
  | rightBracket => "RightBracket"
  | leftParen => "LeftParen"
  | rightParen => "RightParen"
  | superscript => "Superscript"
  | subscript => "Subscript"
  | plus => "Plus"
  | minus => "Minus"
  | times => "Times"
  | number => "NumLit"
  | letter => "Variable"

def all : List TokenKind :=
  [command, leftBracket, rightBracket, leftParen, rightParen, superscript,
    subscript, plus, minus, times, number, letter]

def ofName? (name : String) : Option TokenKind :=
  all.find? (·.name = name)

theorem ofName?_name (kind : TokenKind) : ofName? kind.name = some kind := by
  cases kind <;> decide

/-- The category of a character that is a token by itself. -/
def ofMark? : Char → Option TokenKind
  | '{' => some leftBracket
  | '}' => some rightBracket
  | '(' => some leftParen
  | ')' => some rightParen
  | '^' => some superscript
  | '_' => some subscript
  | '+' => some plus
  | '-' => some minus
  | '*' => some times
  | _ => none

end TokenKind

namespace Token

/-- The command written `name`, its backslash included. -/
@[match_pattern]
def command (name : String) : Token := ⟨.command, name⟩

@[match_pattern]
def integralSign : Token := command "\\int"

@[match_pattern]
def modulo : Token := command "\\mod"

@[match_pattern]
def thinSpace : Token := command "\\,"

/-- The letter that marks a differential. -/
@[match_pattern]
def differential : Token := ⟨.letter, "d"⟩

def isCommand (token : Token) (name : String) : Bool :=
  token = command name

end Token

/-- The binding strengths of the binary operators, loosest first. -/
inductive Level where
  | additive
  | multiplicative
deriving DecidableEq

/-- Whether a token is a binary operator of a level.  Sums are recognized by
kind alone; among the commands only `Token.modulo` is an operator. -/
def Level.IsOperator (level : Level) (token : Token) : Prop :=
  match level with
  | .additive => token.kind = .plus ∨ token.kind = .minus
  | .multiplicative => token.kind = .times ∨ token = .modulo

instance (level : Level) (token : Token) : Decidable (level.IsOperator token) := by
  cases level <;> unfold Level.IsOperator <;> infer_instance

end MathMarkup
