import MathMarkup.Parsing.Phrase
import MathMarkup.Token.Segment

/-!
# Translation and its trace

Translating a source text cuts it into tokens and reads them as one expression.
-/

namespace MathMarkup

/-- The expression that a source text denotes. -/
def translate (source : String) : Except ParseError Expr :=
  parse (lex source)

/-- The token texts of a list, separated by single spaces. -/
def joinTexts (tokens : List Token) : String :=
  " ".intercalate (tokens.map Token.text)

inductive Step where
  | lex
  | parse
deriving DecidableEq

def Step.name : Step → String
  | .lex => "lex"
  | .parse => "parse"

/-- What an observer sees of a translation. -/
inductive Event where
  /-- Cutting a source of so many bytes begins. -/
  | lexing (sourceLength : Nat)
  | parsing (tokenCount : Nat)
  | skipped (diagnostic : Diagnostic)
  | scanned (tokens : List Token)
  | left (step : Step)
deriving DecidableEq

inductive Severity where
  | debug
  | info
  | warning
deriving DecidableEq

def Severity.name : Severity → String
  | .debug => "DEBUG"
  | .info => "INFO"
  | .warning => "WARN"

namespace Event

def severity : Event → Severity
  | lexing _ | parsing _ | left _ => .info
  | skipped _ => .warning
  | scanned _ => .debug

def fields : Event → List String
  | lexing sourceLength => ["source_len=" ++ toString sourceLength]
  | parsing tokenCount => ["token_count=" ++ toString tokenCount]
  | skipped d => ["message=" ++ d.message]
  | scanned tokens => ["message=scanned input", "tokens=" ++ joinTexts tokens]
  | left _ => []

end Event

/-- The events of a translation, in order. -/
def trace (source : String) : List Event :=
  .lexing source.utf8ByteSize :: (diagnostics source).map .skipped ++
    [.left .lex, .scanned (lex source), .parsing (lex source).length, .left .parse]

end MathMarkup
