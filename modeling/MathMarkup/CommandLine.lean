import MathMarkup.Expr.Basic
import MathMarkup.Outline.Basic
import MathMarkup.Text.Terminal
import MathMarkup.Translation

/-!
# The command line

The program translates its argument and prints the expression twice, as markup
and as an indented outline.  Its arguments are taken from left to right.
-/

namespace MathMarkup
namespace CommandLine

/-- What to translate, and whether to print the tokens as well. -/
structure Job where
  input : String
  showTokens : Bool
deriving DecidableEq

inductive UsageError where
  /-- An unknown option, or one positional argument too many. -/
  | unexpectedArgument (argument : String)
  | unexpectedValue (value option : String)
  | repeatedOption (option : String)
deriving DecidableEq

/-- The wording of a usage error, which shows arguments in plain form. -/
def UsageError.message : UsageError → String
  | unexpectedArgument argument => "unexpected argument '" ++ Text.plain argument ++ "' found"
  | unexpectedValue value option =>
    "unexpected value '" ++ Text.plain value ++ "' for '" ++ option ++ "' found; no more were expected"
  | repeatedOption option =>
    "the argument '" ++ option ++ "' cannot be used multiple times"

inductive Request where
  | translate (job : Job)
  | help
  | version
  | refuse (e : UsageError)
deriving DecidableEq

/-- The arguments taken so far. -/
structure Taken where
  input : Option String
  showTokens : Bool
deriving DecidableEq

def defaultInput : String := "a \\mod b"

inductive LongOption where
  | tokens
  | help
  | version
deriving DecidableEq

def LongOption.ofName? : String → Option LongOption
  | "tokens" => some .tokens
  | "help" => some .help
  | "version" => some .version
  | _ => none

def Taken.request (taken : Taken) : Request :=
  .translate ⟨taken.input.getD defaultInput, taken.showTokens⟩

/-- Takes a positional argument, and goes on unless it is one too many. -/
def Taken.position (taken : Taken) (argument : String) (next : Taken → Request) : Request :=
  match taken.input with
  | none => next { taken with input := some argument }
  | some _ => .refuse (.unexpectedArgument argument)

def readPositional (taken : Taken) : List String → Request
  | [] => taken.request
  | argument :: rest => taken.position argument fun taken => readPositional taken rest

/-- The request of a group of short options, which its first character decides. -/
def readShort (c : Char) : Request :=
  if c = 'h' then .help
  else if c = 'V' then .version
  else .refuse (.unexpectedArgument (String.ofList ['-', c]))

/-- Takes a long option, and goes on unless it ends the reading. -/
def Taken.longOption (taken : Taken) (cs : List Char) (next : Taken → Request) : Request :=
  let name := String.ofList (cs.takeWhile (· ≠ '='))
  match LongOption.ofName? name, cs.dropWhile (· ≠ '=') with
  | none, _ => .refuse (.unexpectedArgument ("--" ++ name))
  | some _, _ :: value => .refuse (.unexpectedValue (String.ofList value) ("--" ++ name))
  | some .help, [] => .help
  | some .version, [] => .version
  | some .tokens, [] =>
    if taken.showTokens then .refuse (.repeatedOption "--tokens")
    else next { taken with showTokens := true }

/-- Takes arguments of which none came after a double hyphen. -/
def readFrom (taken : Taken) : List String → Request
  | [] => taken.request
  | argument :: rest =>
    match argument.toList with
    | ['-', '-'] => readPositional taken rest
    | '-' :: '-' :: cs => taken.longOption cs fun taken => readFrom taken rest
    | '-' :: c :: _ => readShort c
    | _ => taken.position argument fun taken => readFrom taken rest

def request (arguments : List String) : Request :=
  readFrom ⟨none, false⟩ arguments

structure Outcome where
  exitCode : Nat
  output : String
  errors : String
deriving DecidableEq

def helpText : String :=
  "Parses a LaTeX math expression and prints its syntax tree\n\n" ++
  "Usage: lasy [OPTIONS] [INPUT]\n\n" ++
  "Arguments:\n" ++
  "  [INPUT]  Expression to translate [default: \"a \\\\mod b\"]\n\n" ++
  "Options:\n" ++
  "      --tokens   Also print the scanned token stream\n" ++
  "  -h, --help     Print help\n" ++
  "  -V, --version  Print version\n"

def versionText : String := "lasy 0.1.0\n"

/-- The line that shows each token with its kind. -/
def kindLine (tokens : List Token) : String :=
  "Tokens: " ++ " ".intercalate (tokens.map fun t => t.kind.name ++ "(" ++ t.text ++ ")") ++ "\n"

/-- The two printed forms of an expression. -/
def report (e : Expr) : String :=
  e.display ++ "\n" ++ e.outline.indented 0 ++ "\n"

def errorLine (message : String) : String :=
  "error: " ++ message ++ "\n"

def Job.run (job : Job) : Outcome :=
  let tokens := lex job.input
  let heading := if job.showTokens then kindLine tokens else ""
  match parse tokens with
  | .ok e => ⟨0, heading ++ report e, ""⟩
  | .error e => ⟨1, heading, errorLine e.message⟩

/-- Runs the program on arguments that `reader` takes. -/
def runWith (reader : List String → Request) (arguments : List String) : Outcome :=
  match reader arguments with
  | .translate job => job.run
  | .help => ⟨0, helpText, ""⟩
  | .version => ⟨0, versionText, ""⟩
  | .refuse e => ⟨2, "", errorLine e.message⟩

def run (arguments : List String) : Outcome :=
  runWith request arguments

end CommandLine
end MathMarkup
