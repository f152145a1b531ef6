import MathMarkup.Outline.Basic
import MathMarkup.Parsing.Phrase
import MathMarkup.Token.Stream

/-!
# Outlines of errors and reading states
-/

namespace MathMarkup

def Outline.ofNat (n : Nat) : Outline :=
  atom (toString n)

def ParseError.outline : ParseError → Outline
  | unexpectedToken index found =>
    .record "UnexpectedToken"
      [("index", .ofNat index), ("found", .ofOption (found.map .ofString))]
  | unmatchedParenthesis index => .record "UnmatchedParenthesis" [("index", .ofNat index)]
  | malformedIntegral index => .record "MalformedIntegral" [("index", .ofNat index)]
  | unterminatedIntegral index => .record "UnterminatedIntegral" [("index", .ofNat index)]

def Diagnostic.outline (d : Diagnostic) : Outline :=
  .record "LexDiagnostic"
    [("offset", .ofNat d.offset), ("character", .atom (Text.quoteChar d.character))]

/-- The outline of a token stream, which shows the unread source. -/
def TokenStream.outline (stream : TokenStream) : Outline :=
  .record "LatexScanner"
    [("source", .ofString (String.ofList stream.unread)), ("offset", .ofNat stream.offset),
      ("diagnostics", .ofList (stream.diagnostics.map Diagnostic.outline))]

/-- The outline of a reading session, which shows the whole token list. -/
def Session.outline (s : Session) : Outline :=
  .record "Parser"
    [("tokens", .ofList (s.tokens.map Token.outline)),
      ("cursor", .record "Cursor" [("index", .ofNat s.index)])]

end MathMarkup
