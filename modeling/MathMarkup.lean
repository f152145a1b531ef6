import MathMarkup.Main
import MathMarkup.Outline.State
import MathMarkup.Proofs.Grammar.Parenthesis
import MathMarkup.Proofs.Grammar.Precedence
import MathMarkup.Proofs.Lexing.Requests
import MathMarkup.Proofs.Lexing.TokenLine
import MathMarkup.Proofs.Outline.Expr
import MathMarkup.Proofs.Printing.Rerun
import MathMarkup.Proofs.Printing.Spelling
import MathMarkup.Proofs.Reading.Chains
import MathMarkup.Proofs.Reading.Locality
import MathMarkup.Proofs.Reading.Renaming
