import MathMarkup.Text.Properties

/-!
# Quoted text
-/

namespace MathMarkup.Text

/-- The letter or digit that abbreviates a character after a backslash. -/
def shortEscape? (quote : Char) (c : Char) : Option Char :=
  if c = '\x00' then some '0'
  else if c = '\t' then some 't'
  else if c = '\r' then some 'r'
  else if c = '\n' then some 'n'
  else if c = '\\' ∨ c = quote then some c
  else none

/-- Whether a character is one of the halfwidth sound marks of Japanese.  They
extend graphemes and yet have a glyph and a cell of their own. -/
def isHalfwidthSoundMark (c : Char) : Bool :=
  c = '\uff9e' || c = '\uff9f'

/-- Whether a character is one of the fillers of Hangul, which have no glyph. -/
def isHangulFiller (c : Char) : Bool :=
  c = '\u115f' || c = '\u1160' || c = '\u3164' || c = '\uffa0'

def needsCodePoint (c : Char) : Bool :=
  (isGraphemeExtend c && !isHalfwidthSoundMark c) || isUnprintable c || isHangulFiller c

def hexDigits (n : Nat) : List Char :=
  Nat.toDigits 16 n

/-- How one character is written between two copies of `quote`. -/
def escapeChar (quote : Char) (c : Char) : List Char :=
  match shortEscape? quote c with
  | some e => ['\\', e]
  | none =>
    if needsCodePoint c then '\\' :: 'u' :: '\x7b' :: (hexDigits c.toNat ++ ['\x7d'])
    else [c]

/-- A character sequence between two copies of `quote`. -/
def quoteWith (quote : Char) (cs : List Char) : List Char :=
  quote :: (cs.flatMap (escapeChar quote) ++ [quote])

def quoteString (s : String) : String :=
  String.ofList (quoteWith '"' s.toList)

def quoteChar (c : Char) : String :=
  String.ofList (quoteWith '\'' [c])

example : quoteString "a\t\"é'\\" = "\"a\\t\\\"é'\\\\\"" := by decide +kernel

example : quoteChar '\'' = "'\\''" := by decide +kernel

example : quoteString "\u0301\u200b" = "\"\\u\x7b301\x7d\\u\x7b200b\x7d\"" := by decide +kernel

end MathMarkup.Text
