/-!
# Plain text out of terminal text

The plain form of a text leaves out what a terminal obeys and does not show: control
characters, escape and control sequences, and strings of commands.
-/

namespace MathMarkup.Text

inductive Place where
  | text
  | escape
  | escapeIntermediate
  | control
  /-- At the start of a device control string. -/
  | device
  | deviceParameter
  | deviceIntermediate
  /-- Inside an operating system command. -/
  | command
  /-- Inside the text of any other string. -/
  | string
deriving DecidableEq

/-- Where a reader of terminal text is.  A blank control character suspends an
escape or control sequence: what follows is read as text, until another control
character resumes the sequence. -/
structure TerminalReader where
  place : Place
  isSuspended : Bool
deriving DecidableEq

/-- Whether a character is a blank of ASCII other than the space. -/
def isBlankControl (c : Char) : Bool :=
  c = '\t' || c = '\n' || c = '\x0c' || c = '\r'

def isWide (c : Char) : Bool :=
  0x80 ≤ c.toNat

/-- Whether a character is a printable character of ASCII, the space included. -/
def isPlainAscii (c : Char) : Bool :=
  ' ' ≤ c && c ≤ '~'

/-- Whether the encoding of a character has the byte that terminates strings. -/
def hasStringTerminator (c : Char) : Bool :=
  (String.utf8EncodeChar c).contains 0x9C

namespace Place

def afterEscape (c : Char) : Place :=
  if ' ' ≤ c && c ≤ '/' then escapeIntermediate
  else if c = '[' then control
  else if c = ']' then command
  else if c = 'P' then device
  else if c = 'X' || c = '^' || c = '_' then string
  else text

def afterPlainAscii (place : Place) (c : Char) : Place :=
  match place with
  | text => text
  | escape => afterEscape c
  | escapeIntermediate => if c ≤ '/' then escapeIntermediate else text
  | control => if c ≤ '?' then control else text
  | device =>
    if c ≤ '/' then deviceIntermediate else if c ≤ '?' then deviceParameter else string
  | deviceParameter =>
    if c ≤ '/' then deviceIntermediate else if c ≤ ';' then deviceParameter else string
  | deviceIntermediate => if c ≤ '/' then deviceIntermediate else string
  | command => command
  | string => string

/-- Whether a blank control character suspends the sequence at a place. -/
def isSuspendable : Place → Bool
  | escape | escapeIntermediate | control => true
  | _ => false

end Place

namespace TerminalReader

def start : TerminalReader := ⟨.text, false⟩

def isInText (reader : TerminalReader) : Bool :=
  reader.place = .text || reader.isSuspended

def shows (reader : TerminalReader) (c : Char) : Bool :=
  if reader.isInText then isWide c || isPlainAscii c || isBlankControl c
  else reader.place.isSuspendable && isBlankControl c

def next (reader : TerminalReader) (c : Char) : TerminalReader :=
  if c = '\x1b' then ⟨.escape, false⟩
  else if c = '\x18' || c = '\x1a' then ⟨.text, false⟩
  else if reader.shows c then
    if isWide c || reader.place = .text then ⟨.text, false⟩ else ⟨reader.place, true⟩
  else if isPlainAscii c then ⟨reader.place.afterPlainAscii c, false⟩
  else if reader.place = .string && hasStringTerminator c then ⟨.text, false⟩
  else if reader.place = .command && c = '\x07' then ⟨.text, false⟩
  else ⟨reader.place, false⟩

def shown (reader : TerminalReader) : List Char → List Char
  | [] => []
  | c :: cs =>
    if reader.shows c then c :: (reader.next c).shown cs else (reader.next c).shown cs

end TerminalReader

/-- The plain form of a text. -/
def plain (s : String) : String :=
  String.ofList (TerminalReader.start.shown s.toList)

example : plain "a\x1b[1;31mb\x1b[0m\x07c" = "abc" := by decide +kernel

example : plain "\x1b]0;title\x07x\x1bPq\u00dcy" = "xy" := by decide +kernel

example : plain "\x1b[3\t1mx\x011my" = "\t1mxy" := by decide +kernel

end MathMarkup.Text
