import MathMarkup.Token.Stream

/-!
# Reading a stream by bytes

The reading of a token stream once more, in a form that can break down: on a cut that
takes no byte or ends inside a character, and where the allowed number of characters
is used up.
-/

namespace MathMarkup

/-- Splits characters after a number of bytes, unless that is inside a character
or beyond the last one. -/
def splitBytes? : Nat → List Char → Option (List Char × List Char)
  | 0, cs => some ([], cs)
  | _ + 1, [] => none
  | n + 1, c :: cs =>
    if c.utf8Size ≤ n + 1 then
      (splitBytes? (n + 1 - c.utf8Size) cs).map fun (front, rest) => (c :: front, rest)
    else none

/-- The number of bytes before the first character that a test finds.  The test may
remember what it has seen. -/
def bytesBefore {Memory : Type} (test : Memory → Char → Bool × Memory) : Memory → List Char → Nat
  | _, [] => 0
  | memory, c :: cs =>
    if (test memory c).1 then 0 else c.utf8Size + bytesBefore test (test memory c).2 cs

def endsName (_ : Unit) (c : Char) : Bool × Unit :=
  (!c.isAlpha, ())

def endsNumber (periodSeen : Bool) (c : Char) : Bool × Bool :=
  if c = '.' ∧ ¬periodSeen then (false, true) else (!c.isDigit, periodSeen)

/-- The bytes of the command at the start of a source. -/
def commandLength? (source : List Char) : Option Nat :=
  (splitBytes? 1 source).map fun (_, rest) =>
    if rest.head?.any isSpacingMark then 2 else 1 + bytesBefore endsName () rest

def numberLength (source : List Char) : Nat :=
  bytesBefore endsNumber false source

namespace TokenStream

inductive Fault where
  | exhausted
  /-- A cut takes no byte, or does not end between two characters. -/
  | badCut
deriving DecidableEq

def take (stream : TokenStream) (n : Nat) : Except Fault (String × TokenStream) :=
  match splitBytes? n stream.unread with
  | some (c :: cs, rest) =>
    .ok (String.ofList (c :: cs), ⟨rest, stream.offset + n, stream.diagnostics⟩)
  | _ => .error .badCut

def takeLexeme (stream : TokenStream) (kind : TokenKind) (n : Nat) :
    Except Fault (Option Token × TokenStream) :=
  (stream.take n).map fun (text, after) => (some ⟨kind, text⟩, after)

def report (stream : TokenStream) (c : Char) : TokenStream :=
  ⟨stream.unread, stream.offset, stream.diagnostics ++ [⟨stream.offset, c⟩]⟩

/-- The next token and the stream after it, when fewer than `n` characters are passed over. -/
def nextWithin : Nat → TokenStream → Except Fault (Option Token × TokenStream)
  | 0, _ => .error .exhausted
  | n + 1, stream =>
    match stream.unread with
    | [] => .ok (none, stream)
    | c :: _ =>
      if c = '\\' then
        match commandLength? stream.unread with
        | some length => stream.takeLexeme .command length
        | none => .error .badCut
      else if c.isDigit then stream.takeLexeme .number (numberLength stream.unread)
      else if c.isAlpha then stream.takeLexeme .letter c.utf8Size
      else match TokenKind.ofMark? c with
        | some kind => stream.takeLexeme kind c.utf8Size
        | none =>
          ((if Text.isBlank c then stream else stream.report c).take c.utf8Size).bind
            fun (_, after) => nextWithin n after

end TokenStream

end MathMarkup
