import MathMarkup.Text.Properties
import MathMarkup.Text.Quoted
import MathMarkup.Token.Basic

/-!
# Cutting a source into segments

Each segment is a blank, a character that belongs to no lexeme, or a lexeme, and is
as long as its class allows.
-/

namespace MathMarkup

inductive Segment where
  | blank (c : Char)
  | unrecognized (c : Char)
  | lexeme (token : Token)
deriving DecidableEq

/-- An unrecognized character and its byte offset in the source. -/
structure Diagnostic where
  offset : Nat
  character : Char
deriving DecidableEq

def Diagnostic.message (d : Diagnostic) : String :=
  "unrecognized character " ++ Text.quoteChar d.character ++ " at offset " ++ toString d.offset

/-- The number of bytes that characters take in UTF-8. -/
def utf8Length : List Char → Nat
  | [] => 0
  | c :: cs => c.utf8Size + utf8Length cs

/-- Whether a backslash before a character makes a spacing command of the two. -/
def isSpacingMark (c : Char) : Bool :=
  c = ',' || c = ';' || c = ':' || c = '!'

namespace Segment

def chars : Segment → List Char
  | blank c => [c]
  | unrecognized c => [c]
  | lexeme token => token.text.toList

def token? : Segment → Option Token
  | lexeme token => some token
  | _ => none

def unrecognized? : Segment → Option Char
  | unrecognized c => some c
  | _ => none

/-- Cuts what follows a backslash: one spacing mark, or the longest run of ASCII letters. -/
def splitCommand : List Char → List Char × List Char
  | [] => ([], [])
  | c :: cs =>
    if isSpacingMark c then ([c], cs)
    else ((c :: cs).takeWhile Char.isAlpha, (c :: cs).dropWhile Char.isAlpha)

/-- Cuts what follows the first digit of a number: the longest run of ASCII
digits with at most one period among them. -/
def splitNumber (cs : List Char) : List Char × List Char :=
  match cs.dropWhile Char.isDigit with
  | '.' :: rest =>
    (cs.takeWhile Char.isDigit ++ '.' :: rest.takeWhile Char.isDigit,
      rest.dropWhile Char.isDigit)
  | rest => (cs.takeWhile Char.isDigit, rest)

def ofChars (kind : TokenKind) (cs : List Char) : Segment :=
  lexeme ⟨kind, String.ofList cs⟩

/-- The first segment of the source `c :: cs`, and the source after it. -/
def first (c : Char) (cs : List Char) : Segment × List Char :=
  if c = '\\' then (ofChars .command (c :: (splitCommand cs).1), (splitCommand cs).2)
  else if c.isDigit then (ofChars .number (c :: (splitNumber cs).1), (splitNumber cs).2)
  else if c.isAlpha then (ofChars .letter [c], cs)
  else match TokenKind.ofMark? c with
    | some kind => (ofChars kind [c], cs)
    | none => (if Text.isBlank c then blank c else unrecognized c, cs)

theorem splitCommand_append (cs : List Char) :
    (splitCommand cs).1 ++ (splitCommand cs).2 = cs := by
  cases cs with
  | nil => rfl
  | cons c cs =>
    by_cases hc : isSpacingMark c
    · simp [splitCommand, hc]
    · simp only [splitCommand, hc, Bool.false_eq_true, if_false]
      exact List.takeWhile_append_dropWhile

theorem splitNumber_append (cs : List Char) :
    (splitNumber cs).1 ++ (splitNumber cs).2 = cs := by
  have hcs : cs.takeWhile Char.isDigit ++ cs.dropWhile Char.isDigit = cs :=
    List.takeWhile_append_dropWhile
  unfold splitNumber
  split
  · rename_i rest hrest
    rw [hrest] at hcs
    simpa using hcs
  · exact hcs

@[simp]
theorem chars_ofChars (kind : TokenKind) (cs : List Char) :
    (ofChars kind cs).chars = cs := by
  simp [ofChars, chars]

theorem chars_first_append (c : Char) (cs : List Char) :
    (first c cs).1.chars ++ (first c cs).2 = c :: cs := by
  unfold first
  split
  · simp [splitCommand_append]
  split
  · simp [splitNumber_append]
  split
  · simp
  split
  · simp
  · split <;> simp [chars]

theorem head_chars_first (c : Char) (cs : List Char) :
    (first c cs).1.chars.head? = some c := by
  unfold first
  split
  · simp
  split
  · simp
  split
  · simp
  split
  · simp
  · split <;> simp [chars]

theorem length_first_le (c : Char) (cs : List Char) :
    (first c cs).2.length ≤ cs.length := by
  have happend := congrArg List.length (chars_first_append c cs)
  have hhead := head_chars_first c cs
  cases hchars : (first c cs).1.chars with
  | nil => simp [hchars] at hhead
  | cons d ds => simp [hchars] at happend; omega

end Segment

/-- The segments of a source, from left to right. -/
def segments : List Char → List Segment
  | [] => []
  | c :: cs =>
    let cut := Segment.first c cs
    cut.1 :: segments cut.2
termination_by source => source.length
decreasing_by
  have := Segment.length_first_le c cs
  simp only [List.length_cons]
  omega

/-- The reports on segments of which the first stands at byte `offset`. -/
def diagnosticsFrom (offset : Nat) : List Segment → List Diagnostic
  | [] => []
  | s :: rest =>
    let later := diagnosticsFrom (offset + utf8Length s.chars) rest
    match s.unrecognized? with
    | some c => ⟨offset, c⟩ :: later
    | none => later

/-- The tokens of a source text. -/
def lex (source : String) : List Token :=
  (segments source.toList).filterMap Segment.token?

def diagnostics (source : String) : List Diagnostic :=
  diagnosticsFrom 0 (segments source.toList)

@[simp]
theorem segments_nil : segments [] = [] := by
  rw [segments]

theorem segments_cons (c : Char) (cs : List Char) :
    segments (c :: cs) = (Segment.first c cs).1 :: segments (Segment.first c cs).2 := by
  rw [segments]

theorem flatMap_chars_segments (source : List Char) :
    (segments source).flatMap Segment.chars = source := by
  fun_induction segments source with
  | case1 => rfl
  | case2 c cs cut ih => simp [ih, cut, Segment.chars_first_append]

end MathMarkup
