import MathMarkup.Token.Basic

/-!
# Cursors and replies

A cursor is a place in a token list.  Reading from a cursor gives a value or an
error, together with the cursor at which reading stopped.
-/

namespace MathMarkup

/-- Why reading an expression stopped, and at which token. -/
inductive ParseError where
  /-- No expression continues with this token, or with the end of the list. -/
  | unexpectedToken (index : Nat) (found : Option String)
  | unmatchedParenthesis (index : Nat)
  /-- The bound whose marker stands at `index` has no opposite bound. -/
  | malformedIntegral (index : Nat)
  /-- The integral that opens at `index` has no differential. -/
  | unterminatedIntegral (index : Nat)
deriving DecidableEq

namespace ParseError

def index : ParseError → Nat
  | unexpectedToken index _ => index
  | unmatchedParenthesis index => index
  | malformedIntegral index => index
  | unterminatedIntegral index => index

def describeFound : Option String → String
  | some text => "token `" ++ text ++ "`"
  | none => "end of input"

def message : ParseError → String
  | unexpectedToken index found =>
    "unexpected " ++ describeFound found ++ " at index " ++ toString index
  | unmatchedParenthesis index => "unmatched parenthesis at index " ++ toString index
  | malformedIntegral index =>
    "integral bound at index " ++ toString index ++ " has no matching bound"
  | unterminatedIntegral index =>
    "integral starting at index " ++ toString index ++ " has no differential"

end ParseError

structure Cursor where
  index : Nat
  unread : List Token
deriving DecidableEq

inductive Reply (α : Type) where
  | ok (value : α) (cursor : Cursor)
  | error (e : ParseError) (cursor : Cursor)
deriving DecidableEq

namespace Cursor

def start (tokens : List Token) : Cursor := ⟨0, tokens⟩

def skip (c : Cursor) (n : Nat) : Cursor := ⟨c.index + n, c.unread.drop n⟩

def unexpected (c : Cursor) : ParseError :=
  .unexpectedToken c.index (c.unread.head?.map Token.text)

end Cursor

def Reply.cursor {α : Type} : Reply α → Cursor
  | .ok _ c => c
  | .error _ c => c

/-- Goes on from where reading stopped, unless it failed. -/
def Reply.andThen {α β : Type} (reply : Reply α) (next : α → Cursor → Reply β) : Reply β :=
  match reply with
  | .ok value c => next value c
  | .error e c => .error e c

@[simp]
theorem Reply.andThen_ok {α β : Type} (value : α) (c : Cursor) (next : α → Cursor → Reply β) :
    (Reply.ok value c).andThen next = next value c := rfl

@[simp]
theorem Reply.andThen_error {α β : Type} (e : ParseError) (c : Cursor)
    (next : α → Cursor → Reply β) : (Reply.error e c).andThen next = .error e c := rfl

theorem Reply.andThen_eq_ok_iff {α β : Type} {reply : Reply α} {next : α → Cursor → Reply β}
    {value : β} {d : Cursor} :
    reply.andThen next = .ok value d ↔
      ∃ first c, reply = .ok first c ∧ next first c = .ok value d := by
  constructor
  · intro h
    cases reply with
    | ok first c => exact ⟨first, c, rfl, h⟩
    | error e c => cases h
  · rintro ⟨first, c, rfl, h⟩
    exact h

theorem Reply.andThen_eq_error_iff {α β : Type} {reply : Reply α} {next : α → Cursor → Reply β}
    {e : ParseError} {d : Cursor} :
    reply.andThen next = .error e d ↔
      reply = .error e d ∨ ∃ first c, reply = .ok first c ∧ next first c = .error e d := by
  constructor
  · intro h
    cases reply with
    | ok first c => exact Or.inr ⟨first, c, rfl, h⟩
    | error e' c =>
      obtain ⟨rfl, rfl⟩ := Reply.error.inj h
      exact Or.inl rfl
  · rintro (rfl | ⟨first, c, rfl, h⟩)
    · rfl
    · exact h

theorem Reply.andThen_assoc {α β γ : Type} (reply : Reply α) (next : α → Cursor → Reply β)
    (last : β → Cursor → Reply γ) :
    (reply.andThen next).andThen last =
      reply.andThen fun value c => (next value c).andThen last := by
  cases reply with
  | ok value c => rfl
  | error e c => rfl

/-- The replies to reading from `c` that leave no more tokens unread. -/
def Forward (c : Cursor) (α : Type) : Type :=
  { reply : Reply α // reply.cursor.unread.length ≤ c.unread.length }

namespace Forward

variable {α β : Type} {c : Cursor}

def ok (value : α) (c : Cursor) : Forward c α :=
  ⟨.ok value c, Nat.le_refl _⟩

def error (e : ParseError) (c : Cursor) : Forward c α :=
  ⟨.error e c, Nat.le_refl _⟩

def weaken {d : Cursor} (h : d.unread.length ≤ c.unread.length) (reply : Forward d α) :
    Forward c α :=
  ⟨reply.1, Nat.le_trans reply.2 h⟩

def andThen (reply : Forward c α)
    (next : α → (d : Cursor) → d.unread.length ≤ c.unread.length → Forward d β) :
    Forward c β :=
  match reply with
  | ⟨.error e d, h⟩ => ⟨.error e d, h⟩
  | ⟨.ok value d, h⟩ => (next value d h).weaken h

@[simp]
theorem val_ok (value : α) (c : Cursor) : (ok value c).1 = .ok value c := rfl

@[simp]
theorem val_error (e : ParseError) (c : Cursor) :
    (error e c : Forward c α).1 = .error e c := rfl

@[simp]
theorem val_weaken {d : Cursor} (h : d.unread.length ≤ c.unread.length)
    (reply : Forward d α) : (reply.weaken h).1 = reply.1 := rfl

theorem val_andThen (reply : Forward c α)
    (next : α → (d : Cursor) → d.unread.length ≤ c.unread.length → Forward d β)
    (next' : α → Cursor → Reply β)
    (h : ∀ value d hle, (next value d hle).1 = next' value d) :
    (reply.andThen next).1 = reply.1.andThen next' := by
  obtain ⟨reply, hle⟩ := reply
  cases reply with
  | ok value d => exact h value d hle
  | error e d => rfl

theorem length_unread_le {reply : Forward c α} {value : α} {d : Cursor}
    (h : reply.1 = .ok value d) : d.unread.length ≤ c.unread.length := by
  have hle := reply.2
  rw [h] at hle
  exact hle

end Forward

end MathMarkup
