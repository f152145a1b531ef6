import MathMarkup.Parsing.Phrase
import MathMarkup.Proofs.Grammar.Progress
import MathMarkup.Proofs.Grammar.Shape
import MathMarkup.Proofs.Reading.Adequacy

/-!
# Sessions make progress

Whatever was read in a session before, and whether it succeeded or not, the next
phrase is read without breaking down.
-/

namespace MathMarkup

open Grammar

def Phrase.category : Phrase → Category
  | .binary level => .chain level
  | .primary => .primary
  | .integral => .integral

theorem Phrase.read_eq (phrase : Phrase) (c : Cursor) : phrase.read c = phrase.category.read c := by
  cases phrase with
  | binary level => rfl
  | primary => rfl
  | integral => rfl

theorem Phrase.read_nil (phrase : Phrase) (i : Nat) :
    phrase.read ⟨i, []⟩ = .error (.unexpectedToken i none) ⟨i, []⟩ := by
  have hprimary : Category.primary.read ⟨i, []⟩ = .error (.unexpectedToken i none) ⟨i, []⟩ :=
    Parsing.val_primary_nil i
  have hproduct : (Category.chain .multiplicative).read ⟨i, []⟩ =
      .error (.unexpectedToken i none) ⟨i, []⟩ := by
    rw [read_chain, operand, hprimary, Reply.andThen_error]
  rw [Phrase.read_eq]
  cases phrase with
  | primary => exact hprimary
  | integral => exact Parsing.val_integral_nil i
  | binary level =>
      cases level with
      | multiplicative => exact hproduct
      | additive =>
          rw [Phrase.category, read_chain, operand, hproduct, Reply.andThen_error]

theorem Phrase.index_lt_of_read {phrase : Phrase} {c d : Cursor} {e : Expr}
    (h : phrase.read c = .ok e d) : c.index < d.index := by
  rw [Phrase.read_eq] at h
  have hreaches := reaches_read phrase.category c
  rw [h] at hreaches
  obtain ⟨consumed, hunread, hindex⟩ := hreaches.exists_consumed
  have hshorter : d.unread.length < c.unread.length := by
    have hderives := derives_of_read h
    cases phrase with
    | binary level => exact hderives.shortens
    | primary => exact hderives.shortens
    | integral => exact hderives.shortens
  have hlength := congrArg List.length hunread
  simp only [List.length_append, Reply.cursor] at hlength hindex
  omega

namespace Session

/-- Whether a session may become another by reading on: only the place among the tokens moves. -/
structure LeadsTo (s s' : Session) : Prop where
  tokens_eq : s'.tokens = s.tokens
  index_le : s.index ≤ s'.index
  within : s'.index ≤ s'.tokens.length

theorem LeadsTo.trans {s s' s'' : Session} (h : s.LeadsTo s') (h' : s'.LeadsTo s'') :
    s.LeadsTo s'' where
  tokens_eq := h'.tokens_eq.trans h.tokens_eq
  index_le := Nat.le_trans h.index_le h'.index_le
  within := h'.within

theorem read_snd (s : Session) (phrase : Phrase) :
    (s.read phrase).2 = ⟨s.tokens, (phrase.read s.cursor).cursor.index⟩ := by
  unfold read
  split
  next hread => rw [hread]; rfl
  next hread => rw [hread]; rfl

theorem read_of_read {s : Session} {phrase : Phrase} {e : Expr} {d : Cursor}
    (h : phrase.read s.cursor = .ok e d) : s.read phrase = (.ok e, ⟨s.tokens, d.index⟩) := by
  unfold read
  rw [h]

theorem read_of_read_error {s : Session} {phrase : Phrase} {e : ParseError} {d : Cursor}
    (h : phrase.read s.cursor = .error e d) : s.read phrase = (.error e, ⟨s.tokens, d.index⟩) := by
  unfold read
  rw [h]

theorem exists_read_of_fst {s : Session} {phrase : Phrase} {e : Expr}
    (h : (s.read phrase).1 = .ok e) : ∃ d, phrase.read s.cursor = .ok e d := by
  unfold read at h
  split at h
  next e' d hread =>
    obtain rfl := Except.ok.inj h
    exact ⟨d, hread⟩
  next => cases h

theorem index_lt_read {s : Session} {phrase : Phrase} {e : Expr}
    (h : (s.read phrase).1 = .ok e) : s.index < (s.read phrase).2.index := by
  obtain ⟨d, hread⟩ := exists_read_of_fst h
  rw [read_snd, hread]
  exact Phrase.index_lt_of_read hread

theorem read_at_end {s : Session} (h : s.index = s.tokens.length) (phrase : Phrase) :
    s.read phrase = (.error (.unexpectedToken s.tokens.length none), s) := by
  have hcursor : s.cursor = ⟨s.tokens.length, []⟩ := by
    rw [cursor, h, List.drop_length]
  unfold read
  rw [hcursor, Phrase.read_nil, ← h]

theorem leadsTo_read {s : Session} (h : s.index ≤ s.tokens.length) (phrase : Phrase) :
    s.LeadsTo (s.read phrase).2 := by
  have hreaches := reaches_read phrase.category s.cursor
  rw [← Phrase.read_eq] at hreaches
  obtain ⟨n, hn, hcursor⟩ := hreaches
  have hindex : (s.read phrase).2 = ⟨s.tokens, s.index + n⟩ := by
    rw [read_snd, hcursor]
    rfl
  rw [cursor, List.length_drop] at hn
  rw [hindex]
  exact ⟨rfl, Nat.le_add_right s.index n, by simp only; omega⟩

theorem leadsTo_readAll {s : Session} (h : s.index ≤ s.tokens.length) (calls : List Phrase) :
    s.LeadsTo (s.readAll calls) := by
  induction calls generalizing s with
  | nil => exact ⟨rfl, Nat.le_refl _, h⟩
  | cons phrase calls ih =>
      have hread := leadsTo_read h phrase
      exact hread.trans (ih hread.within)

/-- Whatever was read before, the next phrase is read without breaking down, and reading
moves forward within the list, by at least one token if it succeeds. -/
theorem read_advances (tokens : List Token) (calls : List Phrase) (phrase : Phrase) :
    let s := (start tokens).readAll calls
    s.tokens = tokens ∧
      (∀ n, 8 * (tokens.length - s.index + 1) ≤ n →
        phrase.readWithin n s.cursor = .ok (phrase.read s.cursor)) ∧
      s.index ≤ (s.read phrase).2.index ∧ (s.read phrase).2.index ≤ tokens.length ∧
      (∀ e, (s.read phrase).1 = .ok e → s.index < (s.read phrase).2.index) ∧
      (s.index = tokens.length →
        s.read phrase = (.error (.unexpectedToken tokens.length none), s)) := by
  intro s
  obtain ⟨htokens, -, hwithin⟩ : (start tokens).LeadsTo s := leadsTo_readAll (Nat.zero_le _) calls
  obtain ⟨htokens', hle, hwithin'⟩ := leadsTo_read hwithin phrase
  have hsame : s.tokens = tokens := htokens
  refine ⟨hsame, ?_, hle, ?_, ?_, ?_⟩
  · intro n hn
    apply Phrase.readWithin_eq_ok
    rwa [cursor, List.length_drop, hsame]
  · rwa [htokens', hsame] at hwithin'
  · exact fun e => index_lt_read
  · intro hend
    rw [← hsame] at hend ⊢
    exact read_at_end hend phrase

/-- Whatever was read before, the next expression that is read is shaped at all of its nodes. -/
theorem shaped_of_read (tokens : List Token) (calls : List Phrase) (phrase : Phrase) (e : Expr)
    (h : (((start tokens).readAll calls).read phrase).1 = .ok e) :
    e.Shaped ∧ (phrase = .binary .multiplicative → ¬e.IsBinaryOf .additive) ∧
      (phrase = .primary ∨ phrase = .integral → ¬e.IsBinary) := by
  obtain ⟨d, hread⟩ := exists_read_of_fst h
  rw [Phrase.read_eq] at hread
  have hshapes := (derives_of_read hread).shapes
  cases phrase with
  | binary level =>
      obtain ⟨hshaped, hlevel⟩ : e.Shaped ∧ FitsLevel level e := hshapes
      refine ⟨hshaped, ?_, nofun⟩
      intro hphrase
      obtain rfl := Phrase.binary.inj hphrase
      exact hlevel
  | primary => exact ⟨hshapes.1, nofun, fun _ => hshapes.2⟩
  | integral => exact ⟨hshapes.1, nofun, fun _ => hshapes.2⟩

/-- A product after a parenthesis that is not closed. -/
def strayProduct : List Token :=
  [⟨.leftParen, "("⟩, ⟨.letter, "a"⟩, .integralSign, ⟨.superscript, "^"⟩, ⟨.letter, "b"⟩,
    ⟨.plus, "+"⟩, ⟨.number, "1"⟩, ⟨.subscript, "_"⟩, ⟨.number, "0"⟩, ⟨.letter, "x"⟩,
    .differential, ⟨.letter, "x"⟩, .modulo, ⟨.letter, "c"⟩, ⟨.minus, "-"⟩, ⟨.letter, "e"⟩]

theorem shaped_of_stray_product :
    ∃ e, (((start strayProduct).readAll [.primary]).read (.binary .multiplicative)).1 = .ok e ∧
      e.Shaped ∧ ¬e.IsBinaryOf .additive := by
  have hread : (((start strayProduct).readAll [.primary]).read (.binary .multiplicative)).1 =
      .ok (.binary (.integral true (some (.number "0"))
        (some (.binary (.var "b") ⟨.plus, "+"⟩ (.number "1"))) (.var "x") "x") .modulo
        (.var "c")) := by decide +kernel
  obtain ⟨hshaped, hroot, -⟩ := shaped_of_read strayProduct [.primary] _ _ hread
  exact ⟨_, hread, hshaped, hroot rfl⟩

end Session

end MathMarkup
