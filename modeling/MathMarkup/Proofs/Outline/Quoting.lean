import Mathlib.Data.List.Basic
import Mathlib.Tactic.SplitIfs
import MathMarkup.Text.Quoted

/-!
# Quoted texts are unambiguous

No escape begins with the quote, and two escapes that both begin the same text are
escapes of the same character.
-/

namespace MathMarkup
namespace Text

/-- A run of characters from a class ends at the first other character. -/
theorem append_inj_of_class {p : Char → Bool} {run run' rest rest' : List Char}
    (hrun : ∀ c ∈ run, p c) (hrun' : ∀ c ∈ run', p c)
    (hrest : ∀ c ∈ rest.head?, ¬p c) (hrest' : ∀ c ∈ rest'.head?, ¬p c)
    (h : run ++ rest = run' ++ rest') : run = run' ∧ rest = rest' := by
  have hstop : ∀ {cs : List Char}, (∀ c ∈ cs.head?, ¬p c) → cs.takeWhile p = [] := by
    intro cs hcs
    cases cs with
    | nil => rfl
    | cons c cs => exact List.takeWhile_cons_of_neg (hcs c rfl)
  have htake := congrArg (List.takeWhile p) h
  rw [List.takeWhile_append_of_pos hrun, List.takeWhile_append_of_pos hrun', hstop hrest,
    hstop hrest', List.append_nil, List.append_nil] at htake
  exact ⟨htake, List.append_cancel_left (htake ▸ h)⟩

theorem digitChar_inj {m n : Nat} (hm : m < 16) (hn : n < 16)
    (h : m.digitChar = n.digitChar) : m = n := by
  have hall : ∀ m n : Fin 16, m.val.digitChar = n.val.digitChar → m.val = n.val := by decide
  exact hall ⟨m, hm⟩ ⟨n, hn⟩ h

theorem hexDigits_eq (n : Nat) :
    hexDigits n =
      if n < 16 then [n.digitChar] else hexDigits (n / 16) ++ [(n % 16).digitChar] :=
  Nat.toDigits_eq_if (by decide)

theorem singleton_ne_hexDigits_append (c d : Char) (n : Nat) : [c] ≠ hexDigits n ++ [d] := by
  intro h
  have hlength := congrArg List.length h
  simp [hexDigits, Nat.toDigits_ne_nil] at hlength

theorem hexDigits_inj {m n : Nat} (h : hexDigits m = hexDigits n) : m = n := by
  induction m using Nat.strongRecOn generalizing n with
  | ind m ih =>
      rw [hexDigits_eq m, hexDigits_eq n] at h
      split at h <;> split at h
      · next hm hn => exact digitChar_inj hm hn (List.singleton_inj.mp h)
      · exact absurd h (singleton_ne_hexDigits_append _ _ _)
      · exact absurd h.symm (singleton_ne_hexDigits_append _ _ _)
      · next hm hn =>
          obtain ⟨hfront, hlast⟩ := List.append_inj' h rfl
          have hquotient := ih (m / 16) (by omega) hfront
          have hremainder := digitChar_inj (Nat.mod_lt m (by decide)) (Nat.mod_lt n (by decide))
            (List.singleton_inj.mp hlast)
          omega

theorem ne_of_mem_hexDigits {n : Nat} {c : Char} (h : c ∈ hexDigits n) : c ≠ '\x7d' := by
  induction n using Nat.strongRecOn with
  | ind n ih =>
      rw [hexDigits_eq] at h
      split at h
      · rw [List.mem_singleton.mp h]
        exact Nat.digitChar_ne _ rfl
      · rcases List.mem_append.mp h with h | h
        · exact ih (n / 16) (by omega) h
        · rw [List.mem_singleton.mp h]
          exact Nat.digitChar_ne _ rfl

theorem hexDigits_append_inj {m n : Nat} {rest rest' : List Char}
    (h : hexDigits m ++ '\x7d' :: rest = hexDigits n ++ '\x7d' :: rest') :
    m = n ∧ rest = rest' := by
  obtain ⟨hdigits, hrest⟩ := append_inj_of_class (p := (· ≠ '\x7d'))
    (by simpa using fun c => ne_of_mem_hexDigits) (by simpa using fun c => ne_of_mem_hexDigits)
    (by simp) (by simp) h
  exact ⟨hexDigits_inj hdigits, List.tail_eq_of_cons_eq hrest⟩

/-- The short escapes in double quotes, each with what stands after the backslash. -/
def shortEscapes : List (Char × Char) :=
  [('\x00', '0'), ('\t', 't'), ('\r', 'r'), ('\n', 'n'), ('\\', '\\'), ('"', '"')]

theorem mem_shortEscapes {c e : Char} (h : shortEscape? '"' c = some e) :
    (c, e) ∈ shortEscapes := by
  unfold shortEscape? at h
  split_ifs at h with hnul htab hreturn hnewline hself <;> cases h
  · simp [shortEscapes, hnul]
  · simp [shortEscapes, htab]
  · simp [shortEscapes, hreturn]
  · simp [shortEscapes, hnewline]
  · rcases hself with rfl | rfl <;> simp [shortEscapes]

theorem shortEscape?_inj {c d e : Char} (hc : shortEscape? '"' c = some e)
    (hd : shortEscape? '"' d = some e) : c = d := by
  have hall : ∀ p ∈ shortEscapes, ∀ q ∈ shortEscapes, p.2 = q.2 → p.1 = q.1 := by decide
  exact hall _ (mem_shortEscapes hc) _ (mem_shortEscapes hd) rfl

theorem shortEscape?_ne_u {c : Char} : shortEscape? '"' c ≠ some 'u' := by
  have hall : ∀ p ∈ shortEscapes, p.2 ≠ 'u' := by decide
  intro h
  exact hall _ (mem_shortEscapes h) rfl

theorem ne_of_shortEscape?_eq_none {c : Char} (h : shortEscape? '"' c = none) :
    c ≠ '\\' ∧ c ≠ '"' := by
  constructor <;> rintro rfl <;> exact absurd h (by decide)

theorem escapeChar_cases (c : Char) :
    (∃ e, shortEscape? '"' c = some e ∧ escapeChar '"' c = ['\\', e]) ∨
    escapeChar '"' c = '\\' :: 'u' :: '\x7b' :: (hexDigits c.toNat ++ ['\x7d']) ∨
    (c ≠ '\\' ∧ c ≠ '"') ∧ escapeChar '"' c = [c] := by
  unfold escapeChar
  cases hshort : shortEscape? '"' c with
  | some e => exact Or.inl ⟨e, rfl, rfl⟩
  | none =>
      refine Or.inr ?_
      dsimp only
      split_ifs
      · exact Or.inl rfl
      · exact Or.inr ⟨ne_of_shortEscape?_eq_none hshort, rfl⟩

theorem escapeChar_append_ne (c : Char) (rest rest' : List Char) :
    escapeChar '"' c ++ rest ≠ '"' :: rest' := by
  rcases escapeChar_cases c with ⟨e, -, hc⟩ | hc | ⟨⟨-, hquote⟩, hc⟩
  · simp [hc]
  · simp [hc]
  · simp [hc, hquote]

theorem escapeChar_append_inj {c d : Char} {rest rest' : List Char}
    (h : escapeChar '"' c ++ rest = escapeChar '"' d ++ rest') : c = d ∧ rest = rest' := by
  rcases escapeChar_cases c with ⟨e, he, hc⟩ | hc | ⟨⟨hslash, -⟩, hc⟩ <;>
    rcases escapeChar_cases d with ⟨e', he', hd⟩ | hd | ⟨⟨hslash', -⟩, hd⟩ <;>
    simp only [hc, hd, List.cons_append, List.nil_append, List.append_assoc, List.cons.injEq,
      true_and] at h
  · obtain ⟨rfl, hrest⟩ := h
    exact ⟨shortEscape?_inj he he', hrest⟩
  · exact absurd (h.1 ▸ he) shortEscape?_ne_u
  · exact absurd h.1.symm hslash'
  · exact absurd (h.1 ▸ he') shortEscape?_ne_u
  · obtain ⟨hcode, hrest⟩ := hexDigits_append_inj h
    exact ⟨Char.toNat_inj.mp hcode, hrest⟩
  · exact absurd h.1.symm hslash'
  · exact absurd h.1 hslash
  · exact absurd h.1 hslash
  · exact h

/-- A quoted text determines the text that it quotes, and where it ends. -/
theorem quoteWith_append_inj {cs ds rest rest' : List Char}
    (h : quoteWith '"' cs ++ rest = quoteWith '"' ds ++ rest') : cs = ds ∧ rest = rest' := by
  simp only [quoteWith, List.cons_append, List.append_assoc, List.nil_append] at h
  replace h := List.tail_eq_of_cons_eq h
  induction cs generalizing ds with
  | nil =>
      cases ds with
      | nil => exact ⟨rfl, List.tail_eq_of_cons_eq h⟩
      | cons d ds =>
          rw [List.flatMap_cons, List.append_assoc] at h
          exact absurd h.symm (escapeChar_append_ne d _ _)
  | cons c cs ih =>
      cases ds with
      | nil =>
          rw [List.flatMap_cons, List.append_assoc] at h
          exact absurd h (escapeChar_append_ne c _ _)
      | cons d ds =>
          rw [List.flatMap_cons, List.flatMap_cons, List.append_assoc, List.append_assoc] at h
          obtain ⟨rfl, hlater⟩ := escapeChar_append_inj h
          obtain ⟨rfl, hrest⟩ := ih hlater
          exact ⟨rfl, hrest⟩

theorem toList_quoteString (s : String) : (quoteString s).toList = quoteWith '"' s.toList :=
  String.toList_ofList

theorem quoteString_inj {s t : String} (h : quoteString s = quoteString t) : s = t := by
  have hquoted : quoteWith '"' s.toList ++ [] = quoteWith '"' t.toList ++ [] := by
    rw [← toList_quoteString, ← toList_quoteString, h]
  exact String.toList_inj.mp (quoteWith_append_inj hquoted).1

end Text
end MathMarkup
