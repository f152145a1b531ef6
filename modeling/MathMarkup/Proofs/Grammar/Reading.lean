import MathMarkup.Grammar.Derivation
import MathMarkup.Parsing.Equations

/-!
# Reading a category of the grammar

Each category of the grammar has a function that reads it, and the equations of the
reading functions follow the rules of the grammar.
-/

namespace MathMarkup

theorem Level.IsOperator.kind {level : Level} {t : Token} (h : level.IsOperator t) :
    t.kind = .plus ∨ t.kind = .minus ∨ t.kind = .times ∨ t = .modulo := by
  cases level with
  | additive =>
      rcases h with h | h
      · exact Or.inl h
      · exact Or.inr (Or.inl h)
  | multiplicative =>
      rcases h with h | h
      · exact Or.inr (Or.inr (Or.inl h))
      · exact Or.inr (Or.inr (Or.inr h))

theorem Level.IsOperator.not_multiplicative {t : Token} (h : Level.additive.IsOperator t) :
    ¬Level.multiplicative.IsOperator t := by
  rintro (htimes | rfl)
  · rcases h with h | h <;> rw [htimes] at h <;> cases h
  · rcases h with h | h <;> cases h

theorem not_isOperator_of_kind {t : Token}
    (h : t.kind ≠ .plus ∧ t.kind ≠ .minus ∧ t.kind ≠ .times ∧ t.kind ≠ .command)
    (level : Level) : ¬level.IsOperator t := by
  obtain ⟨hplus, hminus, htimes, hcommand⟩ := h
  intro hoperator
  rcases hoperator.kind with h | h | h | rfl
  · exact hplus h
  · exact hminus h
  · exact htimes h
  · exact hcommand rfl

def Token.StartsPrimary (t : Token) : Prop :=
  t.kind = .number ∨ t.kind = .letter ∨ t.kind = .leftParen ∨ t = .integralSign

theorem Token.StartsPrimary.not_isOperator {t : Token} (h : t.StartsPrimary) (level : Level) :
    ¬level.IsOperator t := by
  rcases h with h | h | h | rfl
  · exact not_isOperator_of_kind (by simp [h]) level
  · exact not_isOperator_of_kind (by simp [h]) level
  · exact not_isOperator_of_kind (by simp [h]) level
  · cases level <;> decide

theorem Token.StartsPrimary.oppositeMarker? {t : Token} (h : t.StartsPrimary) :
    t.kind.oppositeMarker? = none := by
  rcases h with h | h | h | rfl
  · rw [h]; rfl
  · rw [h]; rfl
  · rw [h]; rfl
  · rfl

theorem TokenKind.oppositeMarker?_eq_some_iff {kind opposite : TokenKind} :
    kind.oppositeMarker? = some opposite ↔
      kind = .subscript ∧ opposite = .superscript ∨ kind = .superscript ∧ opposite = .subscript := by
  cases kind <;> simp [TokenKind.oppositeMarker?, eq_comm]

theorem TokenKind.oppositeMarker?_symm {kind opposite : TokenKind}
    (h : kind.oppositeMarker? = some opposite) : opposite.oppositeMarker? = some kind := by
  rcases oppositeMarker?_eq_some_iff.mp h with ⟨rfl, rfl⟩ | ⟨rfl, rfl⟩
  · rfl
  · rfl

namespace Grammar

open Parsing

/-- Reads a category from a cursor. -/
def Category.read : Category → Cursor → Reply Expr
  | .chain level, c => (binary level c).1
  | .links level left, c =>
      (Parsing.links level c).1.andThen fun chain d => .ok (left.foldLinks chain.1 chain.2) d
  | .primary, c => (Parsing.primary c).1
  | .integral, c => (Parsing.integral c).1

theorem read_operand (level : Level) (c : Cursor) :
    (operand level).read c = (Parsing.operand level c).1 := by
  cases level with
  | additive => exact (val_operand_additive c).symm
  | multiplicative => exact (val_operand_multiplicative c).symm

theorem read_chain (level : Level) (c : Cursor) :
    (Category.chain level).read c =
      ((operand level).read c).andThen fun first d => (Category.links level first).read d := by
  rw [read_operand]
  exact val_binary level c

theorem read_links_nil (level : Level) (left : Expr) (i : Nat) :
    (Category.links level left).read ⟨i, []⟩ = .ok left ⟨i, []⟩ := by
  rw [Category.read, val_links_nil, Reply.andThen_ok, Expr.foldLinks]
  simp

theorem read_links_of_not_isOperator {level : Level} {t : Token} (h : ¬level.IsOperator t)
    (left : Expr) (i : Nat) (ts : List Token) :
    (Category.links level left).read ⟨i, t :: ts⟩ = .ok left ⟨i, t :: ts⟩ := by
  rw [Category.read, val_links_of_not_isOperator h, Reply.andThen_ok, Expr.foldLinks]
  simp

theorem read_links_of_isOperator {level : Level} {t : Token} (h : level.IsOperator t)
    (left : Expr) (i : Nat) (ts : List Token) :
    (Category.links level left).read ⟨i, t :: ts⟩ =
      ((operand level).read ⟨i + 1, ts⟩).andThen fun right d =>
        (Category.links level (.binary left t right)).read d := by
  rw [Category.read, val_links_of_isOperator h, Reply.andThen_assoc, read_operand]
  congr 1
  funext right d
  rw [Reply.andThen_assoc]
  rfl

theorem length_unread_read_le {category : Category} {c d : Cursor} {e : Expr}
    (h : category.read c = .ok e d) : d.unread.length ≤ c.unread.length := by
  cases category with
  | chain level => exact Forward.length_unread_le h
  | links level left =>
      obtain ⟨chain, d', hlinks, hfold⟩ := Reply.andThen_eq_ok_iff.mp h
      obtain ⟨-, rfl⟩ := Reply.ok.inj hfold
      exact Forward.length_unread_le hlinks
  | primary => exact Forward.length_unread_le h
  | integral => exact Forward.length_unread_le h

/-! ## Differentials -/

theorem endsIntegrand_of_differential? {integrand : Expr} {ts : List Token} {name : String}
    {n : Nat} (h : differential? integrand ts = some (name, n)) :
    EndsIntegrand integrand ts name (ts.drop n) := by
  unfold differential? at h
  split at h
  next name' rest =>
    obtain ⟨rfl, rfl⟩ := Prod.mk.inj (Option.some.inj h)
    exact .spacedMark name' rest
  next name' rest hmark =>
    obtain ⟨rfl, rfl⟩ := Prod.mk.inj (Option.some.inj h)
    refine .spaced name' rest ?_
    by_cases hname : name' = "d"
    · right
      rintro ⟨other, rest', rfl⟩
      exact hmark other rest' rfl hname
    · exact Or.inl hname
  next => simp at h
  next name' rest =>
    obtain ⟨rfl, rfl⟩ := Prod.mk.inj (Option.some.inj h)
    exact .mark name' rest
  next =>
    split at h
    next hends =>
      cases integrand with
      | var name' =>
          obtain ⟨rfl, rfl⟩ := Prod.mk.inj (Option.some.inj h)
          exact .unwritten name' ts rfl hends
      | _ => simp [Expr.name?] at h
    next => simp at h

theorem differential?_of_endsIntegrand {integrand : Expr} {ts rest : List Token}
    {name : String} (h : EndsIntegrand integrand ts name rest) :
    ∃ n, differential? integrand ts = some (name, n) ∧ ts.drop n = rest := by
  cases h with
  | spacedMark => exact ⟨3, rfl, rfl⟩
  | spaced _ _ hname =>
      refine ⟨2, ?_, rfl⟩
      unfold differential?
      split
      next name' rest' heq =>
        obtain ⟨hmark, rfl⟩ := List.cons.inj (List.cons.inj heq).2
        obtain rfl := (Token.mk.inj hmark).2
        rcases hname with hname | hname
        · exact absurd rfl hname
        · exact absurd ⟨name', rest', rfl⟩ hname
      next name' rest' _ heq =>
        obtain ⟨hletter, rfl⟩ := List.cons.inj (List.cons.inj heq).2
        obtain rfl := (Token.mk.inj hletter).2
        rfl
      next rest' _ hshort heq =>
        exact absurd (List.cons.inj heq).2.symm (hshort name rest)
      next heq => cases heq
      next _ hother _ _ => exact absurd rfl (hother name rest)
  | mark => exact ⟨2, rfl, rfl⟩
  | unwritten _ _ hvar hends =>
      refine ⟨0, ?_, rfl⟩
      subst hvar
      unfold differential?
      split
      next => rcases hends with h | h | h <;> cases h
      next => rcases hends with h | h | h <;> cases h
      next => rcases hends with h | h | h <;> cases h
      next => rcases hends with h | h | h <;> cases h
      next => rw [if_pos hends]; rfl

/-! ## Induction along the reading functions -/

/-- Induction along the reading functions, in which everything that is read on the way may
be relied on. -/
theorem reading_induction {motive : Category → Cursor → Prop} {boundsMotive : Cursor → Prop}
    (chain : ∀ level c, motive (operand level) c →
      (∀ left d, d.unread.length ≤ c.unread.length → motive (.links level left) d) →
      motive (.chain level) c)
    (linksEnd : ∀ level left i, motive (.links level left) ⟨i, []⟩)
    (linksStop : ∀ level left i t ts, ¬level.IsOperator t →
      motive (.links level left) ⟨i, t :: ts⟩)
    (link : ∀ level left i t ts, level.IsOperator t → motive (operand level) ⟨i + 1, ts⟩ →
      (∀ right d, d.unread.length ≤ ts.length →
        motive (.links level (.binary left t right)) d) →
      motive (.links level left) ⟨i, t :: ts⟩)
    (primaryEnd : ∀ i, motive .primary ⟨i, []⟩)
    (number : ∀ i t ts, t.kind = .number → motive .primary ⟨i, t :: ts⟩)
    (letter : ∀ i t ts, t.kind = .letter → motive .primary ⟨i, t :: ts⟩)
    (group : ∀ i t ts, t.kind = .leftParen → motive (.chain .additive) ⟨i + 1, ts⟩ →
      motive .primary ⟨i, t :: ts⟩)
    (other : ∀ i t ts, t.kind ≠ .number → t.kind ≠ .letter → t.kind ≠ .leftParen →
      motive .integral ⟨i, t :: ts⟩ → motive .primary ⟨i, t :: ts⟩)
    (integralEnd : ∀ i, motive .integral ⟨i, []⟩)
    (integral : ∀ i ts, boundsMotive ⟨i + 1, ts⟩ →
      (∀ d, d.unread.length ≤ ts.length → motive (.chain .additive) d) →
      motive .integral ⟨i, .integralSign :: ts⟩)
    (noIntegral : ∀ i t ts, t ≠ .integralSign → motive .integral ⟨i, t :: ts⟩)
    (boundsEnd : ∀ i, boundsMotive ⟨i, []⟩)
    (noBounds : ∀ i t ts, t.kind.oppositeMarker? = none → boundsMotive ⟨i, t :: ts⟩)
    (someBounds : ∀ i t ts opposite, t.kind.oppositeMarker? = some opposite →
      motive (.chain .additive) ⟨i + 1, ts⟩ →
      (∀ d, d.unread.length ≤ ts.length → motive (.chain .additive) d) →
      boundsMotive ⟨i, t :: ts⟩) :
    (∀ category c, motive category c) ∧ ∀ c, boundsMotive c := by
  obtain ⟨-, hprimary, hintegral, hchain, hlinks, hbounds⟩ := Parsing.operand.mutual_induct
    (fun level c => motive (operand level) c) (motive .primary) (motive .integral)
    (fun level c => motive (.chain level) c) (fun level c => ∀ left, motive (.links level left) c)
    boundsMotive
    (fun _ h => h) (fun _ h => h) primaryEnd number (fun i t ts _ => letter i t ts)
    (fun i t ts _ _ => group i t ts) other integralEnd integral noIntegral
    (fun level c hfirst hlinks => chain level c hfirst fun left d hle => hlinks d hle left)
    (fun level i left => linksEnd level left i)
    (fun level i t ts ht hright hlinks left =>
      link level left i t ts ht hright fun right d hle => hlinks d hle _)
    (fun level i t ts ht left => linksStop level left i t ts ht)
    boundsEnd noBounds
    (fun i t ts opposite ht hfirst hsecond =>
      someBounds i t ts opposite ht hfirst fun d hle => hsecond d hle d (Nat.le_refl _))
  refine ⟨?_, hbounds⟩
  rintro (level | ⟨level, left⟩ | _ | _) c
  · exact hchain level c
  · exact hlinks level c left
  · exact hprimary c
  · exact hintegral c

end Grammar
end MathMarkup
