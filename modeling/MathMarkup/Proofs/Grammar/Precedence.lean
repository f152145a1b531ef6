import MathMarkup.Grammar.Precedence
import MathMarkup.Proofs.Grammar.Progress

/-!
# Reading with two stacks

The operator-precedence machine follows reading step by step.  Where a phrase is
read, the machine has its expression on top of the stacks that it started with, up
to operators that it has not applied yet; where reading fails, it rejects.
-/

namespace MathMarkup
namespace Precedence

open Grammar
open Parsing hiding operand

/-! ## Runs from a state -/

/-- What the machine gives for tokens from a state on. -/
def finish (tokens : List Token) (s : State) : Option Expr :=
  (tokens.foldlM step s).bind State.result?

theorem finish_nil (s : State) : finish [] s = s.result? := rfl

theorem finish_cons (t : Token) (ts : List Token) (s : State) :
    finish (t :: ts) s = (step s t).bind (finish ts) := by
  rw [finish, List.foldlM_cons]
  exact Option.bind_assoc (step s t) _ _

theorem levelOf?_eq_some_iff {t : Token} {level : Level} :
    levelOf? t = some level ↔ level.IsOperator t := by
  unfold levelOf?
  by_cases hadditive : Level.additive.IsOperator t
  · rw [if_pos hadditive]
    cases level with
    | additive => exact iff_of_true rfl hadditive
    | multiplicative => exact iff_of_false (by simp) hadditive.not_multiplicative
  · rw [if_neg hadditive]
    cases level with
    | additive => simp [hadditive]
    | multiplicative => simp

theorem levelOf?_eq_none {t : Token} (h : ∀ level : Level, ¬level.IsOperator t) :
    levelOf? t = none := by
  rw [levelOf?, if_neg (h .additive), if_neg (h .multiplicative)]

/-! ## Applying pending operators -/

theorem reduceAll_eq (operands : List Expr) (pending : List Pending) :
    reduceAll operands pending = reduceFor .additive operands pending := by
  induction pending generalizing operands with
  | nil => rfl
  | cons top pending ih =>
      cases top with
      | operator level token => simp [reduceAll, reduceFor, appliesBefore, ih]
      | parenthesis token => rfl

/-- Applying first the operators that come before products changes nothing for
the operators that come before sums. -/
theorem reduceFor_additive_of_multiplicative {operands operands' : List Expr}
    {pending pending' : List Pending}
    (h : reduceFor .multiplicative operands pending = some (operands', pending')) :
    reduceFor .additive operands pending = reduceFor .additive operands' pending' := by
  induction pending generalizing operands with
  | nil =>
      obtain ⟨rfl, rfl⟩ := Prod.mk.inj (Option.some.inj h)
      rfl
  | cons top pending ih =>
      cases top with
      | operator level token =>
          cases level with
          | additive =>
              obtain ⟨rfl, rfl⟩ := Prod.mk.inj (Option.some.inj h)
              rfl
          | multiplicative =>
              obtain ⟨applied, happly, hlater⟩ := Option.bind_eq_some_iff.mp h
              rw [← ih hlater]
              simp [reduceFor, appliesBefore, happly]
      | parenthesis token =>
          obtain ⟨rfl, rfl⟩ := Prod.mk.inj (Option.some.inj h)
          rfl

/-- Whether no pending operator on top is applied before one of a level. -/
def Bars (level : Level) (pending : List Pending) : Prop :=
  ∀ earlier token, pending.head? = some (.operator earlier token) → ¬appliesBefore earlier level

theorem Bars.reduceFor_eq {level : Level} {pending : List Pending} (h : Bars level pending)
    (operands : List Expr) : reduceFor level operands pending = some (operands, pending) := by
  cases pending with
  | nil => rfl
  | cons top pending =>
      cases top with
      | operator earlier token => rw [reduceFor, if_neg (h earlier token rfl)]
      | parenthesis token => rfl

/-! ## Phrases on the stacks -/

/-- Applies the pending operators of a phrase.  A primary expression and an
integral leave none. -/
def settle : Category → List Expr → List Pending → Option (List Expr × List Pending)
  | .chain level, operands, pending => reduceFor level operands pending
  | .links level _, operands, pending => reduceFor level operands pending
  | _, operands, pending => some (operands, pending)

/-- Whether a phrase may be read over pending operators: none of them is applied
before one of the phrase. -/
def MayStart : Category → List Pending → Prop
  | .chain level, pending => Bars level pending
  | .links level _, pending => Bars level pending
  | _, _ => True

/-- Whether a state after an operand has the expression of a phrase on top of two
stacks, once the operators of the phrase are applied. -/
def Holds (category : Category) (e : Expr) (operands : List Expr) (pending : List Pending)
    (s : State) : Prop :=
  s.needsOperand = false ∧ settle category s.operands s.pending = some (e :: operands, pending)

/-- Whether a phrase is read over two stacks from a state.  The rest of a chain
starts where the part before it is on the stacks. -/
def Starts : Category → List Expr → List Pending → State → Prop
  | .links level left, operands, pending, s => Holds (.chain level) left operands pending s
  | _, operands, pending, s => s = ⟨operands, pending, true⟩

/-- Whether the machine follows a reply to reading a phrase over two stacks, where
`outcome` is what it gives in the end. -/
def Follows (category : Category) (operands : List Expr) (pending : List Pending)
    (outcome : Option Expr) : Reply Expr → Prop
  | .ok e d => ∃ s, Holds category e operands pending s ∧ outcome = finish d.unread s
  | .error _ _ => outcome = none

/-- Whether the machine follows reading a phrase from a cursor, over any stacks. -/
def FollowsAt (category : Category) (c : Cursor) : Prop :=
  Token.integralSign ∉ c.unread →
    ∀ operands pending s, MayStart category pending → Starts category operands pending s →
      Follows category operands pending (finish c.unread s) (category.read c)

theorem not_mem_of_read {category : Category} {c d : Cursor} {e : Expr}
    (h : category.read c = .ok e d) (hsign : Token.integralSign ∉ c.unread) :
    Token.integralSign ∉ d.unread := by
  obtain ⟨consumed, hunread, -⟩ := (reaches_of_read h).exists_consumed
  rw [hunread] at hsign
  exact fun hmem => hsign (List.mem_append_right consumed hmem)

theorem reduceFor_of_settle_operand {level : Level} {operands operands' : List Expr}
    {pending pending' : List Pending}
    (h : settle (operand level) operands pending = some (operands', pending')) :
    reduceFor level operands pending = reduceFor level operands' pending' := by
  cases level with
  | additive => exact reduceFor_additive_of_multiplicative h
  | multiplicative =>
      obtain ⟨rfl, rfl⟩ := Prod.mk.inj (Option.some.inj h)
      rfl

theorem Bars.mayStart_operand {level : Level} {pending : List Pending} (h : Bars level pending) :
    MayStart (operand level) pending := by
  cases level with
  | multiplicative => trivial
  | additive => exact fun earlier token htop => absurd (by simp [appliesBefore]) (h earlier token htop)

theorem mayStart_operand_operator (level : Level) (t : Token) (pending : List Pending) :
    MayStart (operand level) (.operator level t :: pending) := by
  cases level with
  | multiplicative => trivial
  | additive =>
      intro earlier token htop
      cases htop
      decide

theorem Holds.chain {level : Level} {e : Expr} {operands : List Expr} {pending : List Pending}
    {s : State} (h : Holds (operand level) e operands pending s) (hbars : Bars level pending) :
    Holds (.chain level) e operands pending s :=
  ⟨h.1, (reduceFor_of_settle_operand h.2).trans (hbars.reduceFor_eq _)⟩

theorem Holds.link {level : Level} {t : Token} {left right : Expr} {operands : List Expr}
    {pending : List Pending} {s : State}
    (h : Holds (operand level) right (left :: operands) (.operator level t :: pending) s)
    (hbars : Bars level pending) :
    Holds (.chain level) (.binary left t right) operands pending s := by
  refine ⟨h.1, (reduceFor_of_settle_operand h.2).trans ?_⟩
  have happlies : appliesBefore level level = true := by cases level <;> rfl
  rw [reduceFor, if_pos happlies, apply, Option.bind_some, hbars.reduceFor_eq]

theorem Holds.step_operator {level : Level} {t : Token} {e : Expr} {operands : List Expr}
    {pending : List Pending} {s : State} (h : Holds (.chain level) e operands pending s)
    (ht : level.IsOperator t) :
    step s t = some ⟨e :: operands, .operator level t :: pending, true⟩ := by
  obtain ⟨hneeds, hsettle⟩ := h
  have hreduce : reduceFor level s.operands s.pending = some (e :: operands, pending) := hsettle
  rw [step, hneeds, if_neg (by decide), takeOperator, levelOf?_eq_some_iff.mpr ht]
  simp only [hreduce, Option.map_some]

theorem Holds.reduceAll_eq {e : Expr} {operands : List Expr} {pending : List Pending} {s : State}
    (h : Holds (.chain .additive) e operands pending s) :
    reduceAll s.operands s.pending = some (e :: operands, pending) := by
  rw [Precedence.reduceAll_eq]
  exact h.2

theorem Holds.step_rightParen {t : Token} {inner : Expr} {operands : List Expr}
    {pending : List Pending} {s : State} (h : Holds (.chain .additive) inner operands pending s)
    (ht : t.kind = .rightParen) :
    step s t =
      match pending with
      | .parenthesis opening :: pending =>
        some ⟨.group opening inner t :: operands, pending, false⟩
      | _ => none := by
  have hlevel : levelOf? t = none := levelOf?_eq_none (not_isOperator_of_kind (by simp [ht]))
  rw [step, h.1, if_neg (by decide), takeOperator, hlevel]
  simp only [if_pos ht, h.reduceAll_eq]
  cases pending with
  | nil => rfl
  | cons top pending => cases top <;> rfl

theorem Holds.step_other {t : Token} {ts : List Token} {e : Expr} {operands : List Expr}
    {pending : List Pending} {s : State} (h : Holds (.chain .additive) e operands pending s)
    (hstop : NoOperatorAhead .additive (t :: ts)) (ht : t.kind ≠ .rightParen) :
    step s t = none := by
  have hlevel : levelOf? t = none := by
    obtain ⟨hproduct, hsum⟩ := hstop t rfl
    refine levelOf?_eq_none ?_
    rintro (_ | _)
    · exact hsum rfl
    · exact hproduct
  rw [step, h.1, if_neg (by decide), takeOperator, hlevel]
  simp only [if_neg ht]

theorem Holds.result?_of_open {opening : Token} {inner : Expr} {operands : List Expr}
    {pending : List Pending} {s : State}
    (h : Holds (.chain .additive) inner operands (.parenthesis opening :: pending) s) :
    s.result? = none := by
  rw [State.result?, h.1, if_neg (by decide), h.reduceAll_eq]
  cases operands with
  | nil => rfl
  | cons e operands => rfl

theorem Holds.result?_of_done {e : Expr} {s : State} (h : Holds (.chain .additive) e [] [] s) :
    s.result? = some e := by
  rw [State.result?, h.1, if_neg (by decide), h.reduceAll_eq]

/-! ## Following the reading functions -/

theorem starts_operand {level : Level} {operands : List Expr} {pending : List Pending} {s : State}
    (h : Starts (.chain level) operands pending s) : Starts (operand level) operands pending s := by
  cases level with
  | additive => exact h
  | multiplicative => exact h

theorem followsAt_chain {level : Level} {c : Cursor} (hfirst : FollowsAt (operand level) c)
    (hlinks : ∀ left d, d.unread.length ≤ c.unread.length → FollowsAt (.links level left) d) :
    FollowsAt (.chain level) c := by
  intro hsign operands pending s hbars hstart
  have hoperand :=
    hfirst hsign operands pending s (Bars.mayStart_operand hbars) (starts_operand hstart)
  rw [read_chain]
  cases hread : (operand level).read c with
  | error e d =>
      rw [hread] at hoperand
      exact hoperand
  | ok first d =>
      rw [hread] at hoperand
      obtain ⟨s', hholds, houtcome⟩ := hoperand
      rw [houtcome, Reply.andThen_ok]
      exact hlinks first d (length_unread_read_le hread) (not_mem_of_read hread hsign) operands
        pending s' hbars (hholds.chain hbars)

theorem followsAt_stop {level : Level} {left : Expr} {c : Cursor}
    (hread : (Category.links level left).read c = .ok left c) : FollowsAt (.links level left) c := by
  intro _ operands pending s _ hstart
  rw [hread]
  exact ⟨s, hstart, rfl⟩

theorem followsAt_link {level : Level} {t : Token} {i : Nat} {ts : List Token} {left : Expr}
    (ht : level.IsOperator t) (hright : FollowsAt (operand level) ⟨i + 1, ts⟩)
    (hlinks : ∀ right d, d.unread.length ≤ ts.length →
      FollowsAt (.links level (.binary left t right)) d) :
    FollowsAt (.links level left) ⟨i, t :: ts⟩ := by
  intro hsign operands pending s hbars hstart
  have hlater : Token.integralSign ∉ ts := fun hmem => hsign (List.mem_cons_of_mem t hmem)
  have hstep : step s t = some ⟨left :: operands, .operator level t :: pending, true⟩ :=
    Holds.step_operator hstart ht
  have hstart' : Starts (.chain level) (left :: operands) (.operator level t :: pending)
      ⟨left :: operands, .operator level t :: pending, true⟩ := rfl
  have hoperand := hright hlater (left :: operands) (.operator level t :: pending) _
    (mayStart_operand_operator level t pending) (starts_operand hstart')
  rw [read_links_of_isOperator ht, finish_cons, hstep, Option.bind_some]
  cases hread : (operand level).read ⟨i + 1, ts⟩ with
  | error e d =>
      rw [hread] at hoperand
      exact hoperand
  | ok right d =>
      rw [hread] at hoperand
      obtain ⟨s', hholds, houtcome⟩ := hoperand
      have hsame : finish ts ⟨left :: operands, .operator level t :: pending, true⟩ =
          finish d.unread s' := houtcome
      rw [hsame, Reply.andThen_ok]
      exact hlinks right d (length_unread_read_le hread) (not_mem_of_read hread hlater) operands
        pending s' hbars (hholds.link hbars)

theorem Holds.follows_closing {opening : Token} {inner : Expr} {operands : List Expr}
    {pending : List Pending} {s : State} {d : Cursor}
    (h : Holds (.chain .additive) inner operands (.parenthesis opening :: pending) s)
    (hstop : NoOperatorAhead .additive d.unread) (e : ParseError) :
    Follows .primary operands pending (finish d.unread s)
      ((expect .rightParen e d).1.andThen fun closing d' =>
        .ok (.group opening inner closing) d') := by
  obtain ⟨i, ts⟩ := d
  cases ts with
  | nil =>
      rw [val_expect_nil, finish_nil]
      exact h.result?_of_open
  | cons t ts =>
      rw [finish_cons]
      by_cases ht : t.kind = .rightParen
      · rw [val_expect_of_kind ht, Reply.andThen_ok, h.step_rightParen ht, Option.bind_some]
        exact ⟨_, ⟨rfl, rfl⟩, rfl⟩
      · rw [val_expect_of_ne ht, h.step_other hstop ht]
        rfl

theorem followsAt_group {t : Token} {i : Nat} {ts : List Token} (ht : t.kind = .leftParen)
    (hinner : FollowsAt (.chain .additive) ⟨i + 1, ts⟩) : FollowsAt .primary ⟨i, t :: ts⟩ := by
  rintro hsign operands pending s - rfl
  have hlater : Token.integralSign ∉ ts := fun hmem => hsign (List.mem_cons_of_mem t hmem)
  have hstep : step ⟨operands, pending, true⟩ t =
      some ⟨operands, .parenthesis t :: pending, true⟩ := by
    simp [step, takeOperand, ht]
  have hbars : Bars .additive (.parenthesis t :: pending) := by
    intro earlier token htop
    cases htop
  have hchain := hinner hlater operands (.parenthesis t :: pending) _ hbars rfl
  rw [Category.read, val_primary_of_leftParen ht, finish_cons, hstep, Option.bind_some]
  have hread : (Category.chain .additive).read ⟨i + 1, ts⟩ = (binary .additive ⟨i + 1, ts⟩).1 := rfl
  cases hreply : (binary .additive ⟨i + 1, ts⟩).1 with
  | error e d =>
      rw [hread, hreply] at hchain
      exact hchain
  | ok inner d =>
      rw [hread, hreply] at hchain
      obtain ⟨s', hholds, houtcome⟩ := hchain
      have hsame : finish ts ⟨operands, .parenthesis t :: pending, true⟩ = finish d.unread s' :=
        houtcome
      rw [hsame, Reply.andThen_ok]
      exact hholds.follows_closing (derivesUpTo_of_read hreply).2 _

theorem takeOperand_other {t : Token} (hnumber : t.kind ≠ .number) (hletter : t.kind ≠ .letter)
    (hparen : t.kind ≠ .leftParen) (s : State) : takeOperand s t = none := by
  unfold takeOperand
  split
  next hkind => exact absurd hkind hnumber
  next hkind => exact absurd hkind hletter
  next hkind => exact absurd hkind hparen
  next => rfl

theorem followsAt_other {t : Token} {i : Nat} {ts : List Token} (hnumber : t.kind ≠ .number)
    (hletter : t.kind ≠ .letter) (hparen : t.kind ≠ .leftParen) :
    FollowsAt .primary ⟨i, t :: ts⟩ := by
  rintro hsign operands pending s - rfl
  have ht : t ≠ .integralSign := by
    rintro rfl
    exact hsign List.mem_cons_self
  have hstep : step ⟨operands, pending, true⟩ t = none := takeOperand_other hnumber hletter hparen _
  rw [Category.read, val_primary_of_other hnumber hletter hparen, val_integral_of_ne ht,
    finish_cons, hstep]
  rfl

theorem operand_ne_integral (level : Level) : operand level ≠ .integral := by
  cases level <;> simp [operand]

/-- The machine follows the reading of chains and primary expressions. -/
theorem followsAt {category : Category} (h : category ≠ .integral) (c : Cursor) :
    FollowsAt category c := by
  have hfollows : (∀ category c, category ≠ .integral → FollowsAt category c) ∧
      ∀ _ : Cursor, True := by
    apply reading_induction
    case chain =>
      intro level c hfirst hlinks _
      exact followsAt_chain (hfirst (operand_ne_integral level)) fun left d hle =>
        hlinks left d hle (by simp)
    case linksEnd => exact fun level left i _ => followsAt_stop (read_links_nil level left i)
    case linksStop =>
      exact fun level left i t ts ht _ =>
        followsAt_stop (read_links_of_not_isOperator ht left i ts)
    case link =>
      intro level left i t ts ht hright hlinks _
      exact followsAt_link ht (hright (operand_ne_integral level)) fun right d hle =>
        hlinks right d hle (by simp)
    case primaryEnd =>
      rintro i - - operands pending s - rfl
      rw [Category.read, val_primary_nil]
      rfl
    case number =>
      rintro i t ts ht - - operands pending s - rfl
      rw [Category.read, val_primary_of_number ht, finish_cons]
      exact ⟨⟨.number t.text :: operands, pending, false⟩, ⟨rfl, rfl⟩,
        by simp [step, takeOperand, ht]⟩
    case letter =>
      rintro i t ts ht - - operands pending s - rfl
      rw [Category.read, val_primary_of_letter ht, finish_cons]
      exact ⟨⟨.var t.text :: operands, pending, false⟩, ⟨rfl, rfl⟩,
        by simp [step, takeOperand, ht]⟩
    case group => exact fun i t ts ht hinner _ => followsAt_group ht (hinner (by simp))
    case other =>
      exact fun i t ts hnumber hletter hparen _ _ => followsAt_other hnumber hletter hparen
    all_goals
      intros
      trivial
  exact hfollows.1 category c h

/-! ## Whole token lists -/

theorem parse_eq_of_read_ok {tokens : List Token} {e : Expr} {c : Cursor}
    (h : (Category.chain .additive).read (.start tokens) = .ok e c) :
    parse tokens =
      match c.unread with
      | [] => .ok e
      | t :: _ =>
        if t.kind = .rightParen then .error (.unmatchedParenthesis c.index)
        else .error c.unexpected := by
  have hread : (Phrase.binary .additive).read (.start tokens) = .ok e c := h
  obtain ⟨i, ts⟩ := c
  cases ts with
  | nil => simp only [parse, hread]
  | cons t ts => simp only [parse, hread]

theorem run_eq_toOption {tokens : List Token} (h : Token.integralSign ∉ tokens) :
    run tokens = (parse tokens).toOption := by
  have hbars : Bars .additive [] := by simp [Bars]
  have hcategory : Category.chain .additive ≠ .integral := by simp
  have hfollows := followsAt hcategory (.start tokens) h [] [] State.initial hbars rfl
  cases hread : (Category.chain .additive).read (.start tokens) with
  | error e c =>
      rw [hread] at hfollows
      have hparse : parse tokens = .error e := by
        have hphrase : (Phrase.binary .additive).read (.start tokens) = .error e c := hread
        rw [parse, hphrase]
      rw [hparse]
      exact hfollows
  | ok e c =>
      rw [hread] at hfollows
      obtain ⟨s, hholds, houtcome⟩ := hfollows
      have hrun : run tokens = finish c.unread s := houtcome
      rw [hrun, parse_eq_of_read_ok hread]
      cases hunread : c.unread with
      | nil =>
          rw [finish_nil]
          exact hholds.result?_of_done
      | cons t ts =>
          rw [finish_cons]
          by_cases ht : t.kind = .rightParen
          · simp only [if_pos ht, hholds.step_rightParen ht]
            rfl
          · have hstop : NoOperatorAhead .additive c.unread := (derivesUpTo_of_read hread).2
            rw [hunread] at hstop
            simp only [if_neg ht, hholds.step_other hstop ht]
            rfl

/-- Without integrals, reading a whole token list gives an expression exactly where
the two-stack machine gives it. -/
theorem parse_eq_ok_iff_run {tokens : List Token} (h : Token.integralSign ∉ tokens) (e : Expr) :
    parse tokens = .ok e ↔ run tokens = some e := by
  rw [run_eq_toOption h]
  cases parse tokens <;> simp [Except.toOption]

/-- A difference of a remainder whose left operand is a product with a group. -/
def remainders : List Token :=
  [⟨.letter, "a"⟩, ⟨.minus, "-"⟩, ⟨.letter, "b"⟩, ⟨.times, "*"⟩, ⟨.leftParen, "("⟩,
    ⟨.number, "2"⟩, ⟨.plus, "+"⟩, ⟨.letter, "d"⟩, ⟨.rightParen, ")"⟩, .modulo, ⟨.letter, "x"⟩,
    ⟨.minus, "-"⟩, ⟨.number, "1"⟩]

theorem run_remainders :
    Token.integralSign ∉ remainders ∧
      run remainders = some (.binary (.binary (.var "a") ⟨.minus, "-"⟩
        (.binary (.binary (.var "b") ⟨.times, "*"⟩
          (.group ⟨.leftParen, "("⟩ (.binary (.number "2") ⟨.plus, "+"⟩ (.var "d"))
            ⟨.rightParen, ")"⟩)) .modulo (.var "x"))) ⟨.minus, "-"⟩ (.number "1")) :=
  ⟨by decide, (parse_eq_ok_iff_run (by decide) _).mp (by decide +kernel)⟩

end Precedence
end MathMarkup
