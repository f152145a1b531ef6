import MathMarkup.Proofs.Grammar.Blame
import MathMarkup.Proofs.Reading.Sessions

/-!
# Reading is local

A reading depends on nothing but its window.  The differential alone looks beyond
the next token, which is why a failure may depend on one token more than a success.
-/

namespace MathMarkup

/-- Whether two lists hold the same tokens, or none, at their first `n` places. -/
def AgreeFor (n : Nat) (ts us : List Token) : Prop :=
  ∀ k < n, ts[k]? = us[k]?

instance (n : Nat) (ts us : List Token) : Decidable (AgreeFor n ts us) :=
  inferInstanceAs (Decidable (∀ k < n, ts[k]? = us[k]?))

/-- The same error when `n` more tokens stand before. -/
def ParseError.shift (n : Nat) : ParseError → ParseError
  | unexpectedToken index found => unexpectedToken (n + index) found
  | unmatchedParenthesis index => unmatchedParenthesis (n + index)
  | malformedIntegral index => malformedIntegral (n + index)
  | unterminatedIntegral index => unterminatedIntegral (n + index)

def shiftOutcome (n : Nat) : Except ParseError Expr → Except ParseError Expr
  | .ok e => .ok e
  | .error e => .error (e.shift n)

/-- The number of tokens that reading a phrase may depend on. -/
def Session.window (s : Session) (phrase : Phrase) : Nat :=
  match s.read phrase with
  | (.ok _, s') => s'.index - s.index + 1
  | (.error _, s') => s'.index - s.index + 2

open Grammar
open Parsing hiding operand

/-! ## Agreement of token lists -/

namespace AgreeFor

variable {m n : Nat} {ts us : List Token}

theorem symm (h : AgreeFor n ts us) : AgreeFor n us ts :=
  fun k hk => (h k hk).symm

theorem refl (n : Nat) (ts : List Token) : AgreeFor n ts ts :=
  fun _ _ => rfl

theorem mono (h : AgreeFor n ts us) (hle : m ≤ n) : AgreeFor m ts us :=
  fun k hk => h k (Nat.lt_of_lt_of_le hk hle)

theorem drop (h : AgreeFor (m + n) ts us) : AgreeFor n (ts.drop m) (us.drop m) := by
  intro k hk
  rw [List.getElem?_drop, List.getElem?_drop]
  exact h (m + k) (Nat.add_lt_add_left hk m)

theorem take_eq (h : AgreeFor n ts us) : ts.take n = us.take n := by
  apply List.ext_getElem?
  intro k
  rw [List.getElem?_take, List.getElem?_take]
  split
  next hk => exact h k hk
  next => rfl

theorem head?_eq (h : AgreeFor (n + 1) ts us) : ts.head? = us.head? := by
  rw [List.head?_eq_getElem?, List.head?_eq_getElem?]
  exact h 0 (Nat.succ_pos n)

theorem eq_nil (h : AgreeFor (n + 1) [] us) : us = [] :=
  List.head?_eq_none_iff.mp h.head?_eq.symm

theorem exists_eq_cons {t : Token} (h : AgreeFor (n + 1) (t :: ts) us) : ∃ us', us = t :: us' :=
  List.head?_eq_some_iff.mp h.head?_eq.symm

theorem tail {t t' : Token} (h : AgreeFor (n + 1) (t :: ts) (t' :: us)) : AgreeFor n ts us :=
  fun k hk => h (k + 1) (Nat.succ_lt_succ hk)

end AgreeFor

/-! ## Differentials -/

theorem differential?_eq_some_of_agreeFor {integrand : Expr} {ts us : List Token} {name : String}
    {n : Nat} (h : differential? integrand ts = some (name, n)) (hagree : AgreeFor (n + 1) ts us) :
    differential? integrand us = some (name, n) := by
  obtain ⟨hn, hends⟩ := differential?_eq_some_iff.mp h
  obtain ⟨consumed, hts, hends⟩ := hends.exists_consumed
  have htake := (hagree.mono (Nat.le_succ n)).take_eq
  have hcancel : ts.take n ++ ts.drop n = consumed ++ ts.drop n := by
    rw [← hts, List.take_append_drop]
  obtain rfl := List.append_cancel_right hcancel
  have hends := hends (us.drop n) (endsAlike_of_head?_eq (AgreeFor.drop hagree).head?_eq)
  rw [htake, List.take_append_drop] at hends
  have hlength := congrArg List.length htake
  rw [List.length_take, List.length_take, Nat.min_eq_left hn] at hlength
  exact differential?_eq_some_iff.mpr ⟨by omega, hends⟩

theorem startsWithDifferential_of_agreeFor {integrand : Expr} {ts us : List Token}
    (h : StartsWithDifferential integrand us) (hagree : AgreeFor 2 ts us) :
    StartsWithDifferential integrand ts := by
  rcases h with ⟨name, after, rfl⟩ | ⟨name, after, rfl⟩ | ⟨hvar, hends⟩
  · obtain ⟨ts, rfl⟩ := hagree.symm.exists_eq_cons
    obtain ⟨ts, rfl⟩ := hagree.symm.tail.exists_eq_cons
    exact Or.inl ⟨name, ts, rfl⟩
  · obtain ⟨ts, rfl⟩ := hagree.symm.exists_eq_cons
    obtain ⟨ts, rfl⟩ := hagree.symm.tail.exists_eq_cons
    exact Or.inr (Or.inl ⟨name, ts, rfl⟩)
  · exact Or.inr (Or.inr ⟨hvar, (endsAlike_of_head?_eq hagree.head?_eq.symm).1 hends⟩)

theorem differential?_eq_none_of_agreeFor {integrand : Expr} {ts us : List Token}
    (h : differential? integrand ts = none) (hagree : AgreeFor 2 ts us) :
    differential? integrand us = none := by
  cases hus : differential? integrand us with
  | none => rfl
  | some found =>
      have hstarts := (endsIntegrand_of_differential? hus).startsWithDifferential
      exact absurd (startsWithDifferential_of_agreeFor hstarts hagree) (not_startsWithDifferential h)

/-! ## Windows of readings -/

theorem ParseError.shift_shift (m n : Nat) (e : ParseError) :
    (e.shift n).shift m = e.shift (m + n) := by
  cases e <;> simp only [shift, Nat.add_assoc]

/-- Whether reading is local at a cursor when it starts `n` tokens further on: from any
cursor with the same tokens in the window it stops as many tokens further on, with the
same value or error. -/
inductive LocalFrom {α : Type} (n : Nat) (reading : Cursor → Reply α) (c : Cursor) : Prop
  | ok (value : α) (m : Nat) (hle : n ≤ m)
      (h : ∀ c', AgreeFor (m + 1) c.unread c'.unread → reading c' = .ok value (c'.skip m))
  | error (e : ParseError) (m : Nat) (hle : n ≤ m)
      (h : ∀ c', AgreeFor (m + 2) c.unread c'.unread →
        reading c' = .error (e.shift c'.index) (c'.skip m))

namespace LocalFrom

variable {α β : Type} {n : Nat} {c : Cursor}

theorem of_skip {reading : Cursor → Reply α} (h : LocalFrom 0 reading (c.skip n)) :
    LocalFrom n (fun c' => reading (c'.skip n)) c := by
  cases h with
  | ok value m _ h =>
      refine .ok value (n + m) (Nat.le_add_right n m) fun c' hagree => ?_
      have hlater : AgreeFor (m + 1) (c.skip n).unread (c'.skip n).unread := hagree.drop (m := n)
      rw [h (c'.skip n) hlater, Cursor.skip_skip]
  | error e m _ h =>
      refine .error (e.shift n) (n + m) (Nat.le_add_right n m) fun c' hagree => ?_
      have hlater : AgreeFor (m + 2) (c.skip n).unread (c'.skip n).unread := hagree.drop (m := n)
      rw [h (c'.skip n) hlater, Cursor.skip_skip, ParseError.shift_shift]
      rfl

theorem weaken {m : Nat} {reading : Cursor → Reply α} (h : LocalFrom n reading c) (hle : m ≤ n) :
    LocalFrom m reading c := by
  cases h with
  | ok value k hle' h => exact .ok value k (Nat.le_trans hle hle') h
  | error e k hle' h => exact .error e k (Nat.le_trans hle hle') h

theorem congr {reading reading' : Cursor → Reply α} (h : LocalFrom n reading c)
    (heq : ∀ c', AgreeFor 1 c.unread c'.unread → reading' c' = reading c') :
    LocalFrom n reading' c := by
  cases h with
  | ok value m hle h =>
      refine .ok value m hle fun c' hagree => ?_
      rw [heq c' (hagree.mono (Nat.le_add_left 1 m)), h c' hagree]
  | error e m hle h =>
      refine .error e m hle fun c' hagree => ?_
      rw [heq c' (hagree.mono (by omega)), h c' hagree]

theorem congr_nil {reading reading' : Cursor → Reply α} {i : Nat}
    (h : LocalFrom n reading ⟨i, []⟩) (heq : ∀ j, reading' ⟨j, []⟩ = reading ⟨j, []⟩) :
    LocalFrom n reading' ⟨i, []⟩ := by
  refine h.congr fun c' hagree => ?_
  obtain ⟨j, us⟩ := c'
  obtain rfl : us = [] := hagree.eq_nil
  exact heq j

theorem congr_cons {reading reading' : Cursor → Reply α} {i : Nat} {t : Token} {ts : List Token}
    (h : LocalFrom n reading ⟨i, t :: ts⟩)
    (heq : ∀ j us, reading' ⟨j, t :: us⟩ = reading ⟨j, t :: us⟩) :
    LocalFrom n reading' ⟨i, t :: ts⟩ := by
  refine h.congr fun c' hagree => ?_
  obtain ⟨j, us⟩ := c'
  obtain ⟨us, rfl⟩ := hagree.exists_eq_cons
  exact heq j us

theorem pure (value : α) (n : Nat) (c : Cursor) :
    LocalFrom n (fun c' => .ok value (c'.skip n)) c :=
  .ok value n (Nat.le_refl n) fun _ _ => rfl

theorem fail (e : ParseError) (n : Nat) (c : Cursor) :
    LocalFrom n (fun c' => (.error (e.shift c'.index) (c'.skip n) : Reply α)) c :=
  .error e n (Nat.le_refl n) fun _ _ => rfl

theorem andThen {first : Cursor → Reply α} {next : Cursor → α → Cursor → Reply β}
    (hfirst : LocalFrom n first c)
    (hnext : ∀ value m, n ≤ m → LocalFrom m (fun c' => next c' value (c'.skip m)) c) :
    LocalFrom n (fun c' => (first c').andThen (next c')) c := by
  cases hfirst with
  | error e m hle h =>
      refine .error e m hle fun c' hagree => ?_
      rw [h c' hagree, Reply.andThen_error]
  | ok value m hle h =>
      cases hnext value m hle with
      | ok result k hle' h' =>
          refine .ok result k (Nat.le_trans hle hle') fun c' hagree => ?_
          rw [h c' (hagree.mono (by omega)), Reply.andThen_ok, h' c' hagree]
      | error e k hle' h' =>
          refine .error e k (Nat.le_trans hle hle') fun c' hagree => ?_
          rw [h c' (hagree.mono (by omega)), Reply.andThen_ok, h' c' hagree]

theorem of_cons {i : Nat} {t : Token} {ts : List Token} {reading : Cursor → Reply β}
    {first : Cursor → Reply α} {next : Nat → α → Cursor → Reply β}
    (hfirst : LocalFrom 0 first ⟨i + 1, ts⟩)
    (hreading : ∀ j us, reading ⟨j, t :: us⟩ = (first ⟨j + 1, us⟩).andThen (next j))
    (hnext : ∀ value m, 1 ≤ m →
      LocalFrom m (fun c' => next c'.index value (c'.skip m)) ⟨i, t :: ts⟩) :
    LocalFrom 0 reading ⟨i, t :: ts⟩ := by
  have hlater : LocalFrom 1 (fun c' => (first (c'.skip 1)).andThen (next c'.index)) ⟨i, t :: ts⟩ :=
    .andThen (.of_skip hfirst) hnext
  exact (hlater.weaken (Nat.zero_le 1)).congr_cons hreading

end LocalFrom

namespace Grammar

theorem length_skip_cons_le (i : Nat) (t : Token) (ts : List Token) {n : Nat} (hn : 1 ≤ n) :
    (Cursor.skip ⟨i, t :: ts⟩ n).unread.length ≤ ts.length := by
  simp only [Cursor.skip, List.length_drop, List.length_cons]
  omega

def LocalAt (category : Category) (c : Cursor) : Prop :=
  LocalFrom 0 category.read c

def BoundsLocalAt (c : Cursor) : Prop :=
  LocalFrom 0 (fun c' => (bounds c').1) c

theorem localFrom_expect (kind : TokenKind) (e : ParseError) (n : Nat) (c : Cursor) :
    LocalFrom n (fun c' => (expect kind (e.shift c'.index) (c'.skip n)).1) c := by
  cases hts : (c.skip n).unread with
  | nil =>
      refine .error e n (Nat.le_refl n) fun c' hagree => ?_
      have hlater : AgreeFor 2 (c.skip n).unread (c'.skip n).unread := hagree.drop
      rw [hts] at hlater
      have hskip : c'.skip n = ⟨c'.index + n, []⟩ := congrArg (Cursor.mk _) hlater.eq_nil
      rw [hskip, val_expect_nil]
  | cons t ts =>
      have hcons (c' : Cursor) (hlater : AgreeFor 1 (c.skip n).unread (c'.skip n).unread) :
          ∃ us, c'.skip n = ⟨c'.index + n, t :: us⟩ := by
        rw [hts] at hlater
        obtain ⟨us, hus⟩ := hlater.exists_eq_cons
        exact ⟨us, congrArg (Cursor.mk _) hus⟩
      by_cases hkind : t.kind = kind
      · refine .ok t (n + 1) (Nat.le_succ n) fun c' hagree => ?_
        obtain ⟨us, hskip⟩ := hcons c' (hagree.mono (Nat.le_succ _)).drop
        rw [← Cursor.skip_skip, hskip, val_expect_of_kind hkind]
        rfl
      · refine .error e n (Nat.le_refl n) fun c' hagree => ?_
        obtain ⟨us, hskip⟩ := hcons c' (hagree.mono (Nat.le_succ _)).drop
        rw [hskip, val_expect_of_ne hkind]

theorem localFrom_differential (integrand : Expr) (e : ParseError) (n : Nat) (c : Cursor) :
    LocalFrom n (fun c' => (differential integrand (e.shift c'.index) (c'.skip n)).1) c := by
  cases hdiff : differential? integrand (c.skip n).unread with
  | none =>
      refine .error e n (Nat.le_refl n) fun c' hagree => ?_
      have hlater : AgreeFor 2 (c.skip n).unread (c'.skip n).unread := hagree.drop
      exact val_differential_of_none (differential?_eq_none_of_agreeFor hdiff hlater) _
  | some found =>
      obtain ⟨name, m⟩ := found
      refine .ok name (n + m) (Nat.le_add_right n m) fun c' hagree => ?_
      have hlater : AgreeFor (m + 1) (c.skip n).unread (c'.skip n).unread := hagree.drop (m := n)
      rw [← Cursor.skip_skip]
      exact val_differential_of_some (differential?_eq_some_of_agreeFor hdiff hlater) _

theorem localAt_chain {level : Level} {c : Cursor} (hfirst : LocalAt (operand level) c)
    (hlinks : ∀ left d, d.unread.length ≤ c.unread.length → LocalAt (.links level left) d) :
    LocalAt (.chain level) c := by
  refine LocalFrom.congr ?_ fun c' _ => read_chain level c'
  refine LocalFrom.andThen hfirst fun first m _ => ?_
  exact LocalFrom.of_skip (hlinks first (c.skip m) (by simp [Cursor.skip]))

theorem localAt_link {level : Level} {t : Token} {i : Nat} {ts : List Token} {left : Expr}
    (ht : level.IsOperator t) (hright : LocalAt (operand level) ⟨i + 1, ts⟩)
    (hlinks : ∀ right d, d.unread.length ≤ ts.length →
      LocalAt (.links level (.binary left t right)) d) :
    LocalAt (.links level left) ⟨i, t :: ts⟩ := by
  refine LocalFrom.of_cons hright (read_links_of_isOperator ht left) fun right m hm => ?_
  exact LocalFrom.of_skip (hlinks right _ (length_skip_cons_le i t ts hm))

theorem localAt_group {t : Token} {i : Nat} {ts : List Token} (ht : t.kind = .leftParen)
    (hinner : LocalAt (.chain .additive) ⟨i + 1, ts⟩) : LocalAt .primary ⟨i, t :: ts⟩ := by
  refine LocalFrom.of_cons hinner (val_primary_of_leftParen ht) fun inner m _ => ?_
  refine LocalFrom.andThen (localFrom_expect .rightParen (.unmatchedParenthesis 0) m _) ?_
  exact fun closing k _ => LocalFrom.pure _ k _

theorem localAt_integral {i : Nat} {ts : List Token} (hbounds : BoundsLocalAt ⟨i + 1, ts⟩)
    (hintegrand : ∀ d, d.unread.length ≤ ts.length → LocalAt (.chain .additive) d) :
    LocalAt .integral ⟨i, .integralSign :: ts⟩ := by
  refine LocalFrom.of_cons hbounds val_integral_sign fun between m hm => ?_
  have hchain := hintegrand _ (length_skip_cons_le i .integralSign ts hm)
  refine LocalFrom.andThen (LocalFrom.of_skip hchain) fun integrand k _ => ?_
  refine LocalFrom.andThen (localFrom_differential integrand (.unterminatedIntegral 0) k _) ?_
  exact fun name k' _ => LocalFrom.pure _ k' _

theorem boundsLocalAt_marker {t : Token} {opposite : TokenKind} {i : Nat} {ts : List Token}
    (ht : t.kind.oppositeMarker? = some opposite)
    (hfirst : LocalAt (.chain .additive) ⟨i + 1, ts⟩)
    (hsecond : ∀ d, d.unread.length ≤ ts.length → LocalAt (.chain .additive) d) :
    BoundsLocalAt ⟨i, t :: ts⟩ := by
  refine LocalFrom.of_cons hfirst (val_bounds_of_marker ht) fun first m hm => ?_
  refine LocalFrom.andThen (localFrom_expect opposite (.malformedIntegral 0) m _) ?_
  intro marker k hk
  have hchain := hsecond _ (length_skip_cons_le i t ts (Nat.le_trans hm hk))
  refine LocalFrom.andThen (LocalFrom.of_skip hchain) fun second k' _ => ?_
  exact LocalFrom.pure _ k' _

theorem localAt (category : Category) (c : Cursor) : LocalAt category c := by
  have hlocal : (∀ category c, LocalAt category c) ∧ ∀ c, BoundsLocalAt c := by
    apply reading_induction
    case chain => exact fun level c => localAt_chain
    case linksEnd =>
      exact fun level left i => (LocalFrom.pure left 0 _).congr_nil (read_links_nil level left)
    case linksStop =>
      exact fun level left i t ts ht =>
        (LocalFrom.pure left 0 _).congr_cons (read_links_of_not_isOperator ht left)
    case link => exact fun level left i t ts => localAt_link
    case primaryEnd =>
      exact fun i => (LocalFrom.fail (.unexpectedToken 0 none) 0 _).congr_nil val_primary_nil
    case number =>
      exact fun i t ts ht =>
        ((LocalFrom.pure _ 1 _).weaken (Nat.zero_le 1)).congr_cons (val_primary_of_number ht)
    case letter =>
      exact fun i t ts ht =>
        ((LocalFrom.pure _ 1 _).weaken (Nat.zero_le 1)).congr_cons (val_primary_of_letter ht)
    case group => exact fun i t ts => localAt_group
    case other =>
      exact fun i t ts hnumber hletter hparen hintegral =>
        LocalFrom.congr_cons hintegral (val_primary_of_other hnumber hletter hparen)
    case integralEnd =>
      exact fun i => (LocalFrom.fail (.unexpectedToken 0 none) 0 _).congr_nil val_integral_nil
    case integral => exact fun i ts => localAt_integral
    case noIntegral =>
      exact fun i t ts ht =>
        (LocalFrom.fail (.unexpectedToken 0 (some t.text)) 0 _).congr_cons (val_integral_of_ne ht)
    case boundsEnd =>
      exact fun i => (LocalFrom.pure (none, none) 0 _).congr_nil val_bounds_nil
    case noBounds =>
      exact fun i t ts ht =>
        (LocalFrom.pure (none, none) 0 _).congr_cons (val_bounds_of_not_marker ht)
    case someBounds => exact fun i t ts opposite => boundsLocalAt_marker
  exact hlocal.1 category c

end Grammar

/-! ## Phrases and sessions -/

theorem shiftOutcome_zero (outcome : Except ParseError Expr) :
    shiftOutcome 0 outcome = outcome := by
  cases outcome with
  | ok e => rfl
  | error e => cases e <;> simp only [shiftOutcome, ParseError.shift, Nat.zero_add]

theorem Phrase.localFrom_read (phrase : Phrase) (c : Cursor) : LocalFrom 0 phrase.read c :=
  (localAt phrase.category c).congr fun c' _ => phrase.read_eq c'

namespace Session

theorem exists_read_eq (s : Session) (phrase : Phrase) :
    ∃ outcome n, ∀ s' : Session,
      AgreeFor (s.window phrase) s.cursor.unread s'.cursor.unread →
        s'.read phrase = (shiftOutcome s'.index outcome, ⟨s'.tokens, s'.index + n⟩) := by
  cases phrase.localFrom_read s.cursor with
  | ok e n _ h =>
      refine ⟨.ok e, n, fun s' hagree => ?_⟩
      have hread := read_of_read (h s.cursor (AgreeFor.refl _ _))
      have hwindow : s.window phrase = n + 1 := by
        rw [window, hread]
        exact congrArg (· + 1) (Nat.add_sub_cancel_left s.index n)
      rw [hwindow] at hagree
      exact read_of_read (h s'.cursor hagree)
  | error e n _ h =>
      refine ⟨.error e, n, fun s' hagree => ?_⟩
      have hread := read_of_read_error (h s.cursor (AgreeFor.refl _ _))
      have hwindow : s.window phrase = n + 2 := by
        rw [window, hread]
        exact congrArg (· + 2) (Nat.add_sub_cancel_left s.index n)
      rw [hwindow] at hagree
      exact read_of_read_error (h s'.cursor hagree)

/-- A reading depends on nothing but its window, wherever the window stands. -/
theorem read_local (phrase : Phrase) :
    (∀ s s' : Session, AgreeFor (s.window phrase) s.cursor.unread s'.cursor.unread →
      ∃ outcome n,
        s.read phrase = (shiftOutcome s.index outcome, ⟨s.tokens, s.index + n⟩) ∧
          s'.read phrase = (shiftOutcome s'.index outcome, ⟨s'.tokens, s'.index + n⟩)) ∧
      ∀ s : Session,
        s.read phrase =
          (shiftOutcome s.index ((start s.cursor.unread).read phrase).1,
            ⟨s.tokens, s.index + ((start s.cursor.unread).read phrase).2.index⟩) := by
  constructor
  · intro s s' hagree
    obtain ⟨outcome, n, h⟩ := exists_read_eq s phrase
    exact ⟨outcome, n, h s (AgreeFor.refl _ _), h s' hagree⟩
  · intro s
    obtain ⟨outcome, n, h⟩ := exists_read_eq s phrase
    have hfresh := h (start s.cursor.unread) (AgreeFor.refl _ _)
    rw [h s (AgreeFor.refl _ _), hfresh, start, shiftOutcome_zero, Nat.zero_add]

/-- An integral inside a parenthesis, with a thin space that no variable follows. -/
def strayThinSpace : Session :=
  ⟨[⟨.leftParen, "("⟩, .integralSign, ⟨.letter, "x"⟩, .thinSpace, ⟨.plus, "+"⟩, ⟨.letter, "y"⟩], 1⟩

def strayThinSpaceMoved : Session :=
  ⟨[.integralSign, ⟨.letter, "x"⟩, .thinSpace, ⟨.plus, "+"⟩, ⟨.rightParen, ")"⟩], 0⟩

theorem read_local_at_stray_thin_space :
    AgreeFor (strayThinSpace.window .primary) strayThinSpace.cursor.unread
        strayThinSpaceMoved.cursor.unread ∧
      ∃ outcome n,
        strayThinSpace.read .primary =
            (shiftOutcome 1 outcome, ⟨strayThinSpace.tokens, 1 + n⟩) ∧
          strayThinSpaceMoved.read .primary =
            (shiftOutcome 0 outcome, ⟨strayThinSpaceMoved.tokens, 0 + n⟩) := by
  have hagree : AgreeFor (strayThinSpace.window .primary) strayThinSpace.cursor.unread
      strayThinSpaceMoved.cursor.unread := by decide +kernel
  exact ⟨hagree, (read_local .primary).1 strayThinSpace strayThinSpaceMoved hagree⟩

end Session

end MathMarkup
