import MathMarkup.Proofs.Grammar.LookAhead

/-!
# Progress of reading

Reading stops at a place that is reached by passing over unread tokens, and a phrase
that is read takes at least one of them.
-/

namespace MathMarkup

namespace Cursor

/-- Whether passing over unread tokens of one cursor leads to another. -/
def Reaches (c d : Cursor) : Prop :=
  ∃ n ≤ c.unread.length, d = c.skip n

theorem skip_skip (c : Cursor) (m n : Nat) : (c.skip m).skip n = c.skip (m + n) := by
  simp [skip, Nat.add_assoc]

theorem reaches_refl (c : Cursor) : c.Reaches c :=
  ⟨0, Nat.zero_le _, rfl⟩

theorem Reaches.trans {c d e : Cursor} (h : c.Reaches d) (h' : d.Reaches e) : c.Reaches e := by
  obtain ⟨m, hm, rfl⟩ := h
  obtain ⟨n, hn, rfl⟩ := h'
  have hlength : (c.skip m).unread.length = c.unread.length - m := by simp [skip]
  refine ⟨m + n, by omega, skip_skip c m n⟩

theorem Reaches.length_le {c d : Cursor} (h : c.Reaches d) :
    d.unread.length ≤ c.unread.length := by
  obtain ⟨n, -, rfl⟩ := h
  simp [skip]

theorem Reaches.exists_consumed {c d : Cursor} (h : c.Reaches d) :
    ∃ consumed, c.unread = consumed ++ d.unread ∧ d.index = c.index + consumed.length := by
  obtain ⟨n, hn, rfl⟩ := h
  refine ⟨c.unread.take n, (List.take_append_drop n c.unread).symm, ?_⟩
  rw [List.length_take, Nat.min_eq_left hn]
  rfl

theorem Reaches.unread_eq_drop {c d : Cursor} {tokens : List Token} (h : c.Reaches d)
    (hc : c.unread = tokens.drop c.index) : d.unread = tokens.drop d.index := by
  obtain ⟨n, -, rfl⟩ := h
  rw [skip, hc, List.drop_drop]

theorem reaches_cons (i : Nat) (t : Token) (ts : List Token) :
    (⟨i, t :: ts⟩ : Cursor).Reaches ⟨i + 1, ts⟩ :=
  ⟨1, by simp, rfl⟩

end Cursor

theorem Reply.reaches_andThen {α β : Type} {c : Cursor} {reply : Reply α}
    {next : α → Cursor → Reply β} (h : c.Reaches reply.cursor)
    (hnext : ∀ value d, reply = .ok value d → d.Reaches (next value d).cursor) :
    c.Reaches (reply.andThen next).cursor := by
  cases reply with
  | ok value d => exact h.trans (hnext value d rfl)
  | error e d => exact h

namespace Grammar

open Parsing

/-! ## Where reading stops -/

theorem reaches_expect (kind : TokenKind) (e : ParseError) (c : Cursor) :
    c.Reaches (expect kind e c).1.cursor := by
  obtain ⟨i, ts⟩ := c
  cases ts with
  | nil => exact Cursor.reaches_refl _
  | cons t ts =>
      by_cases hkind : t.kind = kind
      · rw [val_expect_of_kind hkind]
        exact Cursor.reaches_cons i t ts
      · rw [val_expect_of_ne hkind]
        exact Cursor.reaches_refl _

theorem le_length_of_differential? {integrand : Expr} {ts : List Token} {name : String} {n : Nat}
    (h : differential? integrand ts = some (name, n)) : n ≤ ts.length := by
  unfold differential? at h
  split at h
  next =>
    obtain ⟨-, rfl⟩ := Prod.mk.inj (Option.some.inj h)
    simp
  next =>
    obtain ⟨-, rfl⟩ := Prod.mk.inj (Option.some.inj h)
    simp
  next => cases h
  next =>
    obtain ⟨-, rfl⟩ := Prod.mk.inj (Option.some.inj h)
    simp
  next =>
    split at h
    next =>
      obtain ⟨name', -, hfound⟩ := Option.map_eq_some_iff.mp h
      obtain ⟨-, rfl⟩ := Prod.mk.inj hfound
      exact Nat.zero_le _
    next => cases h

theorem differential?_eq_some_iff {integrand : Expr} {ts : List Token} {name : String} {n : Nat} :
    differential? integrand ts = some (name, n) ↔
      n ≤ ts.length ∧ EndsIntegrand integrand ts name (ts.drop n) := by
  constructor
  · intro h
    exact ⟨le_length_of_differential? h, endsIntegrand_of_differential? h⟩
  · rintro ⟨hn, hends⟩
    obtain ⟨m, hsome, hrest⟩ := differential?_of_endsIntegrand hends
    have hm := le_length_of_differential? hsome
    have hlength := congrArg List.length hrest
    rw [List.length_drop, List.length_drop] at hlength
    obtain rfl : m = n := by omega
    exact hsome

theorem reaches_differential (integrand : Expr) (e : ParseError) (c : Cursor) :
    c.Reaches (differential integrand e c).1.cursor := by
  cases hdiff : differential? integrand c.unread with
  | none =>
      rw [val_differential_of_none hdiff]
      exact Cursor.reaches_refl c
  | some found =>
      obtain ⟨name, n⟩ := found
      rw [val_differential_of_some hdiff]
      exact ⟨n, le_length_of_differential? hdiff, rfl⟩

/-- Reading stops at a place that is reached by passing over unread tokens. -/
theorem reaches_reading :
    (∀ (category : Category) (c : Cursor), c.Reaches (category.read c).cursor) ∧
      ∀ c : Cursor, c.Reaches (bounds c).1.cursor := by
  apply reading_induction
  case chain =>
    intro level c hfirst hlinks
    rw [read_chain]
    exact Reply.reaches_andThen hfirst fun first d hread =>
      hlinks first d (length_unread_read_le hread)
  case linksEnd =>
    intro level left i
    rw [read_links_nil]
    exact Cursor.reaches_refl _
  case linksStop =>
    intro level left i t ts ht
    rw [read_links_of_not_isOperator ht]
    exact Cursor.reaches_refl _
  case link =>
    intro level left i t ts ht hright hlinks
    rw [read_links_of_isOperator ht]
    refine (Cursor.reaches_cons i t ts).trans (Reply.reaches_andThen hright ?_)
    exact fun right d hread => hlinks right d (length_unread_read_le hread)
  case primaryEnd =>
    intro i
    rw [Category.read, val_primary_nil]
    exact Cursor.reaches_refl _
  case number =>
    intro i t ts ht
    rw [Category.read, val_primary_of_number ht]
    exact Cursor.reaches_cons i t ts
  case letter =>
    intro i t ts ht
    rw [Category.read, val_primary_of_letter ht]
    exact Cursor.reaches_cons i t ts
  case group =>
    intro i t ts ht hinner
    rw [Category.read, val_primary_of_leftParen ht]
    refine (Cursor.reaches_cons i t ts).trans (Reply.reaches_andThen hinner fun inner d _ => ?_)
    exact Reply.reaches_andThen (reaches_expect _ _ d) fun _ e _ => Cursor.reaches_refl e
  case other =>
    intro i t ts hnumber hletter hparen hintegral
    rw [Category.read, val_primary_of_other hnumber hletter hparen]
    exact hintegral
  case integralEnd =>
    intro i
    rw [Category.read, val_integral_nil]
    exact Cursor.reaches_refl _
  case integral =>
    intro i ts hbounds hintegrand
    rw [Category.read, val_integral_sign]
    refine (Cursor.reaches_cons i _ ts).trans
      (Reply.reaches_andThen hbounds fun between d hread => ?_)
    refine Reply.reaches_andThen (hintegrand d (Forward.length_unread_le hread)) ?_
    intro integrand e _
    exact Reply.reaches_andThen (reaches_differential integrand _ e) fun _ f _ =>
      Cursor.reaches_refl f
  case noIntegral =>
    intro i t ts ht
    rw [Category.read, val_integral_of_ne ht]
    exact Cursor.reaches_refl _
  case boundsEnd =>
    intro i
    rw [val_bounds_nil]
    exact Cursor.reaches_refl _
  case noBounds =>
    intro i t ts ht
    rw [val_bounds_of_not_marker ht]
    exact Cursor.reaches_refl _
  case someBounds =>
    intro i t ts opposite ht hfirst hsecond
    rw [val_bounds_of_marker ht]
    refine (Cursor.reaches_cons i t ts).trans
      (Reply.reaches_andThen hfirst fun first d hread => ?_)
    have hmarker := reaches_expect opposite (.malformedIntegral i) d
    refine Reply.reaches_andThen hmarker fun _ e hread' => ?_
    rw [hread'] at hmarker
    have hlength := Nat.le_trans hmarker.length_le (Forward.length_unread_le hread)
    exact Reply.reaches_andThen (hsecond e hlength) fun _ f _ => Cursor.reaches_refl f

theorem reaches_read (category : Category) (c : Cursor) : c.Reaches (category.read c).cursor :=
  reaches_reading.1 category c

theorem reaches_of_read {category : Category} {c d : Cursor} {e : Expr}
    (h : category.read c = .ok e d) : c.Reaches d := by
  have hreaches := reaches_read category c
  rwa [h] at hreaches

theorem reaches_of_bounds {c d : Cursor} {between : Bounds}
    (h : (bounds c).1 = .ok between d) : c.Reaches d := by
  have hreaches := reaches_reading.2 c
  rwa [h] at hreaches

/-! ## What reading stops before -/

/-- Whether a category may be read from the given tokens; the rest of a chain
stands after an operand of the chain. -/
def Category.MayResume : Category → List Token → Prop
  | .links level _, ts => (operand level).StopsBefore ts
  | _, _ => True

theorem mayResume_operand (level : Level) (ts : List Token) : (operand level).MayResume ts := by
  cases level with
  | additive => trivial
  | multiplicative => trivial

/-- Whether what is read for a category from a cursor stops where it has to. -/
def GreedyAt (category : Category) (c : Cursor) : Prop :=
  ∀ e d, category.read c = .ok e d → category.MayResume c.unread → category.StopsBefore d.unread

theorem greedyAt_chain {level : Level} {c : Cursor} (hfirst : GreedyAt (operand level) c)
    (hlinks : ∀ left d, d.unread.length ≤ c.unread.length → GreedyAt (.links level left) d) :
    GreedyAt (.chain level) c := by
  intro e d h _
  rw [read_chain] at h
  obtain ⟨first, c', hread, h⟩ := Reply.andThen_eq_ok_iff.mp h
  have hstop := hfirst first c' hread (mayResume_operand level c.unread)
  exact hlinks first c' (length_unread_read_le hread) e d h hstop

theorem greedyAt_links_stop {level : Level} {t : Token} (ht : ¬level.IsOperator t)
    (left : Expr) (i : Nat) (ts : List Token) : GreedyAt (.links level left) ⟨i, t :: ts⟩ := by
  intro e d h hresume
  rw [read_links_of_not_isOperator ht] at h
  obtain ⟨rfl, rfl⟩ := Reply.ok.inj h
  intro u hu
  obtain rfl := Option.some.inj hu
  cases level with
  | additive => exact ⟨(hresume t rfl).1, fun _ => ht⟩
  | multiplicative => exact ⟨ht, fun hlevel => by cases hlevel⟩

theorem greedyAt_link {level : Level} {t : Token} {i : Nat} {ts : List Token} {left : Expr}
    (ht : level.IsOperator t) (hright : GreedyAt (operand level) ⟨i + 1, ts⟩)
    (hlinks : ∀ right d, d.unread.length ≤ ts.length →
      GreedyAt (.links level (.binary left t right)) d) :
    GreedyAt (.links level left) ⟨i, t :: ts⟩ := by
  intro e d h _
  rw [read_links_of_isOperator ht] at h
  obtain ⟨right, c', hread, h⟩ := Reply.andThen_eq_ok_iff.mp h
  have hstop := hright right c' hread (mayResume_operand level ts)
  exact hlinks right c' (length_unread_read_le hread) e d h hstop

theorem stopsBefore_of_read {category : Category} {c d : Cursor} {e : Expr}
    (h : category.read c = .ok e d) (hresume : category.MayResume c.unread) :
    category.StopsBefore d.unread := by
  have hgreedy : (∀ category c, GreedyAt category c) ∧ ∀ _ : Cursor, True := by
    apply reading_induction
    case chain => exact fun level c => greedyAt_chain
    case linksEnd =>
      intro level left i e d h _
      rw [read_links_nil] at h
      obtain ⟨rfl, rfl⟩ := Reply.ok.inj h
      exact noOperatorAhead_nil level
    case linksStop => exact fun level left i t ts ht => greedyAt_links_stop ht left i ts
    case link =>
      exact fun level left i t ts ht hright hlinks => greedyAt_link ht hright hlinks
    all_goals
      intros
      first
        | trivial
        | exact fun _ _ _ _ => trivial
  exact hgreedy.1 category c e d h hresume

/-! ## Expressions and bounds that are read -/

/-- Whether an expression is derived up to a place where no operator continues it. -/
def DerivesUpTo (ts : List Token) (e : Expr) (rest : List Token) : Prop :=
  Derives (.chain .additive) ts e rest ∧ NoOperatorAhead .additive rest

theorem derivesUpTo_of_read {c d : Cursor} {e : Expr}
    (h : (binary .additive c).1 = .ok e d) : DerivesUpTo c.unread e d.unread := by
  have hread : (Category.chain .additive).read c = .ok e d := h
  exact ⟨derives_of_read hread, stopsBefore_of_read hread trivial⟩

/-- The tokens of the bounds of an integral, given with the tokens after them. -/
inductive BoundsUpTo : List Token → List Token → Prop
  | absent {ts : List Token} (hts : ∀ t ∈ ts.head?, t.kind.oppositeMarker? = none) :
      BoundsUpTo ts ts
  | present {marker marker' : Token} {ts us rest : List Token} {first second : Expr}
      (hmarkers : marker.kind.oppositeMarker? = some marker'.kind)
      (hfirst : DerivesUpTo ts first (marker' :: us)) (hsecond : DerivesUpTo us second rest) :
      BoundsUpTo (marker :: ts) rest

theorem boundsUpTo_of_bounds {c d : Cursor} {between : Bounds}
    (h : (bounds c).1 = .ok between d) : BoundsUpTo c.unread d.unread := by
  obtain ⟨i, ts⟩ := c
  cases ts with
  | nil =>
      rw [val_bounds_nil] at h
      obtain ⟨-, rfl⟩ := Reply.ok.inj h
      exact .absent (by simp)
  | cons t ts =>
      cases ht : t.kind.oppositeMarker? with
      | none =>
          rw [val_bounds_of_not_marker ht] at h
          obtain ⟨-, rfl⟩ := Reply.ok.inj h
          exact .absent (by simpa using ht)
      | some opposite =>
          rw [val_bounds_of_marker ht] at h
          obtain ⟨first, c', hread, h⟩ := Reply.andThen_eq_ok_iff.mp h
          obtain ⟨marker, d', hmarker, h⟩ := Reply.andThen_eq_ok_iff.mp h
          obtain ⟨second, e', hread', h⟩ := Reply.andThen_eq_ok_iff.mp h
          obtain ⟨-, rfl⟩ := Reply.ok.inj h
          obtain ⟨rfl, hunread⟩ := expect_eq_ok hmarker
          have hfirst := derivesUpTo_of_read hread
          rw [hunread] at hfirst
          exact .present ht hfirst (derivesUpTo_of_read hread')

/-- Whether a category may leave `rest` of `ts`, judged by their lengths: only
the rest of a chain may be derived from nothing. -/
def Category.Shortens : Category → List Token → List Token → Prop
  | .links .., ts, rest => rest.length ≤ ts.length
  | _, ts, rest => rest.length < ts.length

theorem length_lt_of_operand {level : Level} {ts rest : List Token}
    (h : (operand level).Shortens ts rest) : rest.length < ts.length := by
  cases level with
  | additive => exact h
  | multiplicative => exact h

theorem EndsIntegrand.length_le {integrand : Expr} {ts rest : List Token} {name : String}
    (h : EndsIntegrand integrand ts name rest) : rest.length ≤ ts.length := by
  obtain ⟨consumed, rfl, -⟩ := h.exists_consumed
  simp

theorem Derives.shortens {category : Category} {ts rest : List Token} {e : Expr}
    (h : Derives category ts e rest) : category.Shortens ts rest := by
  induction h using Derives.induction_markers with
  | chain _ _ ihfirst ihlinks => exact Nat.lt_of_le_of_lt ihlinks (length_lt_of_operand ihfirst)
  | stop => exact Nat.le_refl _
  | link _ _ _ ihright ihlinks =>
      have hright := length_lt_of_operand ihright
      simp only [Category.Shortens, List.length_cons] at ihlinks ⊢
      omega
  | number => exact Nat.lt_succ_self _
  | var => exact Nat.lt_succ_self _
  | group _ _ _ ih =>
      simp only [Category.Shortens, List.length_cons] at ih ⊢
      omega
  | integral _ ih => exact ih
  | indefinite _ hname ih =>
      have hrest := hname.length_le
      simp only [Category.Shortens, List.length_cons] at ih ⊢
      omega
  | definite _ _ _ _ hname ihfirst ihsecond ih =>
      have hrest := hname.length_le
      simp only [Category.Shortens, List.length_cons] at ihfirst ihsecond ih ⊢
      omega

end Grammar
end MathMarkup
