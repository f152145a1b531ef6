import MathMarkup.Proofs.Grammar.Progress

/-!
# Where an expression is missing

Reading fails with an unexpected token exactly where it gets stuck: where it needs
the start of a primary phrase and does not find one.
-/

namespace MathMarkup
namespace Grammar

open Parsing

/-- The ways in which a phrase breaks off because an expression is missing. -/
inductive Stuck : Category → List Token → List Token → Prop
  | operand {level : Level} {ts rest : List Token} (h : Stuck (operand level) ts rest) :
      Stuck (.chain level) ts rest
  | link {level : Level} {operator : Token} {ts us rest : List Token} {left : Expr}
      (hleft : Derives (.chain level) ts left (operator :: us))
      (hoperator : level.IsOperator operator) (h : Stuck (Grammar.operand level) us rest) :
      Stuck (.chain level) ts rest
  | group {opening : Token} {ts rest : List Token} (hopening : opening.kind = .leftParen)
      (h : Stuck (.chain .additive) ts rest) : Stuck .primary (opening :: ts) rest
  | primary {ts rest : List Token}
      (hts : ∀ t ∈ ts.head?, t.kind ≠ .number ∧ t.kind ≠ .letter ∧ t.kind ≠ .leftParen)
      (h : Stuck .integral ts rest) : Stuck .primary ts rest
  | sign {ts : List Token} (hts : ∀ t ∈ ts.head?, t ≠ .integralSign) : Stuck .integral ts ts
  | integrand {ts rest : List Token} (hts : ∀ t ∈ ts.head?, t.kind.oppositeMarker? = none)
      (h : Stuck (.chain .additive) ts rest) : Stuck .integral (.integralSign :: ts) rest
  | firstBound {marker : Token} {opposite : TokenKind} {ts rest : List Token}
      (hmarker : marker.kind.oppositeMarker? = some opposite)
      (h : Stuck (.chain .additive) ts rest) :
      Stuck .integral (.integralSign :: marker :: ts) rest
  | secondBound {marker marker' : Token} {ts us rest : List Token} {first : Expr}
      (hmarkers : marker.kind.oppositeMarker? = some marker'.kind)
      (hfirst : Derives (.chain .additive) ts first (marker' :: us))
      (h : Stuck (.chain .additive) us rest) :
      Stuck .integral (.integralSign :: marker :: ts) rest
  /-- The second bound must not go on with an operator. -/
  | boundedIntegrand {marker marker' : Token} {ts us vs rest : List Token} {first second : Expr}
      (hmarkers : marker.kind.oppositeMarker? = some marker'.kind)
      (hfirst : Derives (.chain .additive) ts first (marker' :: us))
      (hsecond : Derives (.chain .additive) us second vs) (hvs : NoOperatorAhead .additive vs)
      (h : Stuck (.chain .additive) vs rest) :
      Stuck .integral (.integralSign :: marker :: ts) rest

/-! ## Failures to read get stuck -/

/-- Whether a category gets stuck.  The rest of a chain gets stuck at an operand
after one of its operators. -/
def Category.IsStuck : Category → List Token → List Token → Prop
  | .links level left, ts, rest => ∃ e operator us,
      Derives (.links level left) ts e (operator :: us) ∧ level.IsOperator operator ∧
        Stuck (operand level) us rest
  | category, ts, rest => Stuck category ts rest

theorem stuck_of_isStuck_operand {level : Level} {ts rest : List Token}
    (h : (operand level).IsStuck ts rest) : Stuck (operand level) ts rest := by
  cases level with
  | additive => exact h
  | multiplicative => exact h

/-- Whether reading a category from a cursor finds an unexpected token only where it gets
stuck. -/
def StuckAt (category : Category) (c : Cursor) : Prop :=
  ∀ i found d, category.read c = .error (.unexpectedToken i found) d →
    category.IsStuck c.unread d.unread ∧ .unexpectedToken i found = d.unexpected

def BoundsStuckAt (c : Cursor) : Prop :=
  ∀ i found d, (bounds c).1 = .error (.unexpectedToken i found) d →
    Stuck .integral (.integralSign :: c.unread) d.unread ∧ .unexpectedToken i found = d.unexpected

theorem stuckAt_chain {level : Level} {c : Cursor} (hfirst : StuckAt (operand level) c)
    (hlinks : ∀ left d, d.unread.length ≤ c.unread.length → StuckAt (.links level left) d) :
    StuckAt (.chain level) c := by
  intro i found d h
  rw [read_chain] at h
  rcases Reply.andThen_eq_error_iff.mp h with h | ⟨first, c', hread, h⟩
  · obtain ⟨hstuck, herror⟩ := hfirst i found d h
    exact ⟨.operand (stuck_of_isStuck_operand hstuck), herror⟩
  · obtain ⟨⟨e, operator, us, hderives, hoperator, hstuck⟩, herror⟩ :=
      hlinks first c' (length_unread_read_le hread) i found d h
    exact ⟨.link (.chain (derives_of_read hread) hderives) hoperator hstuck, herror⟩

theorem stuckAt_link {level : Level} {t : Token} {i : Nat} {ts : List Token} {left : Expr}
    (ht : level.IsOperator t) (hright : StuckAt (operand level) ⟨i + 1, ts⟩)
    (hlinks : ∀ right d, d.unread.length ≤ ts.length →
      StuckAt (.links level (.binary left t right)) d) :
    StuckAt (.links level left) ⟨i, t :: ts⟩ := by
  intro k found d h
  rw [read_links_of_isOperator ht] at h
  rcases Reply.andThen_eq_error_iff.mp h with h | ⟨right, c', hread, h⟩
  · obtain ⟨hstuck, herror⟩ := hright k found d h
    exact ⟨⟨left, t, ts, .stop, ht, stuck_of_isStuck_operand hstuck⟩, herror⟩
  · obtain ⟨⟨e, operator, us, hderives, hoperator, hstuck⟩, herror⟩ :=
      hlinks right c' (length_unread_read_le hread) k found d h
    exact ⟨⟨e, operator, us, .link ht (derives_of_read hread) hderives, hoperator, hstuck⟩, herror⟩

theorem stuckAt_group {t : Token} {i : Nat} {ts : List Token} (ht : t.kind = .leftParen)
    (hinner : StuckAt (.chain .additive) ⟨i + 1, ts⟩) : StuckAt .primary ⟨i, t :: ts⟩ := by
  intro k found d h
  rw [Category.read, val_primary_of_leftParen ht] at h
  rcases Reply.andThen_eq_error_iff.mp h with h | ⟨inner, c', -, h⟩
  · obtain ⟨hstuck, herror⟩ := hinner k found d h
    exact ⟨.group ht hstuck, herror⟩
  · rcases Reply.andThen_eq_error_iff.mp h with h | ⟨closing, d', -, h⟩
    · cases (expect_eq_error h).1
    · cases h

theorem BoundsUpTo.stuck {ts us rest : List Token} (h : BoundsUpTo ts us)
    (hstuck : Stuck (.chain .additive) us rest) : Stuck .integral (.integralSign :: ts) rest := by
  cases h with
  | absent hts => exact .integrand hts hstuck
  | present hmarkers hfirst hsecond =>
      exact .boundedIntegrand hmarkers hfirst.1 hsecond.1 hsecond.2 hstuck

theorem stuckAt_integral {i : Nat} {ts : List Token} (hbounds : BoundsStuckAt ⟨i + 1, ts⟩)
    (hintegrand : ∀ d, d.unread.length ≤ ts.length → StuckAt (.chain .additive) d) :
    StuckAt .integral ⟨i, .integralSign :: ts⟩ := by
  intro k found d h
  rw [Category.read, val_integral_sign] at h
  rcases Reply.andThen_eq_error_iff.mp h with h | ⟨between, c', hread, h⟩
  · exact hbounds k found d h
  · rcases Reply.andThen_eq_error_iff.mp h with h | ⟨integrand, d', -, h⟩
    · obtain ⟨hstuck, herror⟩ := hintegrand c' (Forward.length_unread_le hread) k found d h
      exact ⟨(boundsUpTo_of_bounds hread).stuck hstuck, herror⟩
    · rcases Reply.andThen_eq_error_iff.mp h with h | ⟨name, e', -, h⟩
      · cases (differential_eq_error h).1
      · cases h

theorem boundsStuckAt_marker {t : Token} {opposite : TokenKind} {i : Nat} {ts : List Token}
    (ht : t.kind.oppositeMarker? = some opposite)
    (hfirst : StuckAt (.chain .additive) ⟨i + 1, ts⟩)
    (hsecond : ∀ d, d.unread.length ≤ ts.length → StuckAt (.chain .additive) d) :
    BoundsStuckAt ⟨i, t :: ts⟩ := by
  intro k found d h
  rw [val_bounds_of_marker ht] at h
  rcases Reply.andThen_eq_error_iff.mp h with h | ⟨first, c', hread, hnext⟩
  · obtain ⟨hstuck, herror⟩ := hfirst k found d h
    exact ⟨.firstBound ht hstuck, herror⟩
  rcases Reply.andThen_eq_error_iff.mp hnext with h | ⟨marker, d', hmarker, hlast⟩
  · cases (expect_eq_error h).1
  obtain ⟨rfl, hunread⟩ := expect_eq_ok hmarker
  have hone : (Category.chain .additive).read ⟨i + 1, ts⟩ = .ok first c' := hread
  have hderives := derives_of_read hone
  rw [hunread] at hderives
  rcases Reply.andThen_eq_error_iff.mp hlast with h | ⟨second, e', -, h⟩
  · have hlength : d'.unread.length ≤ ts.length := by
      have hle := Forward.length_unread_le hread
      rw [hunread, List.length_cons] at hle
      exact Nat.le_trans (Nat.le_succ _) hle
    obtain ⟨hstuck, herror⟩ := hsecond d' hlength k found d h
    exact ⟨.secondBound ht hderives hstuck, herror⟩
  · cases h

theorem isStuck_of_read {category : Category} {c d : Cursor} {i : Nat} {found : Option String}
    (h : category.read c = .error (.unexpectedToken i found) d) :
    category.IsStuck c.unread d.unread ∧ .unexpectedToken i found = d.unexpected := by
  have hstuck : (∀ category c, StuckAt category c) ∧ ∀ c, BoundsStuckAt c := by
    apply reading_induction
    case chain => exact fun level c => stuckAt_chain
    case linksEnd =>
      intro level left i k found d h
      rw [read_links_nil] at h
      cases h
    case linksStop =>
      intro level left i t ts ht k found d h
      rw [read_links_of_not_isOperator ht] at h
      cases h
    case link =>
      exact fun level left i t ts ht hright hlinks => stuckAt_link ht hright hlinks
    case primaryEnd =>
      intro i k found d h
      rw [Category.read, val_primary_nil] at h
      obtain ⟨herror, rfl⟩ := Reply.error.inj h
      exact ⟨.primary (by simp) (.sign (by simp)), herror.symm⟩
    case number =>
      intro i t ts ht k found d h
      rw [Category.read, val_primary_of_number ht] at h
      cases h
    case letter =>
      intro i t ts ht k found d h
      rw [Category.read, val_primary_of_letter ht] at h
      cases h
    case group => exact fun i t ts => stuckAt_group
    case other =>
      intro i t ts hnumber hletter hparen hintegral k found d h
      rw [Category.read, val_primary_of_other hnumber hletter hparen] at h
      obtain ⟨hstuck, herror⟩ := hintegral k found d h
      exact ⟨.primary (by simp [hnumber, hletter, hparen]) hstuck, herror⟩
    case integralEnd =>
      intro i k found d h
      rw [Category.read, val_integral_nil] at h
      obtain ⟨herror, rfl⟩ := Reply.error.inj h
      exact ⟨.sign (by simp), herror.symm⟩
    case integral => exact fun i ts => stuckAt_integral
    case noIntegral =>
      intro i t ts ht k found d h
      rw [Category.read, val_integral_of_ne ht] at h
      obtain ⟨herror, rfl⟩ := Reply.error.inj h
      exact ⟨.sign (by simpa using ht), herror.symm⟩
    case boundsEnd =>
      intro i k found d h
      rw [val_bounds_nil] at h
      cases h
    case noBounds =>
      intro i t ts ht k found d h
      rw [val_bounds_of_not_marker ht] at h
      cases h
    case someBounds => exact fun i t ts opposite => boundsStuckAt_marker
  exact hstuck.1 category c i found d h

/-! ## What gets stuck fails to be read -/

/-- Whether reading a category from `ts` fails because the first token of `rest` is unexpected. -/
def FailsAs (category : Category) (ts rest : List Token) : Prop :=
  ∀ i, ∃ j, category.read ⟨i, ts⟩ = .error (Cursor.unexpected ⟨j, rest⟩) ⟨j, rest⟩

def BoundsFailAs (ts rest : List Token) : Prop :=
  ∀ i, ∃ j, (bounds ⟨i, ts⟩).1 = .error (Cursor.unexpected ⟨j, rest⟩) ⟨j, rest⟩

theorem stopsBefore_operator {level : Level} {operator : Token}
    (hoperator : level.IsOperator operator) (us : List Token) :
    (operand level).StopsBefore (operator :: us) := by
  cases level with
  | multiplicative => trivial
  | additive =>
      intro t ht
      obtain rfl := Option.some.inj ht
      exact ⟨hoperator.not_multiplicative, fun hlevel => by cases hlevel⟩

theorem exists_read_links_eq {level : Level} {operator : Token} {ts us : List Token}
    {left e : Expr} (h : Derives (.links level left) ts e (operator :: us))
    (hoperator : level.IsOperator operator) (i : Nat) :
    ∃ j, (Category.links level left).read ⟨i, ts⟩ =
      (Category.links level e).read ⟨j, operator :: us⟩ := by
  generalize hcategory : Category.links level left = category at h
  generalize hrest : operator :: us = vs at h
  induction h generalizing left i with
  | stop =>
      obtain ⟨rfl, rfl⟩ := Category.links.inj hcategory
      subst hrest
      exact ⟨i, rfl⟩
  | link hfirst hoperand hlinks _ ih =>
      obtain ⟨rfl, rfl⟩ := Category.links.inj hcategory
      subst hrest
      have hstop := stopsBefore_operand hlinks (stopsBefore_operator hoperator us)
      obtain ⟨j, hread⟩ := hoperand.readsAs hstop (i + 1)
      obtain ⟨k, hlater⟩ := ih j rfl rfl
      exact ⟨k, by rw [read_links_of_isOperator hfirst, hread, Reply.andThen_ok, hlater]⟩
  | _ => cases hcategory

theorem failsAs_chain {level : Level} {ts rest : List Token} (h : FailsAs (operand level) ts rest) :
    FailsAs (.chain level) ts rest := by
  intro i
  obtain ⟨j, hread⟩ := h i
  exact ⟨j, by rw [read_chain, hread, Reply.andThen_error]⟩

theorem failsAs_link {level : Level} {operator : Token} {ts us rest : List Token} {left : Expr}
    (hleft : Derives (.chain level) ts left (operator :: us))
    (hoperator : level.IsOperator operator) (h : FailsAs (operand level) us rest) :
    FailsAs (.chain level) ts rest := by
  intro i
  cases hleft with
  | chain hfirst hlinks =>
      have hstop := stopsBefore_operand hlinks (stopsBefore_operator hoperator us)
      obtain ⟨j, hread⟩ := hfirst.readsAs hstop i
      obtain ⟨k, hlater⟩ := exists_read_links_eq hlinks hoperator j
      obtain ⟨m, hfail⟩ := h (k + 1)
      refine ⟨m, ?_⟩
      rw [read_chain, hread, Reply.andThen_ok, hlater, read_links_of_isOperator hoperator, hfail,
        Reply.andThen_error]

theorem failsAs_group {opening : Token} {ts rest : List Token}
    (hopening : opening.kind = .leftParen) (h : FailsAs (.chain .additive) ts rest) :
    FailsAs .primary (opening :: ts) rest := by
  intro i
  obtain ⟨j, hread⟩ := h (i + 1)
  rw [Category.read] at hread
  exact ⟨j, by rw [Category.read, val_primary_of_leftParen hopening, hread, Reply.andThen_error]⟩

theorem failsAs_primary {ts rest : List Token}
    (hts : ∀ t ∈ ts.head?, t.kind ≠ .number ∧ t.kind ≠ .letter ∧ t.kind ≠ .leftParen)
    (h : FailsAs .integral ts rest) : FailsAs .primary ts rest := by
  intro i
  obtain ⟨j, hread⟩ := h i
  refine ⟨j, ?_⟩
  rw [← hread, Category.read, Category.read]
  cases ts with
  | nil => rw [val_primary_nil, val_integral_nil]
  | cons t ts =>
      obtain ⟨hnumber, hletter, hparen⟩ := hts t rfl
      exact val_primary_of_other hnumber hletter hparen i ts

theorem failsAs_sign {ts : List Token} (hts : ∀ t ∈ ts.head?, t ≠ .integralSign) :
    FailsAs .integral ts ts := by
  intro i
  refine ⟨i, ?_⟩
  rw [Category.read]
  cases ts with
  | nil => exact val_integral_nil i
  | cons t ts => exact val_integral_of_ne (hts t rfl) i ts

theorem failsAs_bounds {ts rest : List Token} (h : BoundsFailAs ts rest) :
    FailsAs .integral (.integralSign :: ts) rest := by
  intro i
  obtain ⟨j, hread⟩ := h (i + 1)
  exact ⟨j, by rw [Category.read, val_integral_sign, hread, Reply.andThen_error]⟩

theorem failsAs_integrand {ts us rest : List Token} {between : Bounds}
    (hbounds : BoundsReadAs ts between us) (h : FailsAs (.chain .additive) us rest) :
    FailsAs .integral (.integralSign :: ts) rest := by
  intro i
  obtain ⟨j, hread⟩ := hbounds (i + 1)
  obtain ⟨k, hfail⟩ := h j
  rw [Category.read] at hfail
  refine ⟨k, ?_⟩
  rw [Category.read, val_integral_sign, hread, Reply.andThen_ok, hfail, Reply.andThen_error]

theorem boundsFailAs_first {marker : Token} {opposite : TokenKind} {ts rest : List Token}
    (hmarker : marker.kind.oppositeMarker? = some opposite)
    (h : FailsAs (.chain .additive) ts rest) : BoundsFailAs (marker :: ts) rest := by
  intro i
  obtain ⟨j, hread⟩ := h (i + 1)
  rw [Category.read] at hread
  exact ⟨j, by rw [val_bounds_of_marker hmarker, hread, Reply.andThen_error]⟩

theorem boundsFailAs_second {marker marker' : Token} {ts us rest : List Token} {first : Expr}
    (hmarkers : marker.kind.oppositeMarker? = some marker'.kind)
    (hfirst : ReadsAs (.chain .additive) ts first (marker' :: us))
    (h : FailsAs (.chain .additive) us rest) : BoundsFailAs (marker :: ts) rest := by
  intro i
  obtain ⟨j, hread⟩ := hfirst (i + 1)
  obtain ⟨k, hfail⟩ := h (j + 1)
  rw [Category.read] at hread hfail
  refine ⟨k, ?_⟩
  rw [val_bounds_of_marker hmarkers, hread, Reply.andThen_ok, val_expect_of_kind rfl,
    Reply.andThen_ok, hfail, Reply.andThen_error]

theorem noOperatorAhead_marker {marker marker' : Token}
    (h : marker.kind.oppositeMarker? = some marker'.kind) (us : List Token) :
    NoOperatorAhead .additive (marker' :: us) := by
  refine noOperatorAhead_cons (not_isOperator_of_kind ?_) _ us
  rcases TokenKind.oppositeMarker?_eq_some_iff.mp h with ⟨-, hkind⟩ | ⟨-, hkind⟩
  · simp [hkind]
  · simp [hkind]

/-- Where a category gets stuck, reading it fails with an unexpected token. -/
theorem Stuck.failsAs {category : Category} {ts rest : List Token} (h : Stuck category ts rest) :
    FailsAs category ts rest := by
  induction h with
  | operand _ ih => exact failsAs_chain ih
  | link hleft hoperator _ ih => exact failsAs_link hleft hoperator ih
  | group hopening _ ih => exact failsAs_group hopening ih
  | primary hts _ ih => exact failsAs_primary hts ih
  | sign hts => exact failsAs_sign hts
  | integrand hts _ ih => exact failsAs_integrand (boundsReadAs_none hts) ih
  | firstBound hmarker _ ih => exact failsAs_bounds (boundsFailAs_first hmarker ih)
  | secondBound hmarkers hfirst _ ih =>
      have hread := hfirst.readsAs (noOperatorAhead_marker hmarkers _)
      exact failsAs_bounds (boundsFailAs_second hmarkers hread ih)
  | boundedIntegrand hmarkers hfirst hsecond hvs _ ih =>
      have hread := hfirst.readsAs (noOperatorAhead_marker hmarkers _)
      exact failsAs_integrand (boundsReadAs_some hmarkers hread (hsecond.readsAs hvs)) ih

end Grammar
end MathMarkup
