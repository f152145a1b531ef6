import Mathlib.Data.Set.Subsingleton
import MathMarkup.Proofs.Grammar.Soundness

/-!
# Completeness of reading

What the grammar derives is read, provided that no operator of the chain comes next.
The grammar lets a chain end before any operator, while reading goes on as far as
it can.
-/

namespace MathMarkup
namespace Grammar

open Parsing

/-- Whether no operator that binds at least as tightly as a level comes first. -/
def NoOperatorAhead (level : Level) (ts : List Token) : Prop :=
  ∀ t ∈ ts.head?, ¬Level.multiplicative.IsOperator t ∧
    (level = .additive → ¬Level.additive.IsOperator t)

/-- Whether reading a category stops before the given tokens. -/
def Category.StopsBefore : Category → List Token → Prop
  | .chain level, ts => NoOperatorAhead level ts
  | .links level _, ts => NoOperatorAhead level ts
  | .primary, _ => True
  | .integral, _ => True

theorem noOperatorAhead_nil (level : Level) : NoOperatorAhead level [] := by
  intro t ht
  simp at ht

theorem NoOperatorAhead.stopsBefore_operand {level : Level} {ts : List Token}
    (h : NoOperatorAhead level ts) : (operand level).StopsBefore ts := by
  cases level with
  | multiplicative => trivial
  | additive => exact fun t ht => ⟨(h t ht).1, fun hlevel => by cases hlevel⟩

theorem noOperatorAhead_cons {t : Token} (h : ∀ level : Level, ¬level.IsOperator t)
    (level : Level) (ts : List Token) : NoOperatorAhead level (t :: ts) := by
  intro u hu
  obtain rfl := Option.some.inj hu
  exact ⟨h .multiplicative, fun _ => h .additive⟩

theorem noOperatorAhead_of_endsIntegrand {integrand : Expr} {ts rest : List Token}
    {name : String} (h : EndsIntegrand integrand ts name rest) (level : Level) :
    NoOperatorAhead level ts := by
  have hthin : ∀ level : Level, ¬level.IsOperator .thinSpace := by
    rintro (_ | _) <;> decide
  cases h with
  | spacedMark => exact noOperatorAhead_cons hthin level _
  | spaced => exact noOperatorAhead_cons hthin level _
  | mark => exact noOperatorAhead_cons (not_isOperator_of_kind (by decide)) level _
  | unwritten _ _ _ hends =>
      cases ts with
      | nil => exact noOperatorAhead_nil level
      | cons t ts =>
          refine noOperatorAhead_cons (not_isOperator_of_kind ?_) level ts
          rcases hends with h | h | h
          · simp [h]
          · simp [h]
          · simp [h]

/-- The operators inside an operand bind more tightly than the one after it. -/
theorem stopsBefore_operand {level : Level} {left e : Expr} {ts rest : List Token}
    (h : Derives (.links level left) ts e rest) (hrest : (operand level).StopsBefore rest) :
    (operand level).StopsBefore ts := by
  cases level with
  | multiplicative => trivial
  | additive =>
      cases h with
      | stop => exact hrest
      | link hoperator =>
          intro t ht
          obtain rfl := Option.some.inj ht
          exact ⟨hoperator.not_multiplicative, fun hlevel => by cases hlevel⟩

/-- Whether the first of the given tokens can start a phrase of a category. -/
def Category.StartsWith : Category → List Token → Prop
  | .links .., _ => True
  | .integral, ts => ∃ us, ts = .integralSign :: us
  | _, ts => ∃ t us, ts = t :: us ∧ t.StartsPrimary

theorem Derives.startsWith {category : Category} {ts rest : List Token} {e : Expr}
    (h : Derives category ts e rest) : category.StartsWith ts := by
  induction h with
  | @chain level _ _ _ _ _ _ _ ihfirst _ =>
      cases level with
      | additive => exact ihfirst
      | multiplicative => exact ihfirst
  | stop => trivial
  | link => trivial
  | number text rest => exact ⟨_, rest, rfl, Or.inl rfl⟩
  | var name rest => exact ⟨_, rest, rfl, Or.inr (Or.inl rfl)⟩
  | group hopening => exact ⟨_, _, rfl, Or.inr (Or.inr (Or.inl hopening))⟩
  | integral _ ih =>
      obtain ⟨us, rfl⟩ := ih
      exact ⟨_, us, rfl, Or.inr (Or.inr (Or.inr rfl))⟩
  | indefinite => exact ⟨_, rfl⟩
  | lowerFirst => exact ⟨_, rfl⟩
  | upperFirst => exact ⟨_, rfl⟩

theorem noOperatorAhead_of_derives {ts rest : List Token} {e : Expr}
    (h : Derives (.chain .additive) ts e rest) (level : Level) : NoOperatorAhead level ts := by
  obtain ⟨t, us, rfl, ht⟩ := h.startsWith
  exact noOperatorAhead_cons ht.not_isOperator level us

theorem oppositeMarker?_of_derives {ts rest : List Token} {e : Expr}
    (h : Derives (.chain .additive) ts e rest) :
    ∀ t ∈ ts.head?, t.kind.oppositeMarker? = none := by
  obtain ⟨t, us, rfl, ht⟩ := h.startsWith
  intro u hu
  obtain rfl := Option.some.inj hu
  exact ht.oppositeMarker?

/-! ## Reading what is derived -/

/-- Whether reading a category from the given tokens gives an expression and leaves `rest`. -/
def ReadsAs (category : Category) (ts : List Token) (e : Expr) (rest : List Token) : Prop :=
  ∀ i, ∃ j, category.read ⟨i, ts⟩ = .ok e ⟨j, rest⟩

theorem readsAs_stop {level : Level} {left : Expr} {ts : List Token}
    (hts : NoOperatorAhead level ts) : ReadsAs (.links level left) ts left ts := by
  intro i
  refine ⟨i, ?_⟩
  cases ts with
  | nil => exact read_links_nil level left i
  | cons t ts =>
      have ht : ¬level.IsOperator t := by
        have hfirst := hts t rfl
        cases level with
        | additive => exact hfirst.2 rfl
        | multiplicative => exact hfirst.1
      exact read_links_of_not_isOperator ht left i ts

theorem readsAs_chain {level : Level} {ts us rest : List Token} {first e : Expr}
    (hfirst : ReadsAs (operand level) ts first us)
    (hlinks : ReadsAs (.links level first) us e rest) : ReadsAs (.chain level) ts e rest := by
  intro i
  obtain ⟨j, hread⟩ := hfirst i
  obtain ⟨k, hread'⟩ := hlinks j
  exact ⟨k, by rw [read_chain, hread, Reply.andThen_ok, hread']⟩

theorem readsAs_link {level : Level} {t : Token} {ts us rest : List Token} {left right e : Expr}
    (ht : level.IsOperator t) (hright : ReadsAs (operand level) ts right us)
    (hlinks : ReadsAs (.links level (.binary left t right)) us e rest) :
    ReadsAs (.links level left) (t :: ts) e rest := by
  intro i
  obtain ⟨j, hread⟩ := hright (i + 1)
  obtain ⟨k, hread'⟩ := hlinks j
  exact ⟨k, by rw [read_links_of_isOperator ht, hread, Reply.andThen_ok, hread']⟩

theorem readsAs_group {opening closing : Token} {ts rest : List Token} {inner : Expr}
    (hopening : opening.kind = .leftParen) (hclosing : closing.kind = .rightParen)
    (hinner : ReadsAs (.chain .additive) ts inner (closing :: rest)) :
    ReadsAs .primary (opening :: ts) (.group opening inner closing) rest := by
  intro i
  obtain ⟨j, hread⟩ := hinner (i + 1)
  rw [Category.read] at hread
  refine ⟨j + 1, ?_⟩
  rw [Category.read, val_primary_of_leftParen hopening, hread, Reply.andThen_ok,
    val_expect_of_kind hclosing, Reply.andThen_ok]

def BoundsReadAs (ts : List Token) (between : Bounds) (rest : List Token) : Prop :=
  ∀ i, ∃ j, (bounds ⟨i, ts⟩).1 = .ok between ⟨j, rest⟩

theorem boundsReadAs_none {ts : List Token}
    (hts : ∀ t ∈ ts.head?, t.kind.oppositeMarker? = none) : BoundsReadAs ts (none, none) ts := by
  intro i
  cases ts with
  | nil => exact ⟨i, val_bounds_nil i⟩
  | cons t ts => exact ⟨i, val_bounds_of_not_marker (hts t rfl) i ts⟩

theorem boundsReadAs_some {marker marker' : Token} {ts us rest : List Token}
    {first second : Expr} (hmarker : marker.kind.oppositeMarker? = some marker'.kind)
    (hfirst : ReadsAs (.chain .additive) ts first (marker' :: us))
    (hsecond : ReadsAs (.chain .additive) us second rest) :
    BoundsReadAs (marker :: ts) (boundsFrom marker.kind first second) rest := by
  intro i
  obtain ⟨j, hread⟩ := hfirst (i + 1)
  obtain ⟨k, hread'⟩ := hsecond (j + 1)
  rw [Category.read] at hread hread'
  refine ⟨k, ?_⟩
  rw [val_bounds_of_marker hmarker, hread, Reply.andThen_ok, val_expect_of_kind rfl,
    Reply.andThen_ok, hread', Reply.andThen_ok]

theorem readsAs_integral {ts us vs rest : List Token} {between : Bounds} {integrand : Expr}
    {name : String} (hbounds : BoundsReadAs ts between us)
    (hintegrand : ReadsAs (.chain .additive) us integrand vs)
    (hname : EndsIntegrand integrand vs name rest) :
    ReadsAs .integral (.integralSign :: ts)
      (.integral between.1.isSome between.1 between.2 integrand name) rest := by
  intro i
  obtain ⟨j, hread⟩ := hbounds (i + 1)
  obtain ⟨k, hread'⟩ := hintegrand j
  obtain ⟨n, hdiff, rfl⟩ := differential?_of_endsIntegrand hname
  rw [Category.read] at hread'
  refine ⟨k + n, ?_⟩
  rw [Category.read, val_integral_sign, hread, Reply.andThen_ok, hread', Reply.andThen_ok,
    val_differential_of_some hdiff, Reply.andThen_ok]
  rfl

/-- Whatever a category derives is read for it, where reading stops before the rest. -/
theorem Derives.readsAs {category : Category} {ts rest : List Token} {e : Expr}
    (h : Derives category ts e rest) (hrest : category.StopsBefore rest) :
    ReadsAs category ts e rest := by
  induction h with
  | chain _ hlinks ihfirst ihlinks =>
      exact readsAs_chain (ihfirst (stopsBefore_operand hlinks hrest.stopsBefore_operand))
        (ihlinks hrest)
  | stop => exact readsAs_stop hrest
  | link hoperator _ hlinks ihright ihlinks =>
      exact readsAs_link hoperator (ihright (stopsBefore_operand hlinks hrest.stopsBefore_operand))
        (ihlinks hrest)
  | number text rest => exact fun i => ⟨i + 1, val_primary_of_number rfl i rest⟩
  | var name rest => exact fun i => ⟨i + 1, val_primary_of_letter rfl i rest⟩
  | @group _ closing _ _ _ hopening hclosing _ ih =>
      have hstop : ∀ level : Level, ¬level.IsOperator closing :=
        not_isOperator_of_kind (by simp [hclosing])
      exact readsAs_group hopening hclosing (ih (noOperatorAhead_cons hstop _ _))
  | integral h ih =>
      obtain ⟨us, rfl⟩ := h.startsWith
      intro i
      obtain ⟨j, hread⟩ := ih trivial i
      rw [Category.read] at hread
      refine ⟨j, ?_⟩
      rw [Category.read, val_primary_of_other (by decide) (by decide) (by decide), hread]
  | indefinite hintegrand hname ih =>
      exact readsAs_integral (boundsReadAs_none (oppositeMarker?_of_derives hintegrand))
        (ih (noOperatorAhead_of_endsIntegrand hname _)) hname
  | @lowerFirst sub sup _ _ _ _ _ _ _ _ _ hsub hsup _ _ hintegrand hname ihlower ihupper ih =>
      have hstop : ∀ level : Level, ¬level.IsOperator sup :=
        not_isOperator_of_kind (by simp [hsup])
      have hmarker : sub.kind.oppositeMarker? = some sup.kind := by rw [hsub, hsup]; rfl
      have hbounds := boundsReadAs_some hmarker (ihlower (noOperatorAhead_cons hstop _ _))
        (ihupper (noOperatorAhead_of_derives hintegrand _))
      rw [hsub] at hbounds
      exact readsAs_integral hbounds (ih (noOperatorAhead_of_endsIntegrand hname _)) hname
  | @upperFirst sub sup _ _ _ _ _ _ _ _ _ hsub hsup _ _ hintegrand hname ihupper ihlower ih =>
      have hstop : ∀ level : Level, ¬level.IsOperator sub :=
        not_isOperator_of_kind (by simp [hsub])
      have hmarker : sup.kind.oppositeMarker? = some sub.kind := by rw [hsub, hsup]; rfl
      have hbounds := boundsReadAs_some hmarker (ihupper (noOperatorAhead_cons hstop _ _))
        (ihlower (noOperatorAhead_of_derives hintegrand _))
      rw [hsup] at hbounds
      exact readsAs_integral hbounds (ih (noOperatorAhead_of_endsIntegrand hname _)) hname

/-! ## Reading a whole token list -/

theorem parse_eq_ok_of_accepts {tokens : List Token} {e : Expr} (h : Accepts tokens e) :
    parse tokens = .ok e := by
  obtain ⟨j, hread⟩ := Derives.readsAs h (noOperatorAhead_nil .additive) 0
  rw [Category.read] at hread
  rw [parse, Phrase.read, Cursor.start, hread]

theorem accepts_of_parse_eq_ok {tokens : List Token} {e : Expr} (h : parse tokens = .ok e) :
    Accepts tokens e := by
  unfold parse at h
  split at h
  next => cases h
  next e' c hread =>
    split at h
    next hunread =>
      obtain rfl := Except.ok.inj h
      have hchain : (Category.chain .additive).read (.start tokens) = .ok e' c := hread
      have hderives := derives_of_read hchain
      rw [hunread] at hderives
      exact hderives
    next => split at h <;> cases h

/-- A token list is read as exactly the expression that the grammar derives from
it, and the grammar derives no more than one. -/
theorem parse_eq_ok_iff_accepts (tokens : List Token) :
    (∀ e, parse tokens = .ok e ↔ Accepts tokens e) ∧ {e | Accepts tokens e}.Subsingleton := by
  refine ⟨fun e => ⟨accepts_of_parse_eq_ok, parse_eq_ok_of_accepts⟩, ?_⟩
  intro e h e' h'
  have hparse := parse_eq_ok_of_accepts h
  rw [parse_eq_ok_of_accepts h'] at hparse
  exact (Except.ok.inj hparse).symm

/-- A lone variable ends before a closing parenthesis, and `d` is a variable
where no letter follows it. -/
theorem parse_lone_variable :
    parse [.integralSign, ⟨.leftParen, "["⟩, .integralSign, .differential, ⟨.rightParen, "]"⟩,
        .thinSpace, .differential] =
      .ok (.integral false none none
        (.group ⟨.leftParen, "["⟩ (.integral false none none (.var "d") "d") ⟨.rightParen, "]"⟩)
        "d") := by
  have hprimary {ts rest : List Token} {e : Expr} (h : Derives .primary ts e rest) :
      Derives (.chain .additive) ts e rest :=
    .chain (.chain h .stop) .stop
  have hinner : Derives .integral [.integralSign, .differential, ⟨.rightParen, "]"⟩, .thinSpace,
      .differential] (.integral false none none (.var "d") "d") _ :=
    .indefinite (hprimary (.var "d" _)) (.unwritten "d" _ rfl (Or.inl rfl))
  have hgroup : Derives .primary (⟨.leftParen, "["⟩ :: _) (.group _ _ ⟨.rightParen, "]"⟩) _ :=
    .group rfl rfl (hprimary (.integral hinner))
  have hends (integrand : Expr) :
      EndsIntegrand integrand [.thinSpace, .differential] "d" [] := by
    refine .spaced "d" [] (Or.inr ?_)
    rintro ⟨name, rest, hcons⟩
    cases hcons
  have houter : Accepts _ _ := hprimary (.integral (.indefinite (hprimary hgroup) (hends _)))
  exact ((parse_eq_ok_iff_accepts _).1 _).mpr houter

end Grammar
end MathMarkup
