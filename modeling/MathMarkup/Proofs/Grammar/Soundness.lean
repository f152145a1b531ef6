import MathMarkup.Proofs.Grammar.Reading

/-!
# Soundness of reading

What is read from a cursor is derived by the grammar, which leaves the tokens that
are left unread.
-/

namespace MathMarkup
namespace Grammar

open Parsing

/-- Whether a category derives whatever is read for it from a cursor. -/
def SoundAt (category : Category) (c : Cursor) : Prop :=
  ∀ e d, category.read c = .ok e d → Derives category c.unread e d.unread

/-- Whether an integral is derived from the sign of an integral, the bounds that
are read from a cursor, and any integrand and differential after them. -/
def BoundsSoundAt (c : Cursor) : Prop :=
  ∀ between d, (bounds c).1 = .ok between d →
    ∀ integrand us name rest, Derives (.chain .additive) d.unread integrand us →
      EndsIntegrand integrand us name rest →
      Derives .integral (.integralSign :: c.unread)
        (.integral between.1.isSome between.1 between.2 integrand name) rest

theorem soundAt_chain {level : Level} {c : Cursor} (hfirst : SoundAt (operand level) c)
    (hlinks : ∀ left d, d.unread.length ≤ c.unread.length → SoundAt (.links level left) d) :
    SoundAt (.chain level) c := by
  intro e d h
  rw [read_chain] at h
  obtain ⟨first, c', hread, h⟩ := Reply.andThen_eq_ok_iff.mp h
  exact .chain (hfirst first c' hread) (hlinks first c' (length_unread_read_le hread) e d h)

theorem soundAt_links_nil (level : Level) (left : Expr) (i : Nat) :
    SoundAt (.links level left) ⟨i, []⟩ := by
  intro e d h
  rw [read_links_nil] at h
  obtain ⟨rfl, rfl⟩ := Reply.ok.inj h
  exact .stop

theorem soundAt_links_stop {level : Level} {t : Token} (ht : ¬level.IsOperator t)
    (left : Expr) (i : Nat) (ts : List Token) : SoundAt (.links level left) ⟨i, t :: ts⟩ := by
  intro e d h
  rw [read_links_of_not_isOperator ht] at h
  obtain ⟨rfl, rfl⟩ := Reply.ok.inj h
  exact .stop

theorem soundAt_link {level : Level} {t : Token} {i : Nat} {ts : List Token}
    {left : Expr} (ht : level.IsOperator t) (hright : SoundAt (operand level) ⟨i + 1, ts⟩)
    (hlinks : ∀ right d, d.unread.length ≤ ts.length →
      SoundAt (.links level (.binary left t right)) d) :
    SoundAt (.links level left) ⟨i, t :: ts⟩ := by
  intro e d h
  rw [read_links_of_isOperator ht] at h
  obtain ⟨right, c', hread, h⟩ := Reply.andThen_eq_ok_iff.mp h
  exact .link ht (hright right c' hread)
    (hlinks right c' (length_unread_read_le hread) e d h)

theorem soundAt_group {t : Token} {i : Nat} {ts : List Token} (ht : t.kind = .leftParen)
    (hinner : SoundAt (.chain .additive) ⟨i + 1, ts⟩) : SoundAt .primary ⟨i, t :: ts⟩ := by
  intro e d h
  rw [Category.read, val_primary_of_leftParen ht] at h
  obtain ⟨inner, c', hread, h⟩ := Reply.andThen_eq_ok_iff.mp h
  obtain ⟨closing, d', hclosing, h⟩ := Reply.andThen_eq_ok_iff.mp h
  obtain ⟨rfl, rfl⟩ := Reply.ok.inj h
  obtain ⟨hkind, hunread⟩ := expect_eq_ok hclosing
  have hderives := hinner inner c' hread
  rw [hunread] at hderives
  exact .group ht hkind hderives

theorem soundAt_integral {i : Nat} {ts : List Token} (hbounds : BoundsSoundAt ⟨i + 1, ts⟩)
    (hintegrand : ∀ d, d.unread.length ≤ ts.length → SoundAt (.chain .additive) d) :
    SoundAt .integral ⟨i, .integralSign :: ts⟩ := by
  intro e d h
  rw [Category.read, val_integral_sign] at h
  obtain ⟨between, c', hread, h⟩ := Reply.andThen_eq_ok_iff.mp h
  obtain ⟨integrand, d', hread', h⟩ := Reply.andThen_eq_ok_iff.mp h
  obtain ⟨name, e', hname, h⟩ := Reply.andThen_eq_ok_iff.mp h
  obtain ⟨rfl, rfl⟩ := Reply.ok.inj h
  have hderives := hintegrand c' (Forward.length_unread_le hread) integrand d' hread'
  cases hdiff : differential? integrand d'.unread with
  | none =>
      rw [val_differential_of_none hdiff] at hname
      cases hname
  | some found =>
      obtain ⟨name', n⟩ := found
      rw [val_differential_of_some hdiff] at hname
      obtain ⟨rfl, rfl⟩ := Reply.ok.inj hname
      exact hbounds between c' hread integrand d'.unread name' _ hderives
        (endsIntegrand_of_differential? hdiff)

theorem boundsSoundAt_absent {c : Cursor} (h : (bounds c).1 = .ok (none, none) c) :
    BoundsSoundAt c := by
  intro between d hread integrand us name rest hintegrand hname
  rw [h] at hread
  obtain ⟨rfl, rfl⟩ := Reply.ok.inj hread
  exact .indefinite hintegrand hname

theorem derives_integral_of_markers {marker marker' : Token} {ts us vs ws rest : List Token}
    {first second integrand : Expr} {name : String}
    (hmarkers : marker.kind.oppositeMarker? = some marker'.kind)
    (hfirst : Derives (.chain .additive) ts first (marker' :: us))
    (hsecond : Derives (.chain .additive) us second vs)
    (hintegrand : Derives (.chain .additive) vs integrand ws)
    (hname : EndsIntegrand integrand ws name rest) :
    Derives .integral (.integralSign :: marker :: ts)
      (.integral (boundsFrom marker.kind first second).1.isSome
        (boundsFrom marker.kind first second).1 (boundsFrom marker.kind first second).2
        integrand name) rest := by
  rcases TokenKind.oppositeMarker?_eq_some_iff.mp hmarkers with ⟨hmark, hkind⟩ | ⟨hmark, hkind⟩
  · rw [hmark, boundsFrom, if_pos rfl]
    exact .lowerFirst hmark hkind hfirst hsecond hintegrand hname
  · rw [hmark, boundsFrom, if_neg (by decide)]
    exact .upperFirst hkind hmark hfirst hsecond hintegrand hname

theorem boundsSoundAt_marker {t : Token} {opposite : TokenKind} {i : Nat} {ts : List Token}
    (ht : t.kind.oppositeMarker? = some opposite)
    (hfirst : SoundAt (.chain .additive) ⟨i + 1, ts⟩)
    (hsecond : ∀ d, d.unread.length ≤ ts.length → SoundAt (.chain .additive) d) :
    BoundsSoundAt ⟨i, t :: ts⟩ := by
  intro between d h integrand us name rest hintegrand hname
  rw [val_bounds_of_marker ht] at h
  obtain ⟨first, c', hread, h⟩ := Reply.andThen_eq_ok_iff.mp h
  obtain ⟨marker, d', hmarker, h⟩ := Reply.andThen_eq_ok_iff.mp h
  obtain ⟨second, e', hread', h⟩ := Reply.andThen_eq_ok_iff.mp h
  obtain ⟨rfl, rfl⟩ := Reply.ok.inj h
  obtain ⟨hkind, hunread⟩ := expect_eq_ok hmarker
  have hlength : d'.unread.length ≤ ts.length := by
    have hle := Forward.length_unread_le hread
    rw [hunread, List.length_cons] at hle
    exact Nat.le_trans (Nat.le_succ _) hle
  have hone := hfirst first c' hread
  rw [hunread] at hone
  have htwo := hsecond d' hlength second e' hread'
  rw [← hkind] at ht
  exact derives_integral_of_markers ht hone htwo hintegrand hname

/-- Whatever is read for a category is derived by it. -/
theorem derives_of_read {category : Category} {c d : Cursor} {e : Expr}
    (h : category.read c = .ok e d) : Derives category c.unread e d.unread := by
  have hsound : (∀ category c, SoundAt category c) ∧ ∀ c, BoundsSoundAt c := by
    apply reading_induction
    case chain => exact fun level c => soundAt_chain
    case linksEnd => exact soundAt_links_nil
    case linksStop => exact fun level left i t ts ht => soundAt_links_stop ht left i ts
    case link =>
      exact fun level left i t ts ht hright hlinks => soundAt_link ht hright hlinks
    case primaryEnd =>
      intro i e d h
      rw [Category.read, val_primary_nil] at h
      cases h
    case number =>
      rintro i ⟨kind, text⟩ ts rfl e d h
      rw [Category.read, val_primary_of_number rfl] at h
      obtain ⟨rfl, rfl⟩ := Reply.ok.inj h
      exact .number text ts
    case letter =>
      rintro i ⟨kind, text⟩ ts rfl e d h
      rw [Category.read, val_primary_of_letter rfl] at h
      obtain ⟨rfl, rfl⟩ := Reply.ok.inj h
      exact .var text ts
    case group => exact fun i t ts => soundAt_group
    case other =>
      intro i t ts hnumber hletter hparen hintegral e d h
      rw [Category.read, val_primary_of_other hnumber hletter hparen] at h
      exact .integral (hintegral e d h)
    case integralEnd =>
      intro i e d h
      rw [Category.read, val_integral_nil] at h
      cases h
    case integral => exact fun i ts => soundAt_integral
    case noIntegral =>
      intro i t ts ht e d h
      rw [Category.read, val_integral_of_ne ht] at h
      cases h
    case boundsEnd => exact fun i => boundsSoundAt_absent (val_bounds_nil i)
    case noBounds => exact fun i t ts ht => boundsSoundAt_absent (val_bounds_of_not_marker ht i ts)
    case someBounds => exact fun i t ts opposite => boundsSoundAt_marker
  exact hsound.1 category c e d h

end Grammar
end MathMarkup
