import MathMarkup.Parsing.Bounded
import MathMarkup.Proofs.Grammar.Reading

/-!
# Bounded reading does not break down

The depth of calls that reading needs depends on the tokens that are unread where a
call is made and on its place among the calls made at one cursor.
-/

namespace MathMarkup
namespace Grammar

open Parsing

/-- A bound on the depth of calls in reading a category from a number of tokens. -/
def Category.depth : Category → Nat → Nat
  | .chain level, length => 8 * length + rank level + 3
  | .links level _, length => 8 * length + rank level
  | .primary, length => 8 * length + 1
  | .integral, length => 8 * length

theorem rank_le (level : Level) : rank level ≤ 2 := by
  cases level with
  | additive => exact Nat.le_refl _
  | multiplicative => exact Nat.zero_le _

theorem depth_lt (category : Category) (length : Nat) :
    category.depth length < 8 * (length + 1) := by
  cases category with
  | chain level =>
      have hrank := rank_le level
      simp only [Category.depth]
      omega
  | links level left =>
      have hrank := rank_le level
      simp only [Category.depth]
      omega
  | primary =>
      simp only [Category.depth]
      omega
  | integral =>
      simp only [Category.depth]
      omega

/-- Whether bounded reading of a category from a cursor is reading it, as soon as the
bound is above the depth of its calls. -/
def AdequateAt : Category → Cursor → Prop
  | .chain level, c => ∀ n, (Category.chain level).depth c.unread.length < n →
      Bounded.binary n level c = .ok ((Category.chain level).read c)
  | .links level left, c => ∀ n, (Category.links level left).depth c.unread.length < n →
      ∀ (first : Expr) (operators : List Token) (operands : List Expr),
        operators.length = operands.length → first.foldLinks operators operands = left →
        Bounded.collect n level first operators operands c =
          .ok ((Category.links level left).read c)
  | .primary, c => ∀ n, Category.primary.depth c.unread.length < n →
      Bounded.primary n c = .ok (Category.primary.read c)
  | .integral, c => ∀ n, Category.integral.depth c.unread.length < n →
      Bounded.integral n c = .ok (Category.integral.read c)

def BoundsAdequateAt (c : Cursor) : Prop :=
  ∀ n, 8 * c.unread.length < n → Bounded.bounds n c = .ok (bounds c).1

theorem fold_eq {first : Expr} {operators : List Token} {operands : List Expr}
    (h : operators.length = operands.length) (c : Cursor) :
    Bounded.fold first operators operands c = .ok (.ok (first.foldLinks operators operands) c) := by
  rw [Bounded.fold, Expr.ofChain?_eq_foldLinks h]

theorem operand_eq {level : Level} {c : Cursor} (h : AdequateAt (operand level) c) {n : Nat}
    (hn : 8 * c.unread.length + rank level + 2 < n) :
    Bounded.operand n level c = .ok ((operand level).read c) := by
  obtain ⟨n, rfl⟩ := Nat.exists_eq_add_one_of_ne_zero (Nat.ne_zero_of_lt hn)
  cases level with
  | additive =>
      have hdepth : (Category.chain .multiplicative).depth c.unread.length < n := by
        simp only [Category.depth, rank] at hn ⊢
        omega
      exact h n hdepth
  | multiplicative =>
      have hdepth : Category.primary.depth c.unread.length < n := by
        simp only [Category.depth, rank] at hn ⊢
        omega
      exact h n hdepth

theorem adequateAt_chain {level : Level} {c : Cursor} (hfirst : AdequateAt (operand level) c)
    (hlinks : ∀ left d, d.unread.length ≤ c.unread.length → AdequateAt (.links level left) d) :
    AdequateAt (.chain level) c := by
  intro n hn
  obtain ⟨n, rfl⟩ := Nat.exists_eq_add_one_of_ne_zero (Nat.ne_zero_of_lt hn)
  simp only [Category.depth] at hn
  rw [Bounded.binary, read_chain]
  refine Bounded.andThen_eq_ok (operand_eq hfirst (by omega)) fun first d hread => ?_
  have hlength := length_unread_read_le hread
  have hdepth : (Category.links level first).depth d.unread.length < n := by
    simp only [Category.depth]
    omega
  exact hlinks first d hlength n hdepth first [] [] rfl rfl

theorem adequateAt_link {level : Level} {t : Token} {i : Nat} {ts : List Token} {left : Expr}
    (ht : level.IsOperator t) (hright : AdequateAt (operand level) ⟨i + 1, ts⟩)
    (hlinks : ∀ right d, d.unread.length ≤ ts.length →
      AdequateAt (.links level (.binary left t right)) d) :
    AdequateAt (.links level left) ⟨i, t :: ts⟩ := by
  intro n hn first operators operands heven hleft
  obtain ⟨n, rfl⟩ := Nat.exists_eq_add_one_of_ne_zero (Nat.ne_zero_of_lt hn)
  simp only [Category.depth, List.length_cons] at hn
  rw [Bounded.collect, if_pos ht, read_links_of_isOperator ht]
  have hfirst : 8 * ts.length + rank level + 2 < n := by omega
  refine Bounded.andThen_eq_ok (operand_eq hright hfirst) fun right d hread => ?_
  have hlength : d.unread.length ≤ ts.length := length_unread_read_le hread
  have hdepth : (Category.links level (.binary left t right)).depth d.unread.length < n := by
    simp only [Category.depth]
    omega
  have hlonger : (operators ++ [t]).length = (operands ++ [right]).length := by simp [heven]
  have hfold : first.foldLinks (operators ++ [t]) (operands ++ [right]) =
      .binary left t right := by
    rw [Expr.foldLinks_append heven, hleft, Expr.foldLinks, Expr.foldLinks]
    simp
  exact hlinks right d hlength n hdepth first _ _ hlonger hfold

theorem adequateAt_links_nil (level : Level) (left : Expr) (i : Nat) :
    AdequateAt (.links level left) ⟨i, []⟩ := by
  intro n hn first operators operands heven hleft
  obtain ⟨n, rfl⟩ := Nat.exists_eq_add_one_of_ne_zero (Nat.ne_zero_of_lt hn)
  rw [Bounded.collect, fold_eq heven, hleft, read_links_nil]

theorem adequateAt_links_stop {level : Level} {t : Token} (ht : ¬level.IsOperator t)
    (left : Expr) (i : Nat) (ts : List Token) : AdequateAt (.links level left) ⟨i, t :: ts⟩ := by
  intro n hn first operators operands heven hleft
  obtain ⟨n, rfl⟩ := Nat.exists_eq_add_one_of_ne_zero (Nat.ne_zero_of_lt hn)
  rw [Bounded.collect, if_neg ht, fold_eq heven, hleft, read_links_of_not_isOperator ht]

theorem adequateAt_group {t : Token} {i : Nat} {ts : List Token} (ht : t.kind = .leftParen)
    (hinner : AdequateAt (.chain .additive) ⟨i + 1, ts⟩) : AdequateAt .primary ⟨i, t :: ts⟩ := by
  intro n hn
  obtain ⟨n, rfl⟩ := Nat.exists_eq_add_one_of_ne_zero (Nat.ne_zero_of_lt hn)
  have hnumber : ¬t.kind = .number := by simp [ht]
  have hletter : ¬t.kind = .letter := by simp [ht]
  simp only [Category.depth, List.length_cons] at hn
  have hdepth : (Category.chain .additive).depth ts.length < n := by
    simp only [Category.depth, rank]
    omega
  rw [Bounded.primary, if_neg hnumber, if_neg hletter, if_pos ht, Category.read,
    val_primary_of_leftParen ht]
  exact Bounded.andThen_eq_ok (hinner n hdepth) fun inner d _ =>
    Bounded.andThen_eq_ok rfl fun closing e _ => rfl

theorem adequateAt_other {t : Token} {i : Nat} {ts : List Token} (hnumber : t.kind ≠ .number)
    (hletter : t.kind ≠ .letter) (hparen : t.kind ≠ .leftParen)
    (hintegral : AdequateAt .integral ⟨i, t :: ts⟩) : AdequateAt .primary ⟨i, t :: ts⟩ := by
  intro n hn
  obtain ⟨n, rfl⟩ := Nat.exists_eq_add_one_of_ne_zero (Nat.ne_zero_of_lt hn)
  rw [Bounded.primary, if_neg hnumber, if_neg hletter, if_neg hparen, Category.read,
    val_primary_of_other hnumber hletter hparen]
  exact hintegral n (Nat.lt_of_succ_lt_succ hn)

theorem adequateAt_integral {i : Nat} {ts : List Token} (hbounds : BoundsAdequateAt ⟨i + 1, ts⟩)
    (hintegrand : ∀ d, d.unread.length ≤ ts.length → AdequateAt (.chain .additive) d) :
    AdequateAt .integral ⟨i, .integralSign :: ts⟩ := by
  intro n hn
  obtain ⟨n, rfl⟩ := Nat.exists_eq_add_one_of_ne_zero (Nat.ne_zero_of_lt hn)
  simp only [Category.depth, List.length_cons] at hn
  have hdepth : 8 * ts.length < n := by omega
  rw [Bounded.integral, if_pos rfl, Category.read, val_integral_sign]
  refine Bounded.andThen_eq_ok (hbounds n hdepth) fun between d hread => ?_
  have hlength : d.unread.length ≤ ts.length := Forward.length_unread_le hread
  have hdepth' : (Category.chain .additive).depth d.unread.length < n := by
    simp only [Category.depth, rank]
    omega
  exact Bounded.andThen_eq_ok (hintegrand d hlength n hdepth') fun integrand e _ =>
    Bounded.andThen_eq_ok rfl fun name f _ => rfl

theorem boundsAdequateAt_marker {t : Token} {opposite : TokenKind} {i : Nat} {ts : List Token}
    (ht : t.kind.oppositeMarker? = some opposite)
    (hfirst : AdequateAt (.chain .additive) ⟨i + 1, ts⟩)
    (hsecond : ∀ d, d.unread.length ≤ ts.length → AdequateAt (.chain .additive) d) :
    BoundsAdequateAt ⟨i, t :: ts⟩ := by
  intro n hn
  obtain ⟨n, rfl⟩ := Nat.exists_eq_add_one_of_ne_zero (Nat.ne_zero_of_lt hn)
  simp only [List.length_cons] at hn
  have hdepth (length : Nat) (hle : length ≤ ts.length) :
      (Category.chain .additive).depth length < n := by
    simp only [Category.depth, rank]
    omega
  rw [Bounded.bounds, ht, val_bounds_of_marker ht]
  refine Bounded.andThen_eq_ok (hfirst n (hdepth _ (Nat.le_refl _))) fun first d hread => ?_
  refine Bounded.andThen_eq_ok rfl fun marker e hmarker => ?_
  have hlength : e.unread.length ≤ ts.length :=
    Nat.le_trans (Forward.length_unread_le hmarker) (Forward.length_unread_le hread)
  exact Bounded.andThen_eq_ok (hsecond e hlength n (hdepth _ hlength)) fun second f _ => rfl

theorem adequateAt (category : Category) (c : Cursor) : AdequateAt category c := by
  have hadequate : (∀ category c, AdequateAt category c) ∧ ∀ c, BoundsAdequateAt c := by
    apply reading_induction
    case chain => exact fun level c => adequateAt_chain
    case linksEnd => exact adequateAt_links_nil
    case linksStop => exact fun level left i t ts ht => adequateAt_links_stop ht left i ts
    case link =>
      exact fun level left i t ts ht hright hlinks => adequateAt_link ht hright hlinks
    case primaryEnd =>
      intro i n hn
      obtain ⟨n, rfl⟩ := Nat.exists_eq_add_one_of_ne_zero (Nat.ne_zero_of_lt hn)
      rw [Bounded.primary, Category.read, val_primary_nil]
    case number =>
      intro i t ts ht n hn
      obtain ⟨n, rfl⟩ := Nat.exists_eq_add_one_of_ne_zero (Nat.ne_zero_of_lt hn)
      rw [Bounded.primary, if_pos ht, Category.read, val_primary_of_number ht]
    case letter =>
      intro i t ts ht n hn
      have hnumber : ¬t.kind = .number := by simp [ht]
      obtain ⟨n, rfl⟩ := Nat.exists_eq_add_one_of_ne_zero (Nat.ne_zero_of_lt hn)
      rw [Bounded.primary, if_neg hnumber, if_pos ht, Category.read, val_primary_of_letter ht]
    case group => exact fun i t ts => adequateAt_group
    case other => exact fun i t ts => adequateAt_other
    case integralEnd =>
      intro i n hn
      obtain ⟨n, rfl⟩ := Nat.exists_eq_add_one_of_ne_zero (Nat.ne_zero_of_lt hn)
      rw [Bounded.integral, Category.read, val_integral_nil]
    case integral => exact fun i ts => adequateAt_integral
    case noIntegral =>
      intro i t ts ht n hn
      obtain ⟨n, rfl⟩ := Nat.exists_eq_add_one_of_ne_zero (Nat.ne_zero_of_lt hn)
      rw [Bounded.integral, if_neg ht, Category.read, val_integral_of_ne ht]
    case boundsEnd =>
      intro i n hn
      obtain ⟨n, rfl⟩ := Nat.exists_eq_add_one_of_ne_zero (Nat.ne_zero_of_lt hn)
      rw [Bounded.bounds, val_bounds_nil]
    case noBounds =>
      intro i t ts ht n hn
      obtain ⟨n, rfl⟩ := Nat.exists_eq_add_one_of_ne_zero (Nat.ne_zero_of_lt hn)
      rw [Bounded.bounds, ht, val_bounds_of_not_marker ht]
    case someBounds => exact fun i t ts opposite => boundsAdequateAt_marker
  exact hadequate.1 category c

end Grammar

/-- Any bound that grows with the unread tokens is enough to read a phrase. -/
theorem Phrase.readWithin_eq_ok (phrase : Phrase) {c : Cursor} {n : Nat}
    (hn : 8 * (c.unread.length + 1) ≤ n) : phrase.readWithin n c = .ok (phrase.read c) := by
  have hdepth (category : Grammar.Category) : category.depth c.unread.length < n :=
    Nat.lt_of_lt_of_le (Grammar.depth_lt category _) hn
  cases phrase with
  | binary level => exact Grammar.adequateAt (.chain level) c n (hdepth _)
  | primary => exact Grammar.adequateAt .primary c n (hdepth _)
  | integral => exact Grammar.adequateAt .integral c n (hdepth _)

end MathMarkup
