import MathMarkup.Expr.WellFormed
import MathMarkup.Proofs.Grammar.Reading

/-!
# The shape of derived expressions

Every expression that the grammar derives is shaped at all of its nodes, and its
texts are texts of the tokens.
-/

namespace MathMarkup
namespace Grammar

/-- Whether an expression may be a chain of a level, judged by its root. -/
def FitsLevel : Level → Expr → Prop
  | .additive, _ => True
  | .multiplicative, e => ¬e.IsBinaryOf .additive

theorem fitsLevel_of_not_isBinary {e : Expr} (h : ¬e.IsBinary) (level : Level) :
    FitsLevel level e := by
  cases level with
  | additive => trivial
  | multiplicative =>
      cases e with
      | binary left operator right => exact absurd trivial h
      | _ => exact id

theorem fitsLevel_binary {level : Level} {operator : Token} (h : level.IsOperator operator)
    (left right : Expr) : FitsLevel level (.binary left operator right) := by
  cases level with
  | additive => trivial
  | multiplicative => exact fun hadditive => hadditive.not_multiplicative h

/-- Whether an expression is shaped, and its root is one that the category may
derive.  For the rest of a chain this depends on the part before it. -/
def Category.Shapes : Category → Expr → Prop
  | .chain level, e => e.Shaped ∧ FitsLevel level e
  | .links level left, e => left.Shaped ∧ FitsLevel level left → e.Shaped ∧ FitsLevel level e
  | .primary, e => e.Shaped ∧ ¬e.IsBinary
  | .integral, e => e.Shaped ∧ ¬e.IsBinary

theorem shaped_of_operand {level : Level} {e : Expr} (h : (operand level).Shapes e) :
    e.Shaped ∧ FitsLevel level e := by
  cases level with
  | additive => exact ⟨h.1, trivial⟩
  | multiplicative => exact ⟨h.1, fitsLevel_of_not_isBinary h.2 .multiplicative⟩

theorem shaped_link {level : Level} {operator : Token} {left right : Expr}
    (hoperator : level.IsOperator operator) (hleft : left.Shaped ∧ FitsLevel level left)
    (hright : (operand level).Shapes right) :
    (Expr.binary left operator right).Shaped ∧
      FitsLevel level (.binary left operator right) := by
  have hjoin : Expr.MayJoin level left right := by
    cases level with
    | additive => exact hright.2
    | multiplicative => exact ⟨hleft.2, hright.2⟩
  have hshaped : right.Shaped := (shaped_of_operand hright).1
  exact ⟨⟨⟨level, hoperator, hjoin⟩, hleft.1, hshaped⟩, fitsLevel_binary hoperator left right⟩

theorem Derives.shapes {category : Category} {ts rest : List Token} {e : Expr}
    (h : Derives category ts e rest) : category.Shapes e := by
  induction h with
  | chain _ _ ihfirst ihlinks => exact ihlinks (shaped_of_operand ihfirst)
  | stop => exact id
  | link hoperator _ _ ihright ihlinks =>
      exact fun hleft => ihlinks (shaped_link hoperator hleft ihright)
  | number => exact ⟨trivial, id⟩
  | var => exact ⟨trivial, id⟩
  | group hopening hclosing _ ih => exact ⟨⟨⟨hopening, hclosing⟩, ih.1⟩, id⟩
  | integral _ ih => exact ih
  | indefinite _ _ ih => exact ⟨⟨⟨rfl, rfl⟩, trivial, trivial, ih.1⟩, id⟩
  | lowerFirst _ _ _ _ _ _ ihlower ihupper ih =>
      exact ⟨⟨⟨rfl, rfl⟩, ihlower.1, ihupper.1, ih.1⟩, id⟩
  | upperFirst _ _ _ _ _ _ ihupper ihlower ih =>
      exact ⟨⟨⟨rfl, rfl⟩, ihlower.1, ihupper.1, ih.1⟩, id⟩

def Spelled (e : Expr) : Prop :=
  e.Every Expr.IsSpelled

/-- Whether all texts of an expression are lexemes, those of the part before the
rest of a chain being taken for granted. -/
def Category.Spells : Category → Expr → Prop
  | .links _ left, e => Spelled left → Spelled e
  | _, e => Spelled e

theorem spelled_of_operand {level : Level} {e : Expr} (h : (operand level).Spells e) :
    Spelled e := by
  cases level with
  | additive => exact h
  | multiplicative => exact h

theorem EndsIntegrand.spelled {integrand : Expr} {ts rest : List Token} {name : String}
    (h : EndsIntegrand integrand ts name rest) (hintegrand : Spelled integrand)
    (hts : ∀ t ∈ ts, t.IsLexeme) :
    IsLetterText name.toList ∧ ∀ t ∈ rest, t.IsLexeme := by
  cases h with
  | spacedMark =>
      have hname := hts ⟨.letter, name⟩ (by simp)
      exact ⟨hname, fun t ht => hts t (by simp [ht])⟩
  | spaced =>
      have hname := hts ⟨.letter, name⟩ (by simp)
      exact ⟨hname, fun t ht => hts t (by simp [ht])⟩
  | mark =>
      have hname := hts ⟨.letter, name⟩ (by simp)
      exact ⟨hname, fun t ht => hts t (by simp [ht])⟩
  | unwritten _ _ hvar =>
      subst hvar
      exact ⟨hintegrand, hts⟩

theorem Derives.spells {category : Category} {ts rest : List Token} {e : Expr}
    (h : Derives category ts e rest) (hts : ∀ t ∈ ts, t.IsLexeme) :
    category.Spells e ∧ ∀ t ∈ rest, t.IsLexeme := by
  induction h with
  | chain _ _ ihfirst ihlinks =>
      obtain ⟨hfirst, hus⟩ := ihfirst hts
      obtain ⟨hlinks, hrest⟩ := ihlinks hus
      exact ⟨hlinks (spelled_of_operand hfirst), hrest⟩
  | stop => exact ⟨id, hts⟩
  | @link level operator _ _ _ left right _ _ _ _ ihright ihlinks =>
      have hoperator : operator.IsLexeme := hts operator (by simp)
      obtain ⟨hright, hus⟩ := ihright fun t ht => hts t (by simp [ht])
      obtain ⟨hlinks, hrest⟩ := ihlinks hus
      exact ⟨fun hleft => hlinks ⟨hoperator, hleft, spelled_of_operand hright⟩, hrest⟩
  | number text rest =>
      exact ⟨hts ⟨.number, text⟩ (by simp), fun t ht => hts t (by simp [ht])⟩
  | var name rest =>
      exact ⟨hts ⟨.letter, name⟩ (by simp), fun t ht => hts t (by simp [ht])⟩
  | @group opening closing _ _ _ _ _ _ ih =>
      have hopening : opening.IsLexeme := hts opening (by simp)
      obtain ⟨hinner, hrest⟩ := ih fun t ht => hts t (by simp [ht])
      have hclosing : closing.IsLexeme := hrest closing (by simp)
      exact ⟨⟨⟨hopening, hclosing⟩, hinner⟩, fun t ht => hrest t (by simp [ht])⟩
  | integral _ ih => exact ih hts
  | indefinite _ hname ih =>
      obtain ⟨hintegrand, hus⟩ := ih fun t ht => hts t (by simp [ht])
      obtain ⟨hletter, hrest⟩ := hname.spelled hintegrand hus
      exact ⟨⟨hletter, trivial, trivial, hintegrand⟩, hrest⟩
  | lowerFirst _ _ _ _ _ hname ihlower ihupper ih =>
      obtain ⟨hlower, hus⟩ := ihlower fun t ht => hts t (by simp [ht])
      obtain ⟨hupper, hvs⟩ := ihupper fun t ht => hus t (by simp [ht])
      obtain ⟨hintegrand, hws⟩ := ih hvs
      obtain ⟨hletter, hrest⟩ := hname.spelled hintegrand hws
      exact ⟨⟨hletter, hlower, hupper, hintegrand⟩, hrest⟩
  | upperFirst _ _ _ _ _ hname ihupper ihlower ih =>
      obtain ⟨hupper, hus⟩ := ihupper fun t ht => hts t (by simp [ht])
      obtain ⟨hlower, hvs⟩ := ihlower fun t ht => hus t (by simp [ht])
      obtain ⟨hintegrand, hws⟩ := ih hvs
      obtain ⟨hletter, hrest⟩ := hname.spelled hintegrand hws
      exact ⟨⟨hletter, hlower, hupper, hintegrand⟩, hrest⟩

/-- An expression that is derived from lexemes is well formed. -/
theorem wellFormed_of_accepts {tokens : List Token} {e : Expr} (h : Accepts tokens e)
    (htokens : ∀ t ∈ tokens, t.IsLexeme) : e.WellFormed :=
  (Expr.every_and e).mpr ⟨(Derives.shapes h).1, (Derives.spells h htokens).1⟩

end Grammar
end MathMarkup
