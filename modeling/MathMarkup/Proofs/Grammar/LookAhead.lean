import MathMarkup.Proofs.Grammar.Completeness

/-!
# What a derivation looks at

A derivation looks at no more than one token after those that it takes, and only to
decide about a differential.
-/

namespace MathMarkup
namespace Grammar

open Parsing

/-- Induction on a derivation in which the two orders of bounds are one case. -/
@[elab_as_elim]
theorem Derives.induction_markers
    {motive : ∀ {category : Category} {ts : List Token} {e : Expr} {rest : List Token},
      Derives category ts e rest → Prop}
    (chain : ∀ {level : Level} {ts us vs : List Token} {first e : Expr}
      (hfirst : Derives (operand level) ts first us) (hlinks : Derives (.links level first) us e vs),
      motive hfirst → motive hlinks → motive (.chain hfirst hlinks))
    (stop : ∀ {level : Level} {ts : List Token} {left : Expr},
      motive (Derives.stop : Derives (.links level left) ts left ts))
    (link : ∀ {level : Level} {operator : Token} {ts us vs : List Token} {left right e : Expr}
      (hoperator : level.IsOperator operator) (hright : Derives (operand level) ts right us)
      (hlinks : Derives (.links level (.binary left operator right)) us e vs),
      motive hright → motive hlinks → motive (.link hoperator hright hlinks))
    (number : ∀ (text : String) (rest : List Token), motive (.number text rest))
    (var : ∀ (name : String) (rest : List Token), motive (.var name rest))
    (group : ∀ {opening closing : Token} {ts rest : List Token} {inner : Expr}
      (hopening : opening.kind = .leftParen) (hclosing : closing.kind = .rightParen)
      (hinner : Derives (.chain .additive) ts inner (closing :: rest)),
      motive hinner → motive (.group hopening hclosing hinner))
    (integral : ∀ {ts rest : List Token} {e : Expr} (h : Derives .integral ts e rest),
      motive h → motive (.integral h))
    (indefinite : ∀ {ts us rest : List Token} {integrand : Expr} {name : String}
      (hintegrand : Derives (.chain .additive) ts integrand us)
      (hname : EndsIntegrand integrand us name rest),
      motive hintegrand → motive (.indefinite hintegrand hname))
    (definite : ∀ {marker marker' : Token} {ts us vs ws rest : List Token}
      {first second integrand : Expr} {name : String}
      (hmarkers : marker.kind.oppositeMarker? = some marker'.kind)
      (hfirst : Derives (.chain .additive) ts first (marker' :: us))
      (hsecond : Derives (.chain .additive) us second vs)
      (hintegrand : Derives (.chain .additive) vs integrand ws)
      (hname : EndsIntegrand integrand ws name rest),
      motive hfirst → motive hsecond → motive hintegrand →
        motive (derives_integral_of_markers hmarkers hfirst hsecond hintegrand hname))
    {category : Category} {ts : List Token} {e : Expr} {rest : List Token}
    (h : Derives category ts e rest) : motive h := by
  induction h with
  | chain hfirst hlinks ihfirst ihlinks => exact chain hfirst hlinks ihfirst ihlinks
  | stop => exact stop
  | link hoperator hright hlinks ihright ihlinks =>
      exact link hoperator hright hlinks ihright ihlinks
  | number text rest => exact number text rest
  | var name rest => exact var name rest
  | group hopening hclosing hinner ih => exact group hopening hclosing hinner ih
  | integral h ih => exact integral h ih
  | indefinite hintegrand hname ih => exact indefinite hintegrand hname ih
  | @lowerFirst sub sup _ _ _ _ _ _ _ _ _ hsub hsup hlower hupper hintegrand hname ihlower ihupper
      ih =>
      obtain ⟨subKind, subText⟩ := sub
      obtain ⟨supKind, supText⟩ := sup
      obtain rfl : subKind = .subscript := hsub
      obtain rfl : supKind = .superscript := hsup
      exact definite rfl hlower hupper hintegrand hname ihlower ihupper ih
  | @upperFirst sub sup _ _ _ _ _ _ _ _ _ hsub hsup hupper hlower hintegrand hname ihupper ihlower
      ih =>
      obtain ⟨subKind, subText⟩ := sub
      obtain ⟨supKind, supText⟩ := sup
      obtain rfl : subKind = .subscript := hsub
      obtain rfl : supKind = .superscript := hsup
      exact definite rfl hupper hlower hintegrand hname ihupper ihlower ih

/-! ## Tokens that a derivation may end before -/

/-- Whether every derivation that may end before `ts` may end before `us`. -/
def EndsAlike (ts us : List Token) : Prop :=
  (EndsIntegral ts → EndsIntegral us) ∧ (StartsWithLetter us → StartsWithLetter ts)

theorem endsAlike_nil (ts : List Token) : EndsAlike ts [] := by
  refine ⟨fun _ => trivial, ?_⟩
  rintro ⟨name, rest, hnil⟩
  cases hnil

theorem endsAlike_of_head?_eq {ts us : List Token} (h : ts.head? = us.head?) :
    EndsAlike ts us := by
  cases ts with
  | nil =>
      obtain rfl := List.head?_eq_none_iff.mp h.symm
      exact endsAlike_nil []
  | cons t ts =>
      obtain ⟨us, rfl⟩ := List.head?_eq_some_iff.mp h.symm
      refine ⟨id, ?_⟩
      rintro ⟨name, rest, hcons⟩
      obtain ⟨rfl, -⟩ := List.cons.inj hcons
      exact ⟨name, ts, rfl⟩

theorem endsAlike_cons (t : Token) (ts us : List Token) : EndsAlike (t :: ts) (t :: us) :=
  endsAlike_of_head?_eq rfl

theorem EndsAlike.append {ts us : List Token} (h : EndsAlike ts us) (consumed : List Token) :
    EndsAlike (consumed ++ ts) (consumed ++ us) := by
  cases consumed with
  | nil => exact h
  | cons t consumed => exact endsAlike_cons t _ _

/-! ## Replacing the tokens after a derivation -/

theorem EndsIntegrand.exists_consumed {integrand : Expr} {ts rest : List Token} {name : String}
    (h : EndsIntegrand integrand ts name rest) :
    ∃ consumed, ts = consumed ++ rest ∧
      ∀ us, EndsAlike rest us → EndsIntegrand integrand (consumed ++ us) name us := by
  cases h with
  | spacedMark =>
      exact ⟨[.thinSpace, .differential, ⟨.letter, name⟩], rfl, fun us _ => .spacedMark name us⟩
  | spaced _ _ hname =>
      refine ⟨[.thinSpace, ⟨.letter, name⟩], rfl, fun us hus => .spaced name us ?_⟩
      exact hname.imp_right (mt hus.2)
  | mark => exact ⟨[.differential, ⟨.letter, name⟩], rfl, fun us _ => .mark name us⟩
  | unwritten _ _ hvar hends =>
      exact ⟨[], rfl, fun us hus => .unwritten name us hvar (hus.1 hends)⟩

/-- A derivation takes the tokens before its rest, and derives the same from
them before any other rest on which it may end. -/
theorem Derives.exists_consumed {category : Category} {ts rest : List Token} {e : Expr}
    (h : Derives category ts e rest) :
    ∃ consumed, ts = consumed ++ rest ∧
      ∀ us, EndsAlike rest us → Derives category (consumed ++ us) e us := by
  induction h using Derives.induction_markers with
  | chain _ _ ihfirst ihlinks =>
      obtain ⟨front, rfl, hfirst⟩ := ihfirst
      obtain ⟨back, rfl, hlinks⟩ := ihlinks
      refine ⟨front ++ back, (List.append_assoc ..).symm, fun us hus => ?_⟩
      rw [List.append_assoc]
      exact .chain (hfirst _ (hus.append back)) (hlinks us hus)
  | stop => exact ⟨[], rfl, fun us _ => .stop⟩
  | @link _ operator _ _ _ _ _ _ hoperator _ _ ihright ihlinks =>
      obtain ⟨front, rfl, hright⟩ := ihright
      obtain ⟨back, rfl, hlinks⟩ := ihlinks
      refine ⟨operator :: (front ++ back), by simp, fun us hus => ?_⟩
      rw [List.cons_append, List.append_assoc]
      exact .link hoperator (hright _ (hus.append back)) (hlinks us hus)
  | number text => exact ⟨[⟨.number, text⟩], rfl, fun us _ => .number text us⟩
  | var name => exact ⟨[⟨.letter, name⟩], rfl, fun us _ => .var name us⟩
  | @group opening closing _ _ _ hopening hclosing _ ih =>
      obtain ⟨inside, rfl, hinner⟩ := ih
      refine ⟨opening :: (inside ++ [closing]), by simp, fun us _ => ?_⟩
      rw [List.cons_append, List.append_assoc]
      exact .group hopening hclosing (hinner _ (endsAlike_cons closing _ us))
  | integral _ ih =>
      obtain ⟨consumed, rfl, h⟩ := ih
      exact ⟨consumed, rfl, fun us hus => .integral (h us hus)⟩
  | indefinite _ hname ih =>
      obtain ⟨front, rfl, hintegrand⟩ := ih
      obtain ⟨back, rfl, hends⟩ := hname.exists_consumed
      refine ⟨.integralSign :: (front ++ back), by simp, fun us hus => ?_⟩
      rw [List.cons_append, List.append_assoc]
      exact .indefinite (hintegrand _ (hus.append back)) (hends us hus)
  | @definite marker marker' _ _ _ _ _ _ _ _ _ hmarkers _ _ _ hname ihfirst ihsecond ih =>
      obtain ⟨first, rfl, hfirst⟩ := ihfirst
      obtain ⟨second, rfl, hsecond⟩ := ihsecond
      obtain ⟨front, rfl, hintegrand⟩ := ih
      obtain ⟨back, rfl, hends⟩ := hname.exists_consumed
      refine ⟨.integralSign :: marker :: (first ++ marker' :: (second ++ (front ++ back))), by simp,
        fun us hus => ?_⟩
      simp only [List.cons_append, List.append_assoc]
      exact derives_integral_of_markers hmarkers (hfirst _ (endsAlike_cons marker' _ _))
        (hsecond _ ((hus.append back).append front)) (hintegrand _ (hus.append back)) (hends us hus)

theorem Derives.endsAlike {category : Category} {consumed rest us : List Token} {e : Expr}
    (h : Derives category (consumed ++ rest) e rest) (hus : EndsAlike rest us) :
    Derives category (consumed ++ us) e us := by
  obtain ⟨consumed', heq, hderives⟩ := h.exists_consumed
  obtain rfl := List.append_cancel_right heq
  exact hderives us hus

end Grammar
end MathMarkup
