import MathMarkup.Expr.WellFormed
import MathMarkup.Grammar.Derivation

/-!
# The tokens of a printed expression

The grammar derives every shaped expression from its canonical token list, whatever
tokens come after it.
-/

namespace MathMarkup

namespace Expr

/-- The tokens that the printed form of an expression is meant to denote. -/
def tokens : Expr → List Token
  | number text => [⟨.number, text⟩]
  | var name => [⟨.letter, name⟩]
  | binary left operator right => left.tokens ++ operator :: right.tokens
  | group opening inner closing => opening :: inner.tokens ++ [closing]
  | integral _ lower upper integrand name =>
      .integralSign :: boundTokens ⟨.subscript, "_"⟩ lower ++
        boundTokens ⟨.superscript, "^"⟩ upper ++ integrand.tokens ++
        [.thinSpace, .differential, ⟨.letter, name⟩]
where
  boundTokens (marker : Token) : Option Expr → List Token
    | none => []
    | some e => marker :: e.tokens

end Expr

namespace Grammar

theorem derives_chain_of_operand {level : Level} {ts rest : List Token} {e : Expr}
    (h : Derives (operand level) ts e rest) : Derives (.chain level) ts e rest :=
  .chain h .stop

theorem derives_links_append {level : Level} {operator : Token} {ts us rest : List Token}
    {left e right : Expr} (h : Derives (.links level left) ts e (operator :: us))
    (hoperator : level.IsOperator operator) (hright : Derives (operand level) us right rest) :
    Derives (.links level left) ts (.binary e operator right) rest := by
  generalize hcategory : Category.links level left = category at h
  generalize hrest : operator :: us = vs at h
  induction h generalizing left with
  | stop =>
      obtain ⟨rfl, rfl⟩ := Category.links.inj hcategory
      subst hrest
      exact .link hoperator hright .stop
  | link hfirst hoperand _ _ ih =>
      obtain ⟨rfl, rfl⟩ := Category.links.inj hcategory
      exact .link hfirst hoperand (ih rfl hrest)
  | _ => cases hcategory

theorem derives_chain_append {level : Level} {operator : Token} {ts us rest : List Token}
    {left right : Expr} (h : Derives (.chain level) ts left (operator :: us))
    (hoperator : level.IsOperator operator) (hright : Derives (operand level) us right rest) :
    Derives (.chain level) ts (.binary left operator right) rest := by
  cases h with
  | chain hfirst hlinks =>
      exact .chain hfirst (derives_links_append hlinks hoperator hright)

/-- Whether every category that the root of an expression fits derives it from its tokens. -/
def Rebuilds (e : Expr) : Prop :=
  ∀ rest, (¬e.IsBinary → Derives .primary (e.tokens ++ rest) e rest) ∧
    (¬e.IsBinaryOf .additive → Derives (.chain .multiplicative) (e.tokens ++ rest) e rest) ∧
    Derives (.chain .additive) (e.tokens ++ rest) e rest

theorem rebuilds_of_primary {e : Expr}
    (h : ∀ rest, Derives .primary (e.tokens ++ rest) e rest) : Rebuilds e := by
  intro rest
  have hmultiplicative : Derives (.chain .multiplicative) (e.tokens ++ rest) e rest :=
    derives_chain_of_operand (h rest)
  have hadditive : Derives (.chain .additive) (e.tokens ++ rest) e rest :=
    derives_chain_of_operand hmultiplicative
  exact ⟨fun _ => h rest, fun _ => hmultiplicative, hadditive⟩

theorem rebuilds_binary {level : Level} {left right : Expr} {operator : Token}
    (hoperator : level.IsOperator operator) (hjoin : Expr.MayJoin level left right)
    (hleft : Rebuilds left) (hright : Rebuilds right) :
    Rebuilds (.binary left operator right) := by
  intro rest
  have htokens : (Expr.binary left operator right).tokens ++ rest =
      left.tokens ++ operator :: (right.tokens ++ rest) := by
    simp [Expr.tokens]
  rw [htokens]
  refine ⟨fun hbinary => absurd trivial hbinary, ?_⟩
  cases level with
  | additive =>
      have hfirst := (hleft (operator :: (right.tokens ++ rest))).2.2
      have hlast := (hright rest).2.1 hjoin
      exact ⟨fun hadditive => absurd hoperator hadditive,
        derives_chain_append hfirst hoperator hlast⟩
  | multiplicative =>
      have hfirst := (hleft (operator :: (right.tokens ++ rest))).2.1 hjoin.1
      have hlast := (hright rest).1 hjoin.2
      have hchain : Derives (.chain .multiplicative) _ (.binary left operator right) rest :=
        derives_chain_append hfirst hoperator hlast
      exact ⟨fun _ => hchain, derives_chain_of_operand hchain⟩

theorem rebuilds_group {opening closing : Token} {inner : Expr}
    (hopening : opening.kind = .leftParen) (hclosing : closing.kind = .rightParen)
    (hinner : Rebuilds inner) : Rebuilds (.group opening inner closing) := by
  apply rebuilds_of_primary
  intro rest
  have htokens : (Expr.group opening inner closing).tokens ++ rest =
      opening :: (inner.tokens ++ closing :: rest) := by
    simp [Expr.tokens]
  rw [htokens]
  exact .group hopening hclosing (hinner (closing :: rest)).2.2

theorem rebuilds_integral {isDefinite : Bool} {lower upper : Option Expr} {integrand : Expr}
    (name : String) (hagree : Expr.BoundsAgree isDefinite lower upper)
    (hlower : ∀ e ∈ lower, Rebuilds e) (hupper : ∀ e ∈ upper, Rebuilds e)
    (hintegrand : Rebuilds integrand) :
    Rebuilds (.integral isDefinite lower upper integrand name) := by
  apply rebuilds_of_primary
  intro rest
  apply Derives.integral
  obtain ⟨hlowerSome, hupperSome⟩ := hagree
  obtain ⟨ending, hending⟩ :
      ∃ ts : List Token, ts = .thinSpace :: .differential :: ⟨.letter, name⟩ :: rest := ⟨_, rfl⟩
  have hname : EndsIntegrand integrand ending name rest := by
    rw [hending]
    exact .spacedMark name rest
  have hderives := (hintegrand ending).2.2
  cases lower with
  | none =>
      cases upper with
      | none =>
          subst hlowerSome
          have hintegral := Derives.indefinite hderives hname
          simpa [Expr.tokens, Expr.tokens.boundTokens, hending] using hintegral
      | some upper => simp [hlowerSome] at hupperSome
  | some lower =>
      cases upper with
      | none => simp [hlowerSome] at hupperSome
      | some upper =>
          subst hlowerSome
          have hsecond := (hupper upper rfl (integrand.tokens ++ ending)).2.2
          have hfirst := (hlower lower rfl
            (⟨.superscript, "^"⟩ :: (upper.tokens ++ (integrand.tokens ++ ending)))).2.2
          have hintegral : Derives .integral (.integralSign :: ⟨.subscript, "_"⟩ :: _) _ rest :=
            .lowerFirst rfl rfl hfirst hsecond hderives hname
          simpa [Expr.tokens, Expr.tokens.boundTokens, hending] using hintegral

/-- A shaped expression is derived from its own tokens, before any others. -/
theorem rebuilds_of_shaped {e : Expr} (h : e.Shaped) : Rebuilds e := by
  induction e with
  | number text => exact rebuilds_of_primary fun rest => .number text rest
  | var name => exact rebuilds_of_primary fun rest => .var name rest
  | binary left operator right ihleft ihright =>
      obtain ⟨⟨level, hoperator, hjoin⟩, hleft, hright⟩ := h
      exact rebuilds_binary hoperator hjoin (ihleft hleft) (ihright hright)
  | group opening inner closing ih =>
      obtain ⟨⟨hopening, hclosing⟩, hinner⟩ := h
      exact rebuilds_group hopening hclosing (ih hinner)
  | integral isDefinite lower upper integrand name ihlower ihupper ih =>
      obtain ⟨hagree, hlower, hupper, hintegrand⟩ := h
      rw [Expr.everyBound_iff] at hlower hupper
      exact rebuilds_integral name hagree (fun e he => ihlower e he (hlower e he))
        (fun e he => ihupper e he (hupper e he)) (ih hintegrand)

theorem accepts_tokens {e : Expr} (h : e.Shaped) : Accepts e.tokens e := by
  have hderives := (rebuilds_of_shaped h []).2.2
  rwa [List.append_nil] at hderives

end Grammar
end MathMarkup
