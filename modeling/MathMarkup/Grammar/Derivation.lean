import MathMarkup.Parsing.Phrase

/-!
# The expression grammar

`Derives category tokens e rest` says that the category derives `e` from the tokens
before `rest`, a final part of `tokens`.  A chain is folded to the left by handing
the part that is already derived from one link to the next.
-/

namespace MathMarkup
namespace Grammar

inductive Category where
  | chain (level : Level)
  /-- The rest of a chain after the part that gives `left`. -/
  | links (level : Level) (left : Expr)
  | primary
  | integral

def operand : Level → Category
  | .additive => .chain .multiplicative
  | .multiplicative => .primary

def StartsWithLetter (tokens : List Token) : Prop :=
  ∃ name rest, tokens = ⟨.letter, name⟩ :: rest

/-- `EndsIntegrand integrand tokens name rest` says that the tokens before
`rest` are a differential of the variable `name` after `integrand`. -/
inductive EndsIntegrand (integrand : Expr) : List Token → String → List Token → Prop
  | spacedMark (name : String) (rest : List Token) :
      EndsIntegrand integrand (.thinSpace :: .differential :: ⟨.letter, name⟩ :: rest) name rest
  /-- A thin space and a variable, unless this starts the form above. -/
  | spaced (name : String) (rest : List Token) (h : name ≠ "d" ∨ ¬StartsWithLetter rest) :
      EndsIntegrand integrand (.thinSpace :: ⟨.letter, name⟩ :: rest) name rest
  | mark (name : String) (rest : List Token) :
      EndsIntegrand integrand (.differential :: ⟨.letter, name⟩ :: rest) name rest
  /-- Nothing, after an integrand that is a variable. -/
  | unwritten (name : String) (rest : List Token) (hvar : integrand = .var name)
      (hends : EndsIntegral rest) : EndsIntegrand integrand rest name rest

inductive Derives : Category → List Token → Expr → List Token → Prop
  | chain {level : Level} {ts us vs : List Token} {first e : Expr}
      (hfirst : Derives (operand level) ts first us)
      (hlinks : Derives (.links level first) us e vs) :
      Derives (.chain level) ts e vs
  | stop {level : Level} {ts : List Token} {left : Expr} :
      Derives (.links level left) ts left ts
  | link {level : Level} {operator : Token} {ts us vs : List Token} {left right e : Expr}
      (hoperator : level.IsOperator operator) (hright : Derives (operand level) ts right us)
      (hlinks : Derives (.links level (.binary left operator right)) us e vs) :
      Derives (.links level left) (operator :: ts) e vs
  | number (text : String) (rest : List Token) :
      Derives .primary (⟨.number, text⟩ :: rest) (.number text) rest
  | var (name : String) (rest : List Token) :
      Derives .primary (⟨.letter, name⟩ :: rest) (.var name) rest
  | group {opening closing : Token} {ts rest : List Token} {inner : Expr}
      (hopening : opening.kind = .leftParen) (hclosing : closing.kind = .rightParen)
      (hinner : Derives (.chain .additive) ts inner (closing :: rest)) :
      Derives .primary (opening :: ts) (.group opening inner closing) rest
  | integral {ts rest : List Token} {e : Expr} (h : Derives .integral ts e rest) :
      Derives .primary ts e rest
  | indefinite {ts us rest : List Token} {integrand : Expr} {name : String}
      (hintegrand : Derives (.chain .additive) ts integrand us)
      (hname : EndsIntegrand integrand us name rest) :
      Derives .integral (.integralSign :: ts) (.integral false none none integrand name) rest
  | lowerFirst {sub sup : Token} {ts us vs ws rest : List Token} {lower upper integrand : Expr}
      {name : String} (hsub : sub.kind = .subscript) (hsup : sup.kind = .superscript)
      (hlower : Derives (.chain .additive) ts lower (sup :: us))
      (hupper : Derives (.chain .additive) us upper vs)
      (hintegrand : Derives (.chain .additive) vs integrand ws)
      (hname : EndsIntegrand integrand ws name rest) :
      Derives .integral (.integralSign :: sub :: ts)
        (.integral true (some lower) (some upper) integrand name) rest
  | upperFirst {sub sup : Token} {ts us vs ws rest : List Token} {lower upper integrand : Expr}
      {name : String} (hsub : sub.kind = .subscript) (hsup : sup.kind = .superscript)
      (hupper : Derives (.chain .additive) ts upper (sub :: us))
      (hlower : Derives (.chain .additive) us lower vs)
      (hintegrand : Derives (.chain .additive) vs integrand ws)
      (hname : EndsIntegrand integrand ws name rest) :
      Derives .integral (.integralSign :: sup :: ts)
        (.integral true (some lower) (some upper) integrand name) rest

/-- Whether a whole token list derives an expression. -/
def Accepts (tokens : List Token) (e : Expr) : Prop :=
  Derives (.chain .additive) tokens e []

end Grammar
end MathMarkup
