import MathMarkup.Proofs.Grammar.Exchange
import MathMarkup.Proofs.Printing.RoundTrip

/-!
# All spellings of an integral mean the same

Whatever spelling an integral is written in, the grammar derives the same integral
from it and goes on at the same token.
-/

namespace MathMarkup

inductive BoundOrder where
  | lowerFirst
  | upperFirst
deriving DecidableEq

inductive DifferentialForm where
  | spacedMark
  | spaced
  | mark
deriving DecidableEq

/-- A way of writing an integral. -/
structure Spelling where
  order : BoundOrder
  differential : DifferentialForm
deriving DecidableEq

namespace Spelling

def boundTokens (order : BoundOrder) : Option (Expr × Expr) → List Token
  | none => []
  | some (lower, upper) =>
    match order with
    | .lowerFirst =>
      ⟨.subscript, "_"⟩ :: (lex lower.display ++ ⟨.superscript, "^"⟩ :: lex upper.display)
    | .upperFirst =>
      ⟨.superscript, "^"⟩ :: (lex upper.display ++ ⟨.subscript, "_"⟩ :: lex lower.display)

def differentialTokens (name : String) : DifferentialForm → List Token
  | .spacedMark => [.thinSpace, .differential, ⟨.letter, name⟩]
  | .spaced => [.thinSpace, ⟨.letter, name⟩]
  | .mark => [.differential, ⟨.letter, name⟩]

/-- The tokens of an integral in a spelling. -/
def tokens (s : Spelling) (between : Option (Expr × Expr)) (integrand : Expr) (name : String) :
    List Token :=
  .integralSign :: (boundTokens s.order between ++
    (lex integrand.display ++ differentialTokens name s.differential))

end Spelling

/-- The integral that is written in a spelling. -/
def Expr.integralBetween (between : Option (Expr × Expr)) (integrand : Expr) (name : String) :
    Expr :=
  .integral between.isSome (between.map Prod.fst) (between.map Prod.snd) integrand name

/-- Whether an expression is the translation of a source text. -/
def Expr.IsTranslation (e : Expr) : Prop :=
  ∃ source, translate source = .ok e

/-- Whether some tokens may stand after an integral in a spelling. -/
def Spelling.MayPrecede (s : Spelling) (name : String) (post : List Token) : Prop :=
  s.differential = .spaced → name = "d" → ¬Grammar.StartsWithLetter post

namespace Grammar

theorem endsIntegrand_differentialTokens {form : DifferentialForm} {name : String}
    {rest : List Token} (h : form = .spaced → name = "d" → ¬StartsWithLetter rest)
    (integrand : Expr) :
    EndsIntegrand integrand (Spelling.differentialTokens name form ++ rest) name rest := by
  cases form with
  | spacedMark => exact .spacedMark name rest
  | spaced =>
      have hname : name ≠ "d" ∨ ¬StartsWithLetter rest := by
        by_cases hname : name = "d"
        · exact Or.inr (h rfl hname)
        · exact Or.inl hname
      exact .spaced name rest hname
  | mark => exact .mark name rest

theorem derives_display {e : Expr} (he : e.IsTranslation) (rest : List Token) :
    Derives (.chain .additive) (lex e.display ++ rest) e rest := by
  obtain ⟨source, hsource⟩ := he
  have hwellFormed := wellFormed_of_translate hsource
  have hshaped : e.Shaped := ((Expr.every_and e).mp hwellFormed).1
  rw [Expr.lex_display hwellFormed]
  exact (rebuilds_of_shaped hshaped rest).2.2

theorem derives_spelling {between : Option (Expr × Expr)} {integrand : Expr} {name : String}
    {s : Spelling} {post : List Token}
    (hbetween : ∀ b ∈ between, b.1.IsTranslation ∧ b.2.IsTranslation)
    (hintegrand : integrand.IsTranslation) (hs : s.MayPrecede name post) :
    Derives .integral (s.tokens between integrand name ++ post)
      (.integralBetween between integrand name) post := by
  obtain ⟨order, form⟩ := s
  have hname := endsIntegrand_differentialTokens hs integrand
  have hderives := derives_display hintegrand (Spelling.differentialTokens name form ++ post)
  cases between with
  | none =>
      have h : Derives .integral (.integralSign :: _) _ _ := .indefinite hderives hname
      simpa [Spelling.tokens, Spelling.boundTokens, Expr.integralBetween] using h
  | some b =>
      obtain ⟨lower, upper⟩ := b
      obtain ⟨hlower, hupper⟩ := hbetween (lower, upper) rfl
      cases order with
      | lowerFirst =>
          have h : Derives .integral (.integralSign :: ⟨.subscript, "_"⟩ :: _) _ _ :=
            .lowerFirst rfl rfl (derives_display hlower (⟨.superscript, "^"⟩ :: _))
              (derives_display hupper _) hderives hname
          simpa [Spelling.tokens, Spelling.boundTokens, Expr.integralBetween] using h
      | upperFirst =>
          have h : Derives .integral (.integralSign :: ⟨.superscript, "^"⟩ :: _) _ _ :=
            .upperFirst rfl rfl (derives_display hupper (⟨.subscript, "_"⟩ :: _))
              (derives_display hlower _) hderives hname
          simpa [Spelling.tokens, Spelling.boundTokens, Expr.integralBetween] using h

/-- There is only one integral at the start of a token list. -/
theorem Derives.integral_unique {ts rest rest' : List Token} {e e' : Expr}
    (h : Derives .integral ts e rest) (h' : Derives .integral ts e' rest') :
    e = e' ∧ rest = rest' := by
  obtain ⟨j, hread⟩ := h.readsAs trivial 0
  obtain ⟨j', hread'⟩ := h'.readsAs trivial 0
  rw [hread] at hread'
  obtain ⟨he, hrest⟩ := Reply.ok.inj hread'
  exact ⟨he, (Cursor.mk.inj hrest).2⟩

theorem replaces_spelling {between : Option (Expr × Expr)} {integrand : Expr} {name : String}
    {s s' : Spelling} {post : List Token}
    (hbetween : ∀ b ∈ between, b.1.IsTranslation ∧ b.2.IsTranslation)
    (hintegrand : integrand.IsTranslation) (hs : s.MayPrecede name post)
    (hs' : s'.MayPrecede name post) :
    Replaces (s.tokens between integrand name ++ post) (s'.tokens between integrand name ++ post)
    where
  sign := rfl
  sign' := rfl
  derives := by
    intro e rest h
    obtain ⟨rfl, rfl⟩ := h.integral_unique (derives_spelling hbetween hintegrand hs)
    exact derives_spelling hbetween hintegrand hs'

/-- A token list with an integral in it is read as the same expression in every spelling. -/
theorem parse_spelling_iff {between : Option (Expr × Expr)} {integrand : Expr}
    (hbetween : ∀ b ∈ between, b.1.IsTranslation ∧ b.2.IsTranslation)
    (hintegrand : integrand.IsTranslation) {name : String} {s s' : Spelling} {post : List Token}
    (hs : s.MayPrecede name post) (hs' : s'.MayPrecede name post) :
    (∀ (pre : List Token) (e : Expr),
      parse (pre ++ s.tokens between integrand name ++ post) = .ok e ↔
        parse (pre ++ s'.tokens between integrand name ++ post) = .ok e) ∧
      parse (s.tokens between integrand name) = .ok (.integralBetween between integrand name) := by
  have hreplaces := replaces_spelling hbetween hintegrand hs hs'
  have hreplaces' := replaces_spelling hbetween hintegrand hs' hs
  refine ⟨fun pre e => ?_, ?_⟩
  · rw [List.append_assoc, List.append_assoc, (parse_eq_ok_iff_accepts _).1,
      (parse_eq_ok_iff_accepts _).1]
    exact ⟨hreplaces.accepts, hreplaces'.accepts⟩
  · have hend : s.MayPrecede name [] := by
      rintro - - ⟨name', rest, hnil⟩
      cases hnil
    have hderives := derives_spelling hbetween hintegrand hend
    rw [List.append_nil] at hderives
    exact parse_eq_ok_of_accepts
      (derives_chain_of_operand (derives_chain_of_operand (.integral hderives)))

theorem parse_spelling_of_letters :
    ∃ lower upper integrand, translate "0-d" = .ok lower ∧ translate "\\int d" = .ok upper ∧
      translate "x*d" = .ok integrand ∧ ∀ (pre : List Token) (e : Expr),
        parse (pre ++ Spelling.tokens ⟨.lowerFirst, .spaced⟩ (some (lower, upper)) integrand "d" ++
            [⟨.times, "*"⟩, ⟨.letter, "d"⟩]) = .ok e ↔
          parse (pre ++ Spelling.tokens ⟨.upperFirst, .mark⟩ (some (lower, upper)) integrand "d" ++
            [⟨.times, "*"⟩, ⟨.letter, "d"⟩]) = .ok e := by
  have hlower : translate "0-d" =
      .ok (.binary (.number "0") ⟨.minus, "-"⟩ (.var "d")) := by decide +kernel
  have hupper : translate "\\int d" =
      .ok (.integral false none none (.var "d") "d") := by decide +kernel
  have hintegrand : translate "x*d" =
      .ok (.binary (.var "x") ⟨.times, "*"⟩ (.var "d")) := by decide +kernel
  have hspaced : Spelling.MayPrecede ⟨.lowerFirst, .spaced⟩ "d"
      [⟨.times, "*"⟩, ⟨.letter, "d"⟩] := by
    rintro - - ⟨name, rest, hcons⟩
    cases hcons
  refine ⟨_, _, _, hlower, hupper, hintegrand, ?_⟩
  refine (parse_spelling_iff ?_ ⟨_, hintegrand⟩ hspaced nofun).1
  rintro b hb
  obtain rfl := Option.mem_some_iff.mp hb
  exact ⟨⟨_, hlower⟩, ⟨_, hupper⟩⟩

end Grammar
end MathMarkup
