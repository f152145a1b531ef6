import MathMarkup.Proofs.Grammar.Blame
import MathMarkup.Proofs.Grammar.Viability
import MathMarkup.Proofs.Reading.Sessions

/-!
# A closing parenthesis ends an expression

Nothing that reading decides tells a closing parenthesis from the end of the tokens.
-/

namespace MathMarkup
namespace Grammar

theorem not_derives_integral_group {opening closing : Token} {ts rest : List Token} {e : Expr} :
    ¬Derives .integral ts (.group opening e closing) rest :=
  nofun

section

variable {closing : Token} (hclosing : closing.kind = .rightParen)

include hclosing

theorem endsAlike_closing (ts rest : List Token) :
    EndsAlike ts (closing :: rest) := by
  refine ⟨fun _ => Or.inl hclosing, ?_⟩
  rintro ⟨name, rest', hcons⟩
  obtain ⟨rfl, -⟩ := List.cons.inj hcons
  cases hclosing

theorem noOperatorAhead_closing (level : Level) (rest : List Token) :
    NoOperatorAhead level (closing :: rest) :=
  noOperatorAhead_cons (not_isOperator_of_kind (by simp [hclosing])) level rest

theorem derives_before_closing_iff {tokens rest : List Token} {e : Expr} :
    Derives (.chain .additive) (tokens ++ closing :: rest) e (closing :: rest) ↔
      Accepts tokens e := by
  constructor
  · intro h
    have hend := h.endsAlike (endsAlike_nil _)
    rwa [List.append_nil] at hend
  · intro h
    have hend : Derives (.chain .additive) (tokens ++ []) e [] := by
      rw [List.append_nil]
      exact h
    exact hend.endsAlike (endsAlike_closing hclosing [] rest)

theorem accepts_group_iff {opening : Token} (hopening : opening.kind = .leftParen)
    {tokens : List Token} {e : Expr} :
    Accepts (opening :: (tokens ++ [closing])) (.group opening e closing) ↔ Accepts tokens e := by
  constructor
  · intro h
    have hprimary : Derives .primary (opening :: (tokens ++ [closing]))
        (.group opening e closing) [] :=
      derives_operand_of_not_isBinary (derives_operand_of_not_isBinary h id) id
    cases hprimary with
    | group _ _ hinner => exact (derives_before_closing_iff hclosing).mp hinner
    | integral h => exact absurd h not_derives_integral_group
  · intro h
    have hinner : Derives (.chain .additive) (tokens ++ [closing]) e [closing] :=
      (derives_before_closing_iff hclosing).mpr h
    exact derives_chain_of_operand (derives_chain_of_operand (.group hopening hclosing hinner))

theorem read_before_closing {tokens : List Token} {e : Expr} (h : Accepts tokens e) (rest : List Token) :
    (Phrase.binary .additive).read (.start (tokens ++ closing :: rest)) =
      .ok e ⟨tokens.length, closing :: rest⟩ := by
  have hderives : Derives (.chain .additive) (tokens ++ closing :: rest) e (closing :: rest) :=
    (derives_before_closing_iff hclosing).mpr h
  obtain ⟨j, hread⟩ := hderives.readsAs (noOperatorAhead_closing hclosing _ _) 0
  obtain rfl := index_of_reaches (reaches_of_read hread)
  exact hread

theorem accepts_of_read_before_closing {tokens rest : List Token} {e : Expr} {d : Cursor}
    (h : (Phrase.binary .additive).read (.start (tokens ++ closing :: rest)) = .ok e d)
    (hindex : d.index = tokens.length) : Accepts tokens e := by
  have hread : (Category.chain .additive).read (.start (tokens ++ closing :: rest)) = .ok e d := h
  obtain ⟨consumed, hsplit, hplace⟩ := (reaches_of_read hread).exists_consumed
  have hlength : tokens.length = consumed.length := by
    rw [← hindex, hplace]
    exact Nat.zero_add _
  obtain ⟨rfl, hunread⟩ := List.append_inj hsplit hlength
  have hderives := derives_of_read hread
  rw [← hunread] at hderives
  exact (derives_before_closing_iff hclosing).mp hderives

theorem session_read_before_closing_iff {tokens rest : List Token} {e : Expr} :
    (Session.start (tokens ++ closing :: rest)).read (.binary .additive) =
        (.ok e, ⟨tokens ++ closing :: rest, tokens.length⟩) ↔ Accepts tokens e := by
  constructor
  · intro h
    obtain ⟨d, hread⟩ := Session.exists_read_of_fst (congrArg Prod.fst h)
    have hplace := Session.read_snd (.start (tokens ++ closing :: rest)) (.binary .additive)
    rw [h, hread] at hplace
    exact accepts_of_read_before_closing hclosing hread (Session.mk.inj hplace).2.symm
  · intro h
    have hread : (Phrase.binary .additive).read (Session.start _).cursor = .ok e _ :=
      read_before_closing hclosing h rest
    exact Session.read_of_read hread

theorem parse_eq_unmatchedParenthesis_iff {tokens rest : List Token} :
    parse (tokens ++ closing :: rest) = .error (.unmatchedParenthesis tokens.length) ↔
      IsExpression tokens := by
  constructor
  · intro h
    rcases breaksFrom_of_parse h with
      ⟨site, hreaches, hbreaks⟩ | ⟨before, closing', after, e, hsplit, -, hderives, herror⟩
    · obtain ⟨consumed, hsplit, hplace⟩ := hreaches.exists_consumed
      generalize htokens : tokens.length = i at hbreaks
      cases hbreaks with
      | parenthesis i hopening =>
          have hlength : tokens.length = consumed.length :=
            htokens.trans (hplace.trans (Nat.zero_add _))
          obtain ⟨-, hcons⟩ := List.append_inj hsplit hlength
          obtain ⟨rfl, -⟩ := List.cons.inj hcons
          rw [hclosing] at hopening
          cases hopening
    · obtain ⟨rfl, hcons⟩ := List.append_inj hsplit (ParseError.unmatchedParenthesis.inj herror)
      obtain ⟨inner, heq, hparse, -⟩ := hderives.exists_parse
      rw [hcons] at heq
      obtain rfl := List.append_cancel_right heq
      exact ⟨e, hparse⟩
  · rintro ⟨e, h⟩
    rw [parse, read_before_closing hclosing (accepts_of_parse_eq_ok h) rest]
    exact if_pos hclosing

end

/-- A closing parenthesis ends an expression just as the end of the tokens does:
inside a group, for a session that reads on after it, and where it has no
partner. -/
theorem parse_eq_ok_iff_before_closing (tokens rest : List Token) (opening closing : Token)
    (hopening : opening.kind = .leftParen) (hclosing : closing.kind = .rightParen) :
    (∀ e,
      (parse tokens = .ok e ↔
        parse (opening :: (tokens ++ [closing])) = .ok (.group opening e closing)) ∧
      (parse tokens = .ok e ↔
        (Session.start (tokens ++ closing :: rest)).read (.binary .additive) =
          (.ok e, ⟨tokens ++ closing :: rest, tokens.length⟩))) ∧
      (parse (tokens ++ closing :: rest) = .error (.unmatchedParenthesis tokens.length) ↔
        IsExpression tokens) := by
  have hparse (ts : List Token) (e : Expr) : parse ts = .ok e ↔ Accepts ts e :=
    ⟨accepts_of_parse_eq_ok, parse_eq_ok_of_accepts⟩
  refine ⟨fun e => ⟨?_, ?_⟩, parse_eq_unmatchedParenthesis_iff hclosing⟩
  · rw [hparse, hparse, accepts_group_iff hclosing hopening]
  · rw [hparse, session_read_before_closing_iff hclosing]

/-- An integral over `d`, which is a variable since no letter follows it. -/
def overD : List Token :=
  [.integralSign, ⟨.letter, "x"⟩, .thinSpace, .differential]

theorem parse_over_d_before_closing :
    parse (⟨.leftParen, "["⟩ :: (overD ++ [⟨.rightParen, "]"⟩])) =
        .ok (.group ⟨.leftParen, "["⟩ (.integral false none none (.var "x") "d")
          ⟨.rightParen, "]"⟩) ∧
      (Session.start (overD ++ ⟨.rightParen, "]"⟩ :: [⟨.letter, "y"⟩])).read (.binary .additive) =
        (.ok (.integral false none none (.var "x") "d"),
          ⟨overD ++ ⟨.rightParen, "]"⟩ :: [⟨.letter, "y"⟩], 4⟩) ∧
      parse (overD ++ ⟨.rightParen, "]"⟩ :: [⟨.letter, "y"⟩]) =
        .error (.unmatchedParenthesis 4) := by
  have h : parse overD = .ok (.integral false none none (.var "x") "d") := by decide +kernel
  obtain ⟨hall, herror⟩ := parse_eq_ok_iff_before_closing overD [⟨.letter, "y"⟩]
    ⟨.leftParen, "["⟩ ⟨.rightParen, "]"⟩ rfl rfl
  exact ⟨(hall _).1.mp h, (hall _).2.mp h, herror.mpr ⟨_, h⟩⟩

end Grammar
end MathMarkup
