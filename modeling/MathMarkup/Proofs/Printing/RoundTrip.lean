import Mathlib
import MathMarkup.Proofs.Grammar.Completeness
import MathMarkup.Proofs.Grammar.Shape
import MathMarkup.Proofs.Lexing.Text
import MathMarkup.Proofs.Printing.Tokens
import MathMarkup.Translation

/-!
# Printing and translating back

The well-formed expressions are exactly the ones that survive being printed and
translated.
-/

namespace MathMarkup

theorem eq_mark_iff {t : Token} {kind : TokenKind} {text : String} {c : Char}
    (htext : text.toList = [c]) (hc : TokenKind.ofMark? c = some kind) :
    t.kind = kind ∧ t.IsLexeme ↔ t = ⟨kind, text⟩ := by
  have hsingleton : text = String.singleton c := by
    rw [← String.toList_inj, htext, String.toList_singleton]
  constructor
  · rintro ⟨rfl, ht⟩
    rw [Token.isLexeme_iff_of_ofMark? hc, ← hsingleton] at ht
    rw [← ht]
  · rintro rfl
    exact ⟨rfl, (Token.isLexeme_iff_of_ofMark? hc).mpr hsingleton⟩

theorem isOperator_additive_iff {t : Token} :
    Level.additive.IsOperator t ∧ t.IsLexeme ↔ t = ⟨.plus, "+"⟩ ∨ t = ⟨.minus, "-"⟩ := by
  have hplus : t.kind = .plus ∧ t.IsLexeme ↔ t = ⟨.plus, "+"⟩ :=
    eq_mark_iff (show "+".toList = ['+'] by decide) rfl
  have hminus : t.kind = .minus ∧ t.IsLexeme ↔ t = ⟨.minus, "-"⟩ :=
    eq_mark_iff (show "-".toList = ['-'] by decide) rfl
  rw [← hplus, ← hminus, ← or_and_right]
  rfl

theorem isOperator_multiplicative_iff {t : Token} :
    Level.multiplicative.IsOperator t ∧ t.IsLexeme ↔ t = ⟨.times, "*"⟩ ∨ t = .modulo := by
  have htimes : t.kind = .times ∧ t.IsLexeme ↔ t = ⟨.times, "*"⟩ :=
    eq_mark_iff (show "*".toList = ['*'] by decide) rfl
  have hmodulo : t = .modulo ∧ t.IsLexeme ↔ t = .modulo := by
    refine and_iff_left_of_imp ?_
    rintro rfl
    have hletters : ∀ c ∈ ['m', 'o', 'd'], c.isAlpha := List.all_eq_true.mp (by decide)
    exact Or.inr ⟨['m', 'o', 'd'], hletters, by decide⟩
  rw [← htimes, ← hmodulo, ← or_and_right]
  exact Iff.rfl

namespace Expr

theorem wellFormed_binary_iff {left right : Expr} {operator : Token} :
    (binary left operator right).WellFormed ↔
      ((operator = ⟨.plus, "+"⟩ ∨ operator = ⟨.minus, "-"⟩) ∧ ¬right.IsBinaryOf .additive ∨
          (operator = ⟨.times, "*"⟩ ∨ operator = .modulo) ∧ ¬left.IsBinaryOf .additive ∧
            ¬right.IsBinary) ∧
        left.WellFormed ∧ right.WellFormed := by
  refine and_congr_left fun _ => ?_
  rw [← isOperator_additive_iff, ← isOperator_multiplicative_iff]
  constructor
  · rintro ⟨⟨level, hoperator, hjoin⟩, ht⟩
    cases level with
    | additive => exact Or.inl ⟨⟨hoperator, ht⟩, hjoin⟩
    | multiplicative => exact Or.inr ⟨⟨hoperator, ht⟩, hjoin⟩
  · rintro (⟨⟨hoperator, ht⟩, hjoin⟩ | ⟨⟨hoperator, ht⟩, hjoin⟩)
    · exact ⟨⟨.additive, hoperator, hjoin⟩, ht⟩
    · exact ⟨⟨.multiplicative, hoperator, hjoin⟩, ht⟩

theorem wellFormed_group_iff {inner : Expr} {opening closing : Token} :
    (group opening inner closing).WellFormed ↔
      opening = ⟨.leftParen, "("⟩ ∧ closing = ⟨.rightParen, ")"⟩ ∧ inner.WellFormed := by
  have hopening : opening.kind = .leftParen ∧ opening.IsLexeme ↔ opening = ⟨.leftParen, "("⟩ :=
    eq_mark_iff (show "(".toList = ['('] by decide) rfl
  have hclosing : closing.kind = .rightParen ∧ closing.IsLexeme ↔ closing = ⟨.rightParen, ")"⟩ :=
    eq_mark_iff (show ")".toList = [')'] by decide) rfl
  rw [← hopening, ← hclosing]
  constructor
  · rintro ⟨⟨⟨hkind, hkind'⟩, ht, ht'⟩, hinner⟩
    exact ⟨⟨hkind, ht⟩, ⟨hkind', ht'⟩, hinner⟩
  · rintro ⟨⟨hkind, ht⟩, ⟨hkind', ht'⟩, hinner⟩
    exact ⟨⟨⟨hkind, hkind'⟩, ht, ht'⟩, hinner⟩

theorem wellFormed_integral_iff {isDefinite : Bool} {lower upper : Option Expr}
    {integrand : Expr} {name : String} :
    (integral isDefinite lower upper integrand name).WellFormed ↔
      BoundsAgree isDefinite lower upper ∧ IsLetterText name.toList ∧
        (∀ e ∈ lower, e.WellFormed) ∧ (∀ e ∈ upper, e.WellFormed) ∧ integrand.WellFormed := by
  rw [WellFormed, Every, everyBound_iff, everyBound_iff]
  exact and_assoc

end Expr

/-! ## Pieces of the printed form -/

theorem lex_letter_append {name : String} (h : IsLetterText name.toList) (rest : String) :
    lex (name ++ rest) = ⟨.letter, name⟩ :: lex rest := by
  have hletter : Token.IsLexeme ⟨.letter, name⟩ := h
  have hextends := not_extends_of_kind hletter (by simp) (by simp) rest.toList
  have hlex := lex_lexeme_append hletter hextends
  exact hlex

theorem lex_differential_append {name : String} (h : IsLetterText name.toList)
    (rest : String) :
    lex (" \\,d" ++ (name ++ rest)) =
      .thinSpace :: .differential :: ⟨.letter, name⟩ :: lex rest := by
  have hfront : " \\,d" = " " ++ (Token.thinSpace.text ++ Token.differential.text) := by decide
  have hthin : Token.thinSpace.IsLexeme := Or.inl ⟨',', by decide, by decide⟩
  have hmark : IsLetterText Token.differential.text.toList := ⟨'d', by decide, by decide⟩
  rw [hfront, String.append_assoc, lex_space_append, String.append_assoc,
    lex_lexeme_append hthin (not_extends_thinSpace _), lex_letter_append hmark,
    lex_letter_append h]
  rfl

namespace Expr

/-! ## Lexing the printed form -/

/-- Whether the printed form of an expression is cut into its tokens. -/
def LexesAsTokens (e : Expr) : Prop :=
  ∀ rest, IsSeparate rest → lex (e.display ++ rest) = e.tokens ++ lex rest

theorem lexesAsTokens_binary {left right : Expr} {operator : Token} (ht : operator.IsLexeme)
    (hleft : LexesAsTokens left) (hright : LexesAsTokens right) :
    LexesAsTokens (.binary left operator right) := by
  intro rest hrest
  have hdisplay : (Expr.binary left operator right).display ++ rest =
      left.display ++ (" " ++ (operator.text ++ (" " ++ (right.display ++ rest)))) := by
    simp [display, String.append_assoc]
  have hspace := isSeparate_space_append (right.display ++ rest)
  rw [hdisplay, hleft _ (isSeparate_space_append _), lex_space_append,
    lex_lexeme_append ht (not_extends_of_isSeparate ht hspace), lex_space_append,
    hright rest hrest]
  simp [tokens]

theorem lexesAsTokens_group {inner : Expr} (hinner : LexesAsTokens inner) :
    LexesAsTokens (.group ⟨.leftParen, "("⟩ inner ⟨.rightParen, ")"⟩) := by
  intro rest hrest
  have hdisplay : (Expr.group ⟨.leftParen, "("⟩ inner ⟨.rightParen, ")"⟩).display ++ rest =
      "(" ++ (inner.display ++ (")" ++ rest)) := by
    simp [display, String.append_assoc]
  have hopening : Token.IsLexeme ⟨.leftParen, "("⟩ := ⟨'(', by decide, by decide⟩
  have hclosing : Token.IsLexeme ⟨.rightParen, ")"⟩ := ⟨')', by decide, by decide⟩
  have hopen := lex_lexeme_append hopening
    (not_extends_of_kind hopening (by decide) (by decide) (inner.display ++ (")" ++ rest)).toList)
  have hclose := lex_lexeme_append hclosing
    (not_extends_of_kind hclosing (by decide) (by decide) rest.toList)
  have hseparate : IsSeparate (")" ++ rest) :=
    isSeparate_append (show ")".toList = [')'] by decide) (by decide) rest
  rw [hdisplay, hopen, hinner _ hseparate, hclose]
  simp [tokens]

theorem lex_bound_append {marker : Token} {bound : Option Expr} {rest : String}
    (hmarker : marker.IsLexeme) (hcommand : marker.kind ≠ .command)
    (hnumber : marker.kind ≠ .number) (hbound : ∀ e ∈ bound, LexesAsTokens e)
    (hrest : IsSeparate rest) :
    lex (display.bound marker.text bound ++ rest) = tokens.boundTokens marker bound ++ lex rest := by
  cases bound with
  | none => simp [display.bound, tokens.boundTokens]
  | some e =>
      have hextends := not_extends_of_kind hmarker hcommand hnumber
      rw [display.bound, String.append_assoc, lex_lexeme_append hmarker (hextends _),
        hbound e rfl rest hrest]
      rfl

theorem isSeparate_bound_append {marker : String} {c : Char} (hmarker : marker.toList = [c])
    (hc : IsSeparator c) (bound : Option Expr) {rest : String} (hrest : IsSeparate rest) :
    IsSeparate (display.bound marker bound ++ rest) := by
  cases bound with
  | none =>
      rw [display.bound, String.empty_append]
      exact hrest
  | some e =>
      rw [display.bound, String.append_assoc]
      exact isSeparate_append hmarker hc _

theorem lexesAsTokens_integral (isDefinite : Bool) {lower upper : Option Expr}
    {integrand : Expr} {name : String} (hname : IsLetterText name.toList)
    (hlower : ∀ e ∈ lower, LexesAsTokens e) (hupper : ∀ e ∈ upper, LexesAsTokens e)
    (hintegrand : LexesAsTokens integrand) :
    LexesAsTokens (.integral isDefinite lower upper integrand name) := by
  intro rest hrest
  have hdisplay : (Expr.integral isDefinite lower upper integrand name).display ++ rest =
      Token.integralSign.text ++ (display.bound "_" lower ++ (display.bound "^" upper ++
        (" " ++ (integrand.display ++ (" \\,d" ++ (name ++ rest)))))) := by
    simp [display, String.append_assoc, Token.integralSign, Token.command]
  have hletters : ∀ c ∈ ['i', 'n', 't'], c.isAlpha := List.all_eq_true.mp (by decide)
  have hsign : Token.integralSign.IsLexeme := Or.inr ⟨['i', 'n', 't'], hletters, by decide⟩
  have hsub : Token.IsLexeme ⟨.subscript, "_"⟩ := ⟨'_', by decide, by decide⟩
  have hsup : Token.IsLexeme ⟨.superscript, "^"⟩ := ⟨'^', by decide, by decide⟩
  have hspace := isSeparate_space_append (integrand.display ++ (" \\,d" ++ (name ++ rest)))
  have hbeforeUpper := isSeparate_bound_append (show "^".toList = ['^'] by decide) (by decide)
    upper hspace
  have hbeforeLower := isSeparate_bound_append (show "_".toList = ['_'] by decide) (by decide)
    lower hbeforeUpper
  have hdifferential : IsSeparate (" \\,d" ++ (name ++ rest)) :=
    isSeparate_append (show " \\,d".toList = [' ', '\\', ',', 'd'] by decide) (by decide) _
  rw [hdisplay, lex_lexeme_append hsign (not_extends_of_isSeparate hsign hbeforeLower)]
  have hlexLower := lex_bound_append hsub (by decide) (by decide) hlower hbeforeUpper
  have hlexUpper := lex_bound_append hsup (by decide) (by decide) hupper hspace
  rw [hlexLower, hlexUpper, lex_space_append, hintegrand _ hdifferential,
    lex_differential_append hname]
  simp [tokens]

theorem lexesAsTokens_of_wellFormed {e : Expr} (h : e.WellFormed) : LexesAsTokens e := by
  induction e with
  | number text =>
      intro rest hrest
      have hnumber : Token.IsLexeme ⟨.number, text⟩ := h.2
      have hlex := lex_lexeme_append hnumber (not_extends_of_isSeparate hnumber hrest)
      rw [display, hlex, tokens, List.singleton_append]
  | var name =>
      intro rest _
      have hname : IsLetterText name.toList := h.2
      rw [display, lex_letter_append hname, tokens, List.singleton_append]
  | binary left operator right ihleft ihright =>
      obtain ⟨⟨-, hoperator⟩, hleft, hright⟩ := h
      exact lexesAsTokens_binary hoperator (ihleft hleft) (ihright hright)
  | group opening inner closing ih =>
      obtain ⟨rfl, rfl, hinner⟩ := wellFormed_group_iff.mp h
      exact lexesAsTokens_group (ih hinner)
  | integral isDefinite lower upper integrand name ihlower ihupper ih =>
      obtain ⟨-, hname, hlower, hupper, hintegrand⟩ := wellFormed_integral_iff.mp h
      exact lexesAsTokens_integral isDefinite hname (fun e he => ihlower e he (hlower e he))
        (fun e he => ihupper e he (hupper e he)) (ih hintegrand)

/-- The printed form of a well-formed expression is cut into its tokens. -/
theorem lex_display {e : Expr} (h : e.WellFormed) : lex e.display = e.tokens := by
  have hlex := lexesAsTokens_of_wellFormed h "" isSeparate_empty
  rw [String.append_empty] at hlex
  rw [hlex]
  simp [lex]

end Expr

/-! ## Translating back -/

/-- A well-formed expression is translated back from its printed form. -/
theorem translate_display {e : Expr} (h : e.WellFormed) : translate e.display = .ok e := by
  have hshaped : e.Shaped := ((Expr.every_and e).mp h).1
  rw [translate, Expr.lex_display h]
  exact Grammar.parse_eq_ok_of_accepts (Grammar.accepts_tokens hshaped)

theorem wellFormed_of_translate {source : String} {e : Expr}
    (h : translate source = .ok e) : e.WellFormed := by
  have haccepts : Grammar.Accepts (lex source) e := Grammar.accepts_of_parse_eq_ok h
  exact Grammar.wellFormed_of_accepts haccepts fun _ => isLexeme_of_mem_lex

/-- Printing what was translated and translating it again changes nothing. -/
theorem translate_display_of_translate (source : String) (e : Expr)
    (h : translate source = .ok e) : translate e.display = .ok e :=
  translate_display (wellFormed_of_translate h)

theorem translate_display_of_nested :
    ∃ e, translate "\\int^\\int d_0.(\\int x*d d d)\\, d" = .ok e ∧
      e.display = "\\int_0.^\\int d \\,dd (\\int x * d \\,dd) \\,dd" ∧
      translate e.display = .ok e := by
  have hsource : translate "\\int^\\int d_0.(\\int x*d d d)\\, d" =
      .ok (.integral true (some (.number "0.")) (some (.integral false none none (.var "d") "d"))
        (.group ⟨.leftParen, "("⟩
          (.integral false none none (.binary (.var "x") ⟨.times, "*"⟩ (.var "d")) "d")
          ⟨.rightParen, ")"⟩) "d") := by cbv
  exact ⟨_, hsource, by decide, translate_display_of_translate _ _ hsource⟩

/-- The well-formed expressions are exactly the ones that are printed and
translated back to themselves, and their printed forms tell them apart. -/
theorem translate_display_eq_ok_iff_wellFormed :
    (∀ e : Expr, translate e.display = .ok e ↔ e.WellFormed) ∧
      Set.InjOn Expr.display {e | e.WellFormed} := by
  refine ⟨fun e => ⟨wellFormed_of_translate, translate_display⟩, ?_⟩
  intro a ha b hb hdisplay
  have htranslate := translate_display ha
  rw [hdisplay, translate_display hb] at htranslate
  exact (Except.ok.inj htranslate).symm

end MathMarkup
