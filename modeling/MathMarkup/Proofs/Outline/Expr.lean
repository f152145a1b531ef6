import MathMarkup.Proofs.Outline.Layout

/-!
# The outline of an expression determines it
-/

namespace MathMarkup

namespace Outline

theorem Legible.wrap {name : String} {item : Outline} (hname : IsWord name)
    (hitem : item.Legible) : (wrap name item).Legible :=
  .node hname hitem (by simp)

theorem legible_ofString (s : String) : (ofString s).Legible :=
  .atom (.quoted s)

theorem legible_record {name : String} {first : String × Outline}
    {fields : List (String × Outline)}
    (hwords : ∀ word ∈ name :: first.1 :: fields.map Prod.fst, IsWord word)
    (hvalues : ∀ f ∈ first :: fields, f.2.Legible) : (record name (first :: fields)).Legible := by
  obtain ⟨hname, hlabels⟩ := List.forall_mem_cons.mp hwords
  have hitems : ∀ f ∈ first :: fields, (field f.1 f.2).Legible := by
    intro f hf
    exact .field (hlabels f.1 (List.mem_map_of_mem hf)) (hvalues f hf)
  obtain ⟨hfirst, hlater⟩ := List.forall_mem_cons.mp hitems
  exact .node hname hfirst (List.forall_mem_map.mpr hlater)

end Outline

theorem Token.legible_outline (t : Token) : t.outline.Legible := by
  have hwords : ∀ word ∈ ["Token", "kind", "text"], Outline.IsWord word := by decide
  have hkind : Outline.IsWord t.kind.name := by cases t.kind <;> decide
  apply Outline.legible_record hwords
  simp [Outline.Legible.atom (.word hkind), Outline.legible_ofString]

namespace Expr

theorem legible_outlineOfVariable (name : String) : (outlineOfVariable name).Legible := by
  have hwords : ∀ word ∈ ["Variable", "name"], Outline.IsWord word := by decide
  exact Outline.legible_record hwords (by simp [Outline.legible_ofString])

theorem legible_outlineOfBound {bound : Option Expr} (h : ∀ e ∈ bound, e.outline.Legible) :
    (outline.outlineOfBound bound).Legible := by
  cases bound with
  | none => exact .atom (.word (by decide))
  | some e => exact .wrap (by decide) (h e rfl)

theorem legible_outline (e : Expr) : e.outline.Legible := by
  induction e with
  | number text => exact .wrap (by decide) (Outline.legible_ofString text)
  | var name => exact .wrap (by decide) (legible_outlineOfVariable name)
  | binary left operator right hleft hright =>
      have hwords : ∀ word ∈ ["BinaryExpression", "left", "operator", "right"],
          Outline.IsWord word := by decide
      refine .wrap (by decide) (Outline.legible_record hwords ?_)
      simp [hleft, operator.legible_outline, hright]
  | group opening inner closing hinner =>
      have hwords : ∀ word ∈ ["Grouped", "left", "inner", "right"], Outline.IsWord word := by
        decide
      refine .wrap (by decide) (Outline.legible_record hwords ?_)
      simp [opening.legible_outline, hinner, closing.legible_outline]
  | integral isDefinite lower upper integrand name hlower hupper hintegrand =>
      have hwords : ∀ word ∈ ["Integral", "is_definite", "lower", "upper", "integrand", "variable"],
          Outline.IsWord word := by decide
      have hflag : Outline.IsWord (if isDefinite then "true" else "false") := by
        cases isDefinite <;> decide
      refine .wrap (by decide) (Outline.legible_record hwords ?_)
      simp [Outline.Legible.atom (.word hflag), legible_outlineOfBound hlower,
        legible_outlineOfBound hupper, hintegrand, legible_outlineOfVariable name]

end Expr

namespace Outline

@[simp] theorem wrap_inj {name name' : String} {item item' : Outline} :
    wrap name item = wrap name' item' ↔ name = name' ∧ item = item' := by
  simp [wrap]

@[simp] theorem record_inj {name name' : String} {fields fields' : List (String × Outline)} :
    record name fields = record name' fields' ↔ name = name' ∧ fields = fields' := by
  have hfield : ∀ f g : String × Outline, field f.1 f.2 = field g.1 g.2 → f = g := by
    rintro ⟨label, value⟩ ⟨label', value'⟩ h
    simpa using h
  simp [record, List.map_inj_right hfield]

@[simp] theorem ofString_inj {s t : String} : ofString s = ofString t ↔ s = t := by
  constructor
  · intro h
    exact Text.quoteString_inj (atom.inj h)
  · exact congrArg ofString

end Outline

theorem TokenKind.name_inj {kind kind' : TokenKind} (h : kind.name = kind'.name) :
    kind = kind' := by
  have hkinds := congrArg TokenKind.ofName? h
  rw [ofName?_name, ofName?_name] at hkinds
  exact Option.some.inj hkinds

theorem Token.outline_inj {t u : Token} (h : t.outline = u.outline) : t = u := by
  obtain ⟨hkind, htext⟩ : t.kind.name = u.kind.name ∧ t.text = u.text := by
    simpa [Token.outline] using h
  cases t
  cases u
  cases TokenKind.name_inj hkind
  cases htext
  rfl

namespace Expr

theorem outlineOfVariable_inj {name name' : String}
    (h : outlineOfVariable name = outlineOfVariable name') : name = name' := by
  simpa [outlineOfVariable] using h

theorem outlineOfBound_inj {bound bound' : Option Expr}
    (hbound : ∀ e ∈ bound, ∀ b : Expr, e.outline = b.outline → e = b)
    (h : outline.outlineOfBound bound = outline.outlineOfBound bound') : bound = bound' := by
  cases bound <;> cases bound' <;> simp only [outline.outlineOfBound, Outline.ofOption] at h
  case none.none => rfl
  case none.some | some.none => cases h
  case some.some e b => rw [hbound e rfl b (Outline.wrap_inj.mp h).2]

theorem outline_inj {a b : Expr} (h : a.outline = b.outline) : a = b := by
  induction a generalizing b with
  | number text =>
      cases b with
      | number text' =>
          obtain rfl : text = text' := by simpa [outline] using h
          rfl
      | _ => simp [outline] at h
  | var name =>
      cases b with
      | var name' =>
          have hname : outlineOfVariable name = outlineOfVariable name' := by
            simpa [outline] using h
          rw [outlineOfVariable_inj hname]
      | _ => simp [outline] at h
  | binary left operator right hleft hright =>
      cases b with
      | binary left' operator' right' =>
          obtain ⟨hleft', hoperator, hright'⟩ : left.outline = left'.outline ∧
              operator.outline = operator'.outline ∧ right.outline = right'.outline := by
            simpa [outline] using h
          rw [hleft hleft', Token.outline_inj hoperator, hright hright']
      | _ => simp [outline] at h
  | group opening inner closing hinner =>
      cases b with
      | group opening' inner' closing' =>
          obtain ⟨hopening, hinner', hclosing⟩ : opening.outline = opening'.outline ∧
              inner.outline = inner'.outline ∧ closing.outline = closing'.outline := by
            simpa [outline] using h
          rw [Token.outline_inj hopening, hinner hinner', Token.outline_inj hclosing]
      | _ => simp [outline] at h
  | integral isDefinite lower upper integrand name hlower hupper hintegrand =>
      cases b with
      | integral isDefinite' lower' upper' integrand' name' =>
          simp only [outline, Outline.wrap_inj, Outline.record_inj, List.cons.injEq, Prod.mk.injEq,
            Outline.atom.injEq, true_and, and_true] at h
          obtain ⟨hflag, hlower', hupper', hintegrand', hname⟩ := h
          obtain rfl : isDefinite = isDefinite' := by
            cases isDefinite <;> cases isDefinite' <;> simp at hflag ⊢
          rw [outlineOfBound_inj (fun e he b => hlower e he) hlower',
            outlineOfBound_inj (fun e he b => hupper e he) hupper', hintegrand hintegrand',
            outlineOfVariable_inj hname]
      | _ => simp [outline] at h

/-- Each of the two texts of an outline determines the expression. -/
theorem outline_texts_eq_iff (a b : Expr) :
    (a.outline.inline = b.outline.inline ↔ a = b) ∧
    (a.outline.indented 0 = b.outline.indented 0 ↔ a = b) := by
  constructor
  · constructor
    · intro h
      exact outline_inj (a.legible_outline.inline_inj b.legible_outline h)
    · rintro rfl
      rfl
  · constructor
    · intro h
      exact outline_inj (a.legible_outline.indented_inj b.legible_outline h)
    · rintro rfl
      rfl

end Expr
end MathMarkup
