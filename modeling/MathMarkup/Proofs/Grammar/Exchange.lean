import MathMarkup.Proofs.Grammar.LookAhead

/-!
# Exchanging an integral for another

A derivation takes the first token of an integral only as such.  So two token lists
that derive the same integrals may stand for each other anywhere.
-/

namespace MathMarkup
namespace Grammar

theorem ne_integralSign_of_kind {t : Token} (h : t.kind ≠ .command) : t ≠ .integralSign := by
  rintro rfl
  exact h rfl

theorem ne_integralSign_of_oppositeMarker? {t : Token} {opposite : TokenKind}
    (h : t.kind.oppositeMarker? = some opposite) : t ≠ .integralSign := by
  rintro rfl
  cases h

theorem ne_integralSign_of_isOperator {level : Level} {t : Token} (h : level.IsOperator t) :
    t ≠ .integralSign := by
  rintro rfl
  cases level with
  | additive => exact absurd h (by decide)
  | multiplicative => exact absurd h (by decide)

/-- Whether two token lists are the same, or the same up to a place from where on
the one is `front` and the other is `front'`. -/
def Exchanged (front front' ts ts' : List Token) : Prop :=
  ts = ts' ∨ ∃ before, ts = before ++ front ∧ ts' = before ++ front'

section

variable {front front' : List Token}

theorem Exchanged.of_cons {t : Token} {ts ts' : List Token}
    (h : Exchanged front front' (t :: ts) ts') :
    (∃ us, ts' = t :: us ∧ Exchanged front front' ts us) ∨ t :: ts = front ∧ ts' = front' := by
  rcases h with rfl | ⟨before, hts, rfl⟩
  · exact Or.inl ⟨ts, rfl, Or.inl rfl⟩
  · cases before with
    | nil => exact Or.inr ⟨hts, rfl⟩
    | cons u before =>
        obtain ⟨rfl, rfl⟩ := List.cons.inj hts
        exact Or.inl ⟨before ++ front', rfl, Or.inr ⟨before, rfl, rfl⟩⟩

/-- Both lists start with the sign of an integral, and whatever integral is
derived from the first one is derived from the second one as well. -/
structure Replaces (front front' : List Token) : Prop where
  sign : front.head? = some .integralSign
  sign' : front'.head? = some .integralSign
  derives : ∀ e rest, Derives .integral front e rest → Derives .integral front' e rest

theorem Replaces.of_cons (hfront : Replaces front front') {t : Token} {ts ts' : List Token}
    (h : Exchanged front front' (t :: ts) ts') (ht : t ≠ .integralSign) :
    ∃ us, ts' = t :: us ∧ Exchanged front front' ts us := by
  rcases h.of_cons with hcons | ⟨hts, -⟩
  · exact hcons
  · have hsign := hfront.sign
    rw [← hts] at hsign
    exact absurd (Option.some.inj hsign) ht

theorem Replaces.head? (hfront : Replaces front front') {ts ts' : List Token}
    (h : Exchanged front front' ts ts') : ts.head? = ts'.head? := by
  rcases h with rfl | ⟨before, rfl, rfl⟩
  · rfl
  · rw [List.head?_append, List.head?_append, hfront.sign, hfront.sign']

theorem Replaces.eq_nil (hfront : Replaces front front') {ts' : List Token}
    (h : Exchanged front front' [] ts') : ts' = [] :=
  List.head?_eq_none_iff.mp (hfront.head? h).symm

theorem Replaces.endsIntegrand (hfront : Replaces front front') {integrand : Expr}
    {ts ts' rest : List Token} {name : String} (h : EndsIntegrand integrand ts name rest)
    (hts : Exchanged front front' ts ts') :
    ∃ rest', Exchanged front front' rest rest' ∧ EndsIntegrand integrand ts' name rest' := by
  cases h with
  | spacedMark =>
      obtain ⟨us, rfl, hus⟩ := hfront.of_cons hts (by decide)
      obtain ⟨vs, rfl, hvs⟩ := hfront.of_cons hus (by decide)
      obtain ⟨ws, rfl, hws⟩ := hfront.of_cons hvs nofun
      exact ⟨ws, hws, .spacedMark name ws⟩
  | spaced _ _ hname =>
      obtain ⟨us, rfl, hus⟩ := hfront.of_cons hts (by decide)
      obtain ⟨vs, rfl, hvs⟩ := hfront.of_cons hus nofun
      have halike := endsAlike_of_head?_eq (hfront.head? hvs)
      exact ⟨vs, hvs, .spaced name vs (hname.imp_right (mt halike.2))⟩
  | mark =>
      obtain ⟨us, rfl, hus⟩ := hfront.of_cons hts (by decide)
      obtain ⟨vs, rfl, hvs⟩ := hfront.of_cons hus nofun
      exact ⟨vs, hvs, .mark name vs⟩
  | unwritten _ _ hvar hends =>
      have halike := endsAlike_of_head?_eq (hfront.head? hts)
      exact ⟨ts', hts, .unwritten name ts' hvar (halike.1 hends)⟩

/-- Exchanging the one for the other does not change what is derived. -/
theorem Replaces.derives_of_exchanged (hfront : Replaces front front') {category : Category}
    {ts ts' rest : List Token} {e : Expr} (h : Derives category ts e rest)
    (hts : Exchanged front front' ts ts') :
    ∃ rest', Exchanged front front' rest rest' ∧ Derives category ts' e rest' := by
  induction h using Derives.induction_markers generalizing ts' with
  | chain _ _ ihfirst ihlinks =>
      obtain ⟨us, hus, hfirst⟩ := ihfirst hts
      obtain ⟨vs, hvs, hlinks⟩ := ihlinks hus
      exact ⟨vs, hvs, .chain hfirst hlinks⟩
  | stop => exact ⟨ts', hts, .stop⟩
  | link hoperator _ _ ihright ihlinks =>
      obtain ⟨us, rfl, hus⟩ := hfront.of_cons hts (ne_integralSign_of_isOperator hoperator)
      obtain ⟨vs, hvs, hright⟩ := ihright hus
      obtain ⟨ws, hws, hlinks⟩ := ihlinks hvs
      exact ⟨ws, hws, .link hoperator hright hlinks⟩
  | number text =>
      obtain ⟨us, rfl, hus⟩ := hfront.of_cons hts nofun
      exact ⟨us, hus, .number text us⟩
  | var name =>
      obtain ⟨us, rfl, hus⟩ := hfront.of_cons hts nofun
      exact ⟨us, hus, .var name us⟩
  | group hopening hclosing _ ih =>
      obtain ⟨us, rfl, hus⟩ := hfront.of_cons hts (ne_integralSign_of_kind (by simp [hopening]))
      obtain ⟨vs, hvs, hinner⟩ := ih hus
      obtain ⟨ws, rfl, hws⟩ := hfront.of_cons hvs (ne_integralSign_of_kind (by simp [hclosing]))
      exact ⟨ws, hws, .group hopening hclosing hinner⟩
  | integral _ ih =>
      obtain ⟨us, hus, h⟩ := ih hts
      exact ⟨us, hus, .integral h⟩
  | indefinite hintegrand hname ih =>
      rcases hts.of_cons with ⟨us, rfl, hus⟩ | ⟨rfl, rfl⟩
      · obtain ⟨vs, hvs, hintegrand⟩ := ih hus
        obtain ⟨ws, hws, hname⟩ := hfront.endsIntegrand hname hvs
        exact ⟨ws, hws, .indefinite hintegrand hname⟩
      · exact ⟨_, Or.inl rfl, hfront.derives _ _ (.indefinite hintegrand hname)⟩
  | definite hmarkers hfirst hsecond hintegrand hname ihfirst ihsecond ih =>
      rcases hts.of_cons with ⟨us, rfl, hus⟩ | ⟨rfl, rfl⟩
      · have hopposite := TokenKind.oppositeMarker?_symm hmarkers
        obtain ⟨us₁, rfl, hus₁⟩ := hfront.of_cons hus (ne_integralSign_of_oppositeMarker? hmarkers)
        obtain ⟨us₂, hus₂, hfirst⟩ := ihfirst hus₁
        obtain ⟨us₃, rfl, hus₃⟩ :=
          hfront.of_cons hus₂ (ne_integralSign_of_oppositeMarker? hopposite)
        obtain ⟨us₄, hus₄, hsecond⟩ := ihsecond hus₃
        obtain ⟨us₅, hus₅, hintegrand⟩ := ih hus₄
        obtain ⟨us₆, hus₆, hname⟩ := hfront.endsIntegrand hname hus₅
        exact ⟨us₆, hus₆,
          derives_integral_of_markers hmarkers hfirst hsecond hintegrand hname⟩
      · exact ⟨_, Or.inl rfl, hfront.derives _ _
          (derives_integral_of_markers hmarkers hfirst hsecond hintegrand hname)⟩

theorem Replaces.accepts (hfront : Replaces front front') {before : List Token} {e : Expr}
    (h : Accepts (before ++ front) e) : Accepts (before ++ front') e := by
  obtain ⟨rest, hrest, hderives⟩ := hfront.derives_of_exchanged h (Or.inr ⟨before, rfl, rfl⟩)
  obtain rfl := hfront.eq_nil hrest
  exact hderives

end

end Grammar
end MathMarkup
