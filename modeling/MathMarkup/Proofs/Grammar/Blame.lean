import MathMarkup.Proofs.Grammar.Progress

/-!
# Errors blame the right token

An error is given at one place, however deep inside groups, bounds and integrands,
and is handed on from there unchanged.  Following the recursion of the reading
functions finds the place among the unread tokens.
-/

namespace MathMarkup

/-- Whether a whole token list is read as an expression. -/
def IsExpression (tokens : List Token) : Prop :=
  ∃ e, parse tokens = .ok e

/-- Whether no binary operator comes first. -/
def EndsExpression (rest : List Token) : Prop :=
  ∀ t ∈ rest.head?, ∀ level : Level, ¬level.IsOperator t

def StartsWithKind (kind : TokenKind) (rest : List Token) : Prop :=
  ∃ t ∈ rest.head?, t.kind = kind

/-- Whether tokens are two expressions after opposite markers, or nothing. -/
def IsBounds (tokens : List Token) : Prop :=
  tokens = [] ∨ ∃ marker marker' first second,
    tokens = marker :: (first ++ marker' :: second) ∧
      marker.kind.oppositeMarker? = some marker'.kind ∧ IsExpression first ∧ IsExpression second

/-- Whether a differential comes first: a thin space and a variable, the letter
`d` and a variable, or none at all where an integrand that is a variable ends. -/
def StartsWithDifferential (integrand : Expr) (rest : List Token) : Prop :=
  (∃ name after, rest = .thinSpace :: ⟨.letter, name⟩ :: after) ∨
    (∃ name after, rest = .differential :: ⟨.letter, name⟩ :: after) ∨
    (∃ name, integrand = .var name) ∧ EndsIntegral rest

/-- Whether the token that an error names is to blame for it. -/
def ParseError.Blames (tokens : List Token) : ParseError → Prop
  | unexpectedToken i found =>
    i ≤ tokens.length ∧ found = tokens[i]?.map Token.text ∧ (found = none ↔ i = tokens.length)
  | unmatchedParenthesis i =>
    (∃ before closing after, tokens = before ++ closing :: after ∧ i = before.length ∧
        closing.kind = .rightParen ∧ IsExpression before) ∨
      ∃ before opening inner after, tokens = before ++ opening :: (inner ++ after) ∧
        i = before.length ∧ opening.kind = .leftParen ∧ IsExpression inner ∧
        EndsExpression after ∧ ¬StartsWithKind .rightParen after
  | malformedIntegral i =>
    ∃ before marker opposite bound after,
      tokens = before ++ .integralSign :: marker :: (bound ++ after) ∧ i = before.length + 1 ∧
      marker.kind.oppositeMarker? = some opposite ∧ IsExpression bound ∧
      EndsExpression after ∧ ¬StartsWithKind opposite after
  | unterminatedIntegral i =>
    ∃ before bounds inner after integrand,
      tokens = before ++ .integralSign :: (bounds ++ (inner ++ after)) ∧ i = before.length ∧
      IsBounds bounds ∧ parse inner = .ok integrand ∧
      EndsExpression after ∧ ¬StartsWithDifferential integrand after

namespace Grammar

open Parsing

/-- The errors that reading gives by itself, each with its place. -/
inductive Breaks : ParseError → Cursor → Prop
  | missing (site : Cursor) : Breaks site.unexpected site
  | parenthesis (i : Nat) {opening : Token} {ts rest : List Token} {inner : Expr}
      (hopening : opening.kind = .leftParen) (hinner : DerivesUpTo ts inner rest)
      (hrest : ∀ t ∈ rest.head?, t.kind ≠ .rightParen) :
      Breaks (.unmatchedParenthesis i) ⟨i, opening :: ts⟩
  | bound (i : Nat) {marker : Token} {opposite : TokenKind} {ts rest : List Token} {first : Expr}
      (hmarker : marker.kind.oppositeMarker? = some opposite) (hfirst : DerivesUpTo ts first rest)
      (hrest : ∀ t ∈ rest.head?, t.kind ≠ opposite) :
      Breaks (.malformedIntegral (i + 1)) ⟨i, .integralSign :: marker :: ts⟩
  | differential (i : Nat) {ts us rest : List Token} {integrand : Expr}
      (hbounds : BoundsUpTo ts us) (hintegrand : DerivesUpTo us integrand rest)
      (hrest : differential? integrand rest = none) :
      Breaks (.unterminatedIntegral i) ⟨i, .integralSign :: ts⟩

/-- Whether an error is given at a place that is reached from a cursor. -/
def BreaksFrom (e : ParseError) (c : Cursor) : Prop :=
  ∃ site, c.Reaches site ∧ Breaks e site

theorem Breaks.breaksFrom {e : ParseError} {c : Cursor} (h : Breaks e c) : BreaksFrom e c :=
  ⟨c, Cursor.reaches_refl c, h⟩

theorem BreaksFrom.of_reaches {e : ParseError} {c d : Cursor} (h : BreaksFrom e d)
    (hreaches : c.Reaches d) : BreaksFrom e c := by
  obtain ⟨site, hsite, hbreaks⟩ := h
  exact ⟨site, hreaches.trans hsite, hbreaks⟩

/-! ## Finding the place -/

/-- Whether every error of reading a category is given at a place that is reached. -/
def BreaksAt (category : Category) (c : Cursor) : Prop :=
  ∀ e d, category.read c = .error e d → BreaksFrom e c

def BoundsBreakAt (c : Cursor) : Prop :=
  ∀ i e d, c.index = i + 1 → (bounds c).1 = .error e d →
    BreaksFrom e ⟨i, .integralSign :: c.unread⟩

theorem breaksAt_chain {level : Level} {c : Cursor} (hfirst : BreaksAt (operand level) c)
    (hlinks : ∀ left d, d.unread.length ≤ c.unread.length → BreaksAt (.links level left) d) :
    BreaksAt (.chain level) c := by
  intro e d h
  rw [read_chain] at h
  rcases Reply.andThen_eq_error_iff.mp h with h | ⟨first, c', hread, h⟩
  · exact hfirst e d h
  · have hlater := hlinks first c' (length_unread_read_le hread) e d h
    exact hlater.of_reaches (reaches_of_read hread)

theorem breaksAt_link {level : Level} {t : Token} {i : Nat} {ts : List Token} {left : Expr}
    (ht : level.IsOperator t) (hright : BreaksAt (operand level) ⟨i + 1, ts⟩)
    (hlinks : ∀ right d, d.unread.length ≤ ts.length →
      BreaksAt (.links level (.binary left t right)) d) :
    BreaksAt (.links level left) ⟨i, t :: ts⟩ := by
  intro e d h
  rw [read_links_of_isOperator ht] at h
  refine BreaksFrom.of_reaches ?_ (Cursor.reaches_cons i t ts)
  rcases Reply.andThen_eq_error_iff.mp h with h | ⟨right, c', hread, h⟩
  · exact hright e d h
  · have hlater := hlinks right c' (length_unread_read_le hread) e d h
    exact hlater.of_reaches (reaches_of_read hread)

theorem breaksAt_group {t : Token} {i : Nat} {ts : List Token} (ht : t.kind = .leftParen)
    (hinner : BreaksAt (.chain .additive) ⟨i + 1, ts⟩) : BreaksAt .primary ⟨i, t :: ts⟩ := by
  intro e d h
  rw [Category.read, val_primary_of_leftParen ht] at h
  rcases Reply.andThen_eq_error_iff.mp h with h | ⟨inner, c', hread, h⟩
  · exact (hinner e d h).of_reaches (Cursor.reaches_cons i t ts)
  · rcases Reply.andThen_eq_error_iff.mp h with h | ⟨closing, d', -, h⟩
    · obtain ⟨rfl, -, hrest⟩ := expect_eq_error h
      exact (Breaks.parenthesis i ht (derivesUpTo_of_read hread) hrest).breaksFrom
    · cases h

theorem breaksAt_integral {i : Nat} {ts : List Token} (hbounds : BoundsBreakAt ⟨i + 1, ts⟩)
    (hintegrand : ∀ d, d.unread.length ≤ ts.length → BreaksAt (.chain .additive) d) :
    BreaksAt .integral ⟨i, .integralSign :: ts⟩ := by
  intro e d h
  rw [Category.read, val_integral_sign] at h
  rcases Reply.andThen_eq_error_iff.mp h with h | ⟨between, c', hread, h⟩
  · exact hbounds i e d rfl h
  · rcases Reply.andThen_eq_error_iff.mp h with h | ⟨integrand, d', hread', h⟩
    · have hlater := hintegrand c' (Forward.length_unread_le hread) e d h
      exact hlater.of_reaches ((Cursor.reaches_cons i _ ts).trans (reaches_of_bounds hread))
    · rcases Reply.andThen_eq_error_iff.mp h with h | ⟨name, e', -, h⟩
      · obtain ⟨rfl, -, hrest⟩ := differential_eq_error h
        exact (Breaks.differential i (boundsUpTo_of_bounds hread) (derivesUpTo_of_read hread')
          hrest).breaksFrom
      · cases h

theorem boundsBreakAt_marker {t : Token} {opposite : TokenKind} {i : Nat} {ts : List Token}
    (ht : t.kind.oppositeMarker? = some opposite)
    (hfirst : BreaksAt (.chain .additive) ⟨i + 1, ts⟩)
    (hsecond : ∀ d, d.unread.length ≤ ts.length → BreaksAt (.chain .additive) d) :
    BoundsBreakAt ⟨i, t :: ts⟩ := by
  rintro j e d ⟨⟩ h
  have hsign : (⟨j, .integralSign :: t :: ts⟩ : Cursor).Reaches ⟨j + 1 + 1, ts⟩ :=
    (Cursor.reaches_cons j _ _).trans (Cursor.reaches_cons (j + 1) t ts)
  rw [val_bounds_of_marker ht] at h
  rcases Reply.andThen_eq_error_iff.mp h with h | ⟨first, c', hread, hnext⟩
  · exact (hfirst e d h).of_reaches hsign
  rcases Reply.andThen_eq_error_iff.mp hnext with h | ⟨marker, d', hmarker, hlast⟩
  · obtain ⟨rfl, -, hrest⟩ := expect_eq_error h
    exact (Breaks.bound j ht (derivesUpTo_of_read hread) hrest).breaksFrom
  rcases Reply.andThen_eq_error_iff.mp hlast with h | ⟨second, e', -, h⟩
  · have hone : (Category.chain .additive).read ⟨j + 1 + 1, ts⟩ = .ok first c' := hread
    have hreaches := reaches_expect opposite (.malformedIntegral (j + 1)) c'
    rw [hmarker] at hreaches
    have hbefore : Cursor.Reaches ⟨j + 1 + 1, ts⟩ d' := (reaches_of_read hone).trans hreaches
    exact (hsecond d' hbefore.length_le e d h).of_reaches (hsign.trans hbefore)
  · cases h

theorem breaksFrom_of_read {category : Category} {c d : Cursor} {e : ParseError}
    (h : category.read c = .error e d) : BreaksFrom e c := by
  have hbreaks : (∀ category c, BreaksAt category c) ∧ ∀ c, BoundsBreakAt c := by
    apply reading_induction
    case chain => exact fun level c => breaksAt_chain
    case linksEnd =>
      intro level left i e d h
      rw [read_links_nil] at h
      cases h
    case linksStop =>
      intro level left i t ts ht e d h
      rw [read_links_of_not_isOperator ht] at h
      cases h
    case link =>
      exact fun level left i t ts ht hright hlinks => breaksAt_link ht hright hlinks
    case primaryEnd =>
      intro i e d h
      rw [Category.read, val_primary_nil] at h
      obtain ⟨rfl, -⟩ := Reply.error.inj h
      exact (Breaks.missing ⟨i, []⟩).breaksFrom
    case number =>
      intro i t ts ht e d h
      rw [Category.read, val_primary_of_number ht] at h
      cases h
    case letter =>
      intro i t ts ht e d h
      rw [Category.read, val_primary_of_letter ht] at h
      cases h
    case group => exact fun i t ts => breaksAt_group
    case other =>
      intro i t ts hnumber hletter hparen hintegral e d h
      rw [Category.read, val_primary_of_other hnumber hletter hparen] at h
      exact hintegral e d h
    case integralEnd =>
      intro i e d h
      rw [Category.read, val_integral_nil] at h
      obtain ⟨rfl, -⟩ := Reply.error.inj h
      exact (Breaks.missing ⟨i, []⟩).breaksFrom
    case integral => exact fun i ts => breaksAt_integral
    case noIntegral =>
      intro i t ts ht e d h
      rw [Category.read, val_integral_of_ne ht] at h
      obtain ⟨rfl, -⟩ := Reply.error.inj h
      exact (Breaks.missing ⟨i, t :: ts⟩).breaksFrom
    case boundsEnd =>
      intro i j e d _ h
      rw [val_bounds_nil] at h
      cases h
    case noBounds =>
      intro i t ts ht j e d _ h
      rw [val_bounds_of_not_marker ht] at h
      cases h
    case someBounds => exact fun i t ts opposite => boundsBreakAt_marker
  exact hbreaks.1 category c e d h

theorem breaksFrom_of_parse {tokens : List Token} {e : ParseError}
    (h : parse tokens = .error e) :
    BreaksFrom e (.start tokens) ∨ ∃ before closing after expression,
      tokens = before ++ closing :: after ∧ closing.kind = .rightParen ∧
        DerivesUpTo tokens expression (closing :: after) ∧
        e = .unmatchedParenthesis before.length := by
  unfold parse at h
  split at h
  next e' d hread =>
    obtain rfl := Except.error.inj h
    have hchain : (Category.chain .additive).read (.start tokens) = .error e' d := hread
    exact Or.inl (breaksFrom_of_read hchain)
  next expression d hread =>
    have hchain : (Category.chain .additive).read (.start tokens) = .ok expression d := hread
    have hreaches := reaches_of_read hchain
    split at h
    next => cases h
    next t us hunread =>
      split at h
      next ht =>
        obtain rfl := Except.error.inj h
        obtain ⟨before, htokens, hindex⟩ := hreaches.exists_consumed
        have hderives := derivesUpTo_of_read hread
        rw [hunread] at htokens hderives
        rw [hindex]
        refine Or.inr ⟨before, t, us, expression, htokens, ht, hderives, ?_⟩
        exact congrArg ParseError.unmatchedParenthesis (Nat.zero_add _)
      next =>
        obtain rfl := Except.error.inj h
        exact Or.inl ((Breaks.missing d).breaksFrom.of_reaches hreaches)

/-! ## The parts by themselves -/

theorem DerivesUpTo.exists_parse {ts rest : List Token} {e : Expr} (h : DerivesUpTo ts e rest) :
    ∃ inner, ts = inner ++ rest ∧ parse inner = .ok e ∧ EndsExpression rest := by
  obtain ⟨hderives, hstop⟩ := h
  obtain ⟨inner, hts, hinner⟩ := hderives.exists_consumed
  have haccepts := hinner [] (endsAlike_nil rest)
  rw [List.append_nil] at haccepts
  refine ⟨inner, hts, parse_eq_ok_of_accepts haccepts, ?_⟩
  intro t ht level
  cases level with
  | additive => exact (hstop t ht).2 rfl
  | multiplicative => exact (hstop t ht).1

theorem BoundsUpTo.exists_isBounds {ts us : List Token} (h : BoundsUpTo ts us) :
    ∃ bounds, ts = bounds ++ us ∧ IsBounds bounds := by
  cases h with
  | absent hts => exact ⟨[], rfl, Or.inl rfl⟩
  | @present marker marker' _ _ _ first second hmarkers hfirst hsecond =>
      obtain ⟨lower, rfl, hlower, -⟩ := hfirst.exists_parse
      obtain ⟨upper, rfl, hupper, -⟩ := hsecond.exists_parse
      refine ⟨marker :: (lower ++ marker' :: upper), by simp, Or.inr ?_⟩
      exact ⟨marker, marker', lower, upper, rfl, hmarkers, ⟨first, hlower⟩, ⟨second, hupper⟩⟩

theorem not_startsWithKind {kind : TokenKind} {rest : List Token}
    (h : ∀ t ∈ rest.head?, t.kind ≠ kind) : ¬StartsWithKind kind rest := by
  rintro ⟨t, ht, hkind⟩
  exact h t ht hkind

theorem not_startsWithDifferential {integrand : Expr} {rest : List Token}
    (h : differential? integrand rest = none) : ¬StartsWithDifferential integrand rest := by
  have hnone (name : String) (after : List Token) : ¬EndsIntegrand integrand rest name after := by
    intro hends
    obtain ⟨n, hsome, -⟩ := differential?_of_endsIntegrand hends
    rw [h] at hsome
    cases hsome
  rintro (⟨name, after, rfl⟩ | ⟨name, after, rfl⟩ | ⟨⟨name, hvar⟩, hends⟩)
  · by_cases hname : name = "d" ∧ StartsWithLetter after
    · obtain ⟨rfl, other, after, rfl⟩ := hname
      exact hnone other after (.spacedMark other after)
    · exact hnone name after (.spaced name after (not_and_or.mp hname))
  · exact hnone name after (.mark name after)
  · exact hnone name rest (.unwritten name rest hvar hends)

theorem EndsIntegrand.startsWithDifferential {integrand : Expr} {ts rest : List Token}
    {name : String} (h : EndsIntegrand integrand ts name rest) :
    StartsWithDifferential integrand ts := by
  cases h with
  | spacedMark => exact Or.inl ⟨_, _, rfl⟩
  | spaced => exact Or.inl ⟨_, _, rfl⟩
  | mark => exact Or.inr (Or.inl ⟨_, _, rfl⟩)
  | unwritten _ _ hvar hends => exact Or.inr (Or.inr ⟨⟨name, hvar⟩, hends⟩)

/-! ## Blame -/

/-- An error that is given at a place blames the token that it names. -/
theorem Breaks.blames {e : ParseError} {before rest : List Token}
    (h : Breaks e ⟨before.length, rest⟩) : e.Blames (before ++ rest) := by
  generalize hsite : Cursor.mk before.length rest = site at h
  cases h with
  | missing =>
      subst hsite
      refine ⟨by simp, ?_, ?_⟩
      · rw [List.getElem?_append_right (Nat.le_refl _), Nat.sub_self, ← List.head?_eq_getElem?]
      · cases rest with
        | nil => simp
        | cons t ts => simp
  | @parenthesis i opening ts rest inner hopening hinner hrest =>
      obtain ⟨rfl, rfl⟩ := Cursor.mk.inj hsite
      obtain ⟨inside, rfl, hparse, hends⟩ := hinner.exists_parse
      exact Or.inr ⟨before, opening, inside, rest, rfl, rfl, hopening, ⟨inner, hparse⟩, hends,
        not_startsWithKind hrest⟩
  | @bound i marker opposite ts rest first hmarker hfirst hrest =>
      obtain ⟨rfl, rfl⟩ := Cursor.mk.inj hsite
      obtain ⟨inside, rfl, hparse, hends⟩ := hfirst.exists_parse
      exact ⟨before, marker, opposite, inside, rest, rfl, rfl, hmarker, ⟨first, hparse⟩, hends,
        not_startsWithKind hrest⟩
  | @differential i ts us rest integrand hbounds hintegrand hrest =>
      obtain ⟨rfl, rfl⟩ := Cursor.mk.inj hsite
      obtain ⟨bounds, rfl, hisBounds⟩ := hbounds.exists_isBounds
      obtain ⟨inside, rfl, hparse, hends⟩ := hintegrand.exists_parse
      exact ⟨before, bounds, inside, rest, integrand, rfl, rfl, hisBounds, hparse, hends,
        not_startsWithDifferential hrest⟩

/-- The token that an error names is to blame for it. -/
theorem blames_of_parse_eq_error (tokens : List Token) (e : ParseError)
    (h : parse tokens = .error e) : e.Blames tokens := by
  rcases breaksFrom_of_parse h with
    ⟨⟨i, rest⟩, hreaches, hbreaks⟩ | ⟨before, closing, after, e', rfl, hkind, hderives, rfl⟩
  · obtain ⟨before, htokens, hindex⟩ := hreaches.exists_consumed
    obtain rfl : i = before.length := hindex.trans (Nat.zero_add _)
    obtain rfl : tokens = before ++ rest := htokens
    exact hbreaks.blames
  · obtain ⟨inner, heq, hparse, -⟩ := hderives.exists_parse
    obtain rfl := List.append_cancel_right heq
    exact Or.inl ⟨before, closing, after, rfl, rfl, hkind, e', hparse⟩

/-- A definite integral of a sum in parentheses, without a differential. -/
def bareIntegral : List Token :=
  [⟨.number, "2"⟩, ⟨.times, "*"⟩, .integralSign, ⟨.superscript, "^"⟩, .integralSign,
    ⟨.letter, "d"⟩, ⟨.subscript, "_"⟩, ⟨.number, "0"⟩, ⟨.leftParen, "("⟩, ⟨.letter, "x"⟩,
    ⟨.plus, "+"⟩, ⟨.number, "1"⟩, ⟨.rightParen, ")"⟩, .thinSpace, ⟨.minus, "-"⟩, ⟨.letter, "x"⟩]

theorem blames_of_bare_integral :
    parse bareIntegral = .error (.unterminatedIntegral 2) ∧
      (ParseError.unterminatedIntegral 2).Blames bareIntegral := by
  have h : parse bareIntegral = .error (.unterminatedIntegral 2) := by decide +kernel
  exact ⟨h, blames_of_parse_eq_error bareIntegral _ h⟩

end Grammar
end MathMarkup
