import MathMarkup.Proofs.Grammar.Stuck
import MathMarkup.Proofs.Printing.Tokens

/-!
# Unexpected tokens and viable prefixes

The tokens before an unexpected one are continued by closing everything that is open
there.  If the second bound of an integral ends just before it, with an integral
without a written differential, that differential is written out first.
-/

namespace MathMarkup
namespace Grammar

/-! ## What gets stuck does so whatever comes later -/

theorem head?_append_congr {ts us : List Token} (h : ts.head? = us.head?)
    (consumed : List Token) : (consumed ++ ts).head? = (consumed ++ us).head? := by
  rw [List.head?_append, List.head?_append, h]

theorem Stuck.exists_consumed {category : Category} {ts rest : List Token}
    (h : Stuck category ts rest) :
    ∃ consumed, ts = consumed ++ rest ∧
      ∀ us, rest.head? = us.head? → Stuck category (consumed ++ us) us := by
  induction h with
  | operand _ ih =>
      obtain ⟨consumed, rfl, h⟩ := ih
      exact ⟨consumed, rfl, fun us hus => .operand (h us hus)⟩
  | @link _ operator _ _ _ _ hleft hoperator _ ih =>
      obtain ⟨back, rfl, h⟩ := ih
      obtain ⟨front, rfl, -⟩ := hleft.exists_consumed
      refine ⟨front ++ operator :: back, by simp, fun us hus => ?_⟩
      rw [List.append_assoc, List.cons_append]
      exact .link (hleft.endsAlike (endsAlike_cons operator _ _)) hoperator (h us hus)
  | @group opening _ _ hopening _ ih =>
      obtain ⟨inside, rfl, h⟩ := ih
      exact ⟨opening :: inside, rfl, fun us hus => .group hopening (h us hus)⟩
  | primary hts _ ih =>
      obtain ⟨consumed, rfl, h⟩ := ih
      refine ⟨consumed, rfl, fun us hus => ?_⟩
      rw [head?_append_congr hus] at hts
      exact .primary hts (h us hus)
  | sign hts =>
      refine ⟨[], rfl, fun us hus => ?_⟩
      rw [hus] at hts
      exact .sign hts
  | integrand hts _ ih =>
      obtain ⟨consumed, rfl, h⟩ := ih
      refine ⟨.integralSign :: consumed, rfl, fun us hus => ?_⟩
      rw [head?_append_congr hus] at hts
      exact .integrand hts (h us hus)
  | @firstBound marker _ _ _ hmarker _ ih =>
      obtain ⟨consumed, rfl, h⟩ := ih
      exact ⟨.integralSign :: marker :: consumed, rfl, fun us hus => .firstBound hmarker (h us hus)⟩
  | @secondBound marker marker' _ _ _ _ hmarkers hfirst _ ih =>
      obtain ⟨back, rfl, h⟩ := ih
      obtain ⟨front, rfl, -⟩ := hfirst.exists_consumed
      refine ⟨.integralSign :: marker :: (front ++ marker' :: back), by simp, fun us hus => ?_⟩
      simp only [List.cons_append, List.append_assoc]
      exact .secondBound hmarkers (hfirst.endsAlike (endsAlike_cons marker' _ _)) (h us hus)
  | @boundedIntegrand marker marker' _ _ _ _ _ _ hmarkers hfirst hsecond hvs _ ih =>
      obtain ⟨back, rfl, h⟩ := ih
      obtain ⟨second, rfl, -⟩ := hsecond.exists_consumed
      obtain ⟨first, rfl, -⟩ := hfirst.exists_consumed
      refine ⟨.integralSign :: marker :: (first ++ marker' :: (second ++ back)), by simp,
        fun us hus => ?_⟩
      simp only [List.cons_append, List.append_assoc]
      have hhead := head?_append_congr hus back
      rw [NoOperatorAhead, hhead] at hvs
      exact .boundedIntegrand hmarkers (hfirst.endsAlike (endsAlike_cons marker' _ _))
        (hsecond.endsAlike (endsAlike_of_head?_eq hhead)) hvs (h us hus)

/-! ## Writing out a last differential -/

theorem Derives.eq_or_isBinary {level : Level} {ts rest : List Token} {left e : Expr}
    (h : Derives (.links level left) ts e rest) : e = left ∧ ts = rest ∨ e.IsBinary := by
  generalize hcategory : Category.links level left = category at h
  induction h generalizing left with
  | stop =>
      obtain ⟨rfl, rfl⟩ := Category.links.inj hcategory
      exact Or.inl ⟨rfl, rfl⟩
  | link _ _ _ _ ih =>
      obtain ⟨rfl, rfl⟩ := Category.links.inj hcategory
      rcases ih rfl with ⟨rfl, -⟩ | hbinary
      · exact Or.inr trivial
      · exact Or.inr hbinary
  | _ => cases hcategory

theorem derives_operand_of_not_isBinary {level : Level} {ts rest : List Token} {e : Expr}
    (h : Derives (.chain level) ts e rest) (he : ¬e.IsBinary) :
    Derives (operand level) ts e rest := by
  cases h with
  | chain hfirst hlinks =>
      rcases hlinks.eq_or_isBinary with ⟨rfl, rfl⟩ | hbinary
      · exact hfirst
      · exact absurd hbinary he

theorem eq_cons_of_derives_var {ts rest : List Token} {name : String}
    (h : Derives (.chain .additive) ts (.var name) rest) : ts = ⟨.letter, name⟩ :: rest := by
  have hprimary : Derives .primary ts (.var name) rest :=
    derives_operand_of_not_isBinary (derives_operand_of_not_isBinary h id) id
  cases hprimary with
  | var => rfl
  | integral h => cases h

theorem EndsIntegrand.exists_written {integrand : Expr} {ts rest : List Token} {name : String}
    (h : EndsIntegrand integrand ts name rest) :
    ∃ consumed more, ts = consumed ++ rest ∧ (consumed = [] → integrand = .var name) ∧
      ∀ us, ¬StartsWithLetter us → EndsIntegrand integrand (consumed ++ (more ++ us)) name us := by
  cases h with
  | spacedMark =>
      exact ⟨[.thinSpace, .differential, ⟨.letter, name⟩], [], rfl, nofun,
        fun us _ => .spacedMark name us⟩
  | spaced =>
      exact ⟨[.thinSpace, ⟨.letter, name⟩], [], rfl, nofun,
        fun us hus => .spaced name us (Or.inr hus)⟩
  | mark => exact ⟨[.differential, ⟨.letter, name⟩], [], rfl, nofun, fun us _ => .mark name us⟩
  | unwritten _ _ hvar =>
      exact ⟨[], [.differential, ⟨.letter, name⟩], rfl, fun _ => hvar, fun us _ => .mark name us⟩

theorem exists_written_integrand {ts us rest : List Token} {integrand : Expr} {name : String}
    (hintegrand : Derives (.chain .additive) ts integrand us)
    (hname : EndsIntegrand integrand us name rest) :
    ∃ t consumed more, ts = t :: (consumed ++ rest) ∧ ∀ vs, ¬StartsWithLetter vs →
      ∃ ws, Derives (.chain .additive) (t :: (consumed ++ (more ++ vs))) integrand ws ∧
        EndsIntegrand integrand ws name vs := by
  obtain ⟨back, more, rfl, hvar, hwritten⟩ := hname.exists_written
  obtain ⟨front, rfl, -⟩ := hintegrand.exists_consumed
  cases front with
  | nil => exact absurd hintegrand.shortens (Nat.lt_irrefl _)
  | cons t front =>
      refine ⟨t, front ++ back, more, by simp, fun vs hvs => ⟨_, ?_, hwritten vs hvs⟩⟩
      rw [List.append_assoc, ← List.cons_append]
      cases back with
      | cons u back => exact hintegrand.endsAlike (endsAlike_cons u _ _)
      | nil =>
          obtain rfl := hvar rfl
          have hfront : t :: front = [⟨.letter, name⟩] :=
            List.append_cancel_right (eq_cons_of_derives_var hintegrand)
          rw [hfront]
          exact derives_chain_of_operand (derives_chain_of_operand (.var name _))

/-- Whether an expression is derived as well from more tokens, namely before
anything but a letter. -/
def Category.WritesOut (category : Category) (ts : List Token) (e : Expr) (rest : List Token) :
    Prop :=
  ∃ consumed more, ts = consumed ++ rest ∧
    ∀ us, ¬StartsWithLetter us → Derives category (consumed ++ (more ++ us)) e us

theorem exists_written_operand {level : Level} {ts us rest : List Token} {first left e : Expr}
    (hfirst : Derives (operand level) ts first us) (hlinks : Derives (.links level left) us e rest)
    (hfirstOut : (operand level).WritesOut ts first us)
    (hlinksOut : (Category.links level left).WritesOut us e rest) :
    ∃ consumed more, ts = consumed ++ rest ∧ ∀ vs, ¬StartsWithLetter vs →
      ∃ ws, Derives (operand level) (consumed ++ (more ++ vs)) first ws ∧
        Derives (.links level left) ws e vs := by
  cases hlinks with
  | stop =>
      obtain ⟨consumed, more, rfl, hwritten⟩ := hfirstOut
      exact ⟨consumed, more, rfl, fun vs hvs => ⟨vs, hwritten vs hvs, .stop⟩⟩
  | @link _ operator us _ _ _ _ _ _ hright hlater =>
      obtain ⟨back, more, hback, hwritten⟩ := hlinksOut
      obtain ⟨front, rfl, -⟩ := hfirst.exists_consumed
      cases back with
      | nil =>
          have hshort := Nat.lt_of_le_of_lt hlater.shortens (length_lt_of_operand hright.shortens)
          rw [List.nil_append] at hback
          rw [← hback, List.length_cons] at hshort
          omega
      | cons t back =>
          obtain ⟨rfl, rfl⟩ := List.cons.inj hback
          refine ⟨front ++ operator :: back, more, by simp, fun vs hvs => ⟨_, ?_, hwritten vs hvs⟩⟩
          rw [List.append_assoc]
          exact hfirst.endsAlike (endsAlike_cons operator _ _)

/-- A differential at the end that is not written can be written out, so that the same is
derived before anything but a letter. -/
theorem Derives.writesOut {category : Category} {ts rest : List Token} {e : Expr}
    (h : Derives category ts e rest) : category.WritesOut ts e rest := by
  induction h using Derives.induction_markers with
  | chain hfirst hlinks ihfirst ihlinks =>
      obtain ⟨consumed, more, rfl, hwritten⟩ :=
        exists_written_operand hfirst hlinks ihfirst ihlinks
      refine ⟨consumed, more, rfl, fun us hus => ?_⟩
      obtain ⟨ws, hfirst, hlinks⟩ := hwritten us hus
      exact .chain hfirst hlinks
  | stop => exact ⟨[], [], rfl, fun us _ => .stop⟩
  | @link _ operator _ _ _ _ _ _ hoperator hright hlinks ihright ihlinks =>
      obtain ⟨consumed, more, rfl, hwritten⟩ :=
        exists_written_operand hright hlinks ihright ihlinks
      refine ⟨operator :: consumed, more, rfl, fun us hus => ?_⟩
      obtain ⟨ws, hright, hlinks⟩ := hwritten us hus
      exact .link hoperator hright hlinks
  | number text => exact ⟨[⟨.number, text⟩], [], rfl, fun us _ => .number text us⟩
  | var name => exact ⟨[⟨.letter, name⟩], [], rfl, fun us _ => .var name us⟩
  | @group opening closing _ _ _ hopening hclosing hinner _ =>
      obtain ⟨inside, rfl, -⟩ := hinner.exists_consumed
      refine ⟨opening :: (inside ++ [closing]), [], by simp, fun us _ => ?_⟩
      rw [List.cons_append, List.append_assoc]
      exact .group hopening hclosing (hinner.endsAlike (endsAlike_cons closing _ _))
  | integral _ ih =>
      obtain ⟨consumed, more, rfl, hwritten⟩ := ih
      exact ⟨consumed, more, rfl, fun us hus => .integral (hwritten us hus)⟩
  | indefinite hintegrand hname _ =>
      obtain ⟨t, back, more, rfl, hwritten⟩ := exists_written_integrand hintegrand hname
      refine ⟨.integralSign :: t :: back, more, rfl, fun us hus => ?_⟩
      obtain ⟨ws, hintegrand, hname⟩ := hwritten us hus
      exact .indefinite hintegrand hname
  | @definite marker marker' _ _ _ _ _ _ _ _ _ hmarkers hfirst hsecond hintegrand hname _ _ _ =>
      obtain ⟨t, back, more, rfl, hwritten⟩ := exists_written_integrand hintegrand hname
      obtain ⟨second, rfl, -⟩ := hsecond.exists_consumed
      obtain ⟨first, rfl, -⟩ := hfirst.exists_consumed
      refine ⟨.integralSign :: marker :: (first ++ marker' :: (second ++ t :: back)), more, by simp,
        fun us hus => ?_⟩
      obtain ⟨ws, hintegrand, hname⟩ := hwritten us hus
      simp only [List.cons_append, List.append_assoc]
      exact derives_integral_of_markers hmarkers (hfirst.endsAlike (endsAlike_cons marker' _ _))
        (hsecond.endsAlike (endsAlike_cons t _ _)) hintegrand hname

/-! ## Continuing where reading got stuck -/

/-- A number, to stand where an expression is missing. -/
def filler : Token := ⟨.number, "0"⟩

def ending : List Token := [.differential, .differential]

theorem derives_filler (rest : List Token) :
    Derives (.chain .additive) (filler :: rest) (.number "0") rest :=
  derives_chain_of_operand (derives_chain_of_operand (.number "0" rest))

theorem endsIntegrand_ending (integrand : Expr) (rest : List Token) :
    EndsIntegrand integrand (ending ++ rest) "d" rest :=
  .mark "d" rest

theorem not_startsWithLetter_filler (rest : List Token) : ¬StartsWithLetter (filler :: rest) := by
  rintro ⟨name, rest', hcons⟩
  cases hcons

/-- Where a category gets stuck, it can be continued to an expression before any tokens at all. -/
theorem Stuck.exists_completion {category : Category} {ts rest : List Token}
    (h : Stuck category ts rest) :
    ∃ consumed more, ts = consumed ++ rest ∧
      ∀ us, ∃ e, Derives category (consumed ++ (more ++ us)) e us := by
  induction h with
  | operand _ ih =>
      obtain ⟨consumed, more, rfl, h⟩ := ih
      refine ⟨consumed, more, rfl, fun us => ?_⟩
      obtain ⟨e, he⟩ := h us
      exact ⟨e, derives_chain_of_operand he⟩
  | @link _ operator _ _ _ _ hleft hoperator _ ih =>
      obtain ⟨back, more, rfl, h⟩ := ih
      obtain ⟨front, rfl, -⟩ := hleft.exists_consumed
      refine ⟨front ++ operator :: back, more, by simp, fun us => ?_⟩
      obtain ⟨right, hright⟩ := h us
      have hleft' := hleft.endsAlike (endsAlike_cons operator _ (back ++ (more ++ us)))
      rw [List.append_assoc, List.cons_append]
      exact ⟨_, derives_chain_append hleft' hoperator hright⟩
  | @group opening _ _ hopening _ ih =>
      obtain ⟨inside, more, rfl, h⟩ := ih
      refine ⟨opening :: inside, more ++ [⟨.rightParen, ")"⟩], rfl, fun us => ?_⟩
      obtain ⟨inner, hinner⟩ := h (⟨.rightParen, ")"⟩ :: us)
      rw [List.append_assoc, List.cons_append]
      exact ⟨_, .group hopening rfl hinner⟩
  | primary _ _ ih =>
      obtain ⟨consumed, more, rfl, h⟩ := ih
      refine ⟨consumed, more, rfl, fun us => ?_⟩
      obtain ⟨e, he⟩ := h us
      exact ⟨e, .integral he⟩
  | sign =>
      refine ⟨[], .integralSign :: filler :: ending, rfl, fun us => ?_⟩
      exact ⟨_, .indefinite (derives_filler _) (endsIntegrand_ending _ us)⟩
  | integrand _ _ ih =>
      obtain ⟨consumed, more, rfl, h⟩ := ih
      refine ⟨.integralSign :: consumed, more ++ ending, rfl, fun us => ?_⟩
      obtain ⟨e, he⟩ := h (ending ++ us)
      rw [List.append_assoc, List.cons_append]
      exact ⟨_, .indefinite he (endsIntegrand_ending e us)⟩
  | @firstBound marker opposite _ _ hmarker _ ih =>
      obtain ⟨consumed, more, rfl, h⟩ := ih
      refine ⟨.integralSign :: marker :: consumed,
        more ++ ⟨opposite, ""⟩ :: filler :: filler :: ending, rfl, fun us => ?_⟩
      obtain ⟨first, hfirst⟩ := h (⟨opposite, ""⟩ :: filler :: filler :: (ending ++ us))
      rw [List.append_assoc, List.cons_append, List.cons_append]
      exact ⟨_, derives_integral_of_markers hmarker hfirst (derives_filler _) (derives_filler _)
        (endsIntegrand_ending _ us)⟩
  | @secondBound marker marker' _ _ _ _ hmarkers hfirst _ ih =>
      obtain ⟨back, more, rfl, h⟩ := ih
      obtain ⟨front, rfl, -⟩ := hfirst.exists_consumed
      refine ⟨.integralSign :: marker :: (front ++ marker' :: back), more ++ filler :: ending,
        by simp, fun us => ?_⟩
      obtain ⟨second, hsecond⟩ := h (filler :: (ending ++ us))
      simp only [List.cons_append, List.append_assoc]
      exact ⟨_, derives_integral_of_markers hmarkers
        (hfirst.endsAlike (endsAlike_cons marker' _ _)) hsecond (derives_filler _)
        (endsIntegrand_ending _ us)⟩
  | @boundedIntegrand marker marker' _ _ _ _ _ _ hmarkers hfirst hsecond _ _ ih =>
      obtain ⟨back, more, rfl, h⟩ := ih
      cases back with
      | nil =>
          obtain ⟨second, written, rfl, hwritten⟩ := hsecond.writesOut
          obtain ⟨first, rfl, -⟩ := hfirst.exists_consumed
          refine ⟨.integralSign :: marker :: (first ++ marker' :: second),
            written ++ filler :: ending, by simp, fun us => ?_⟩
          have hbound := hwritten (filler :: (ending ++ us)) (not_startsWithLetter_filler _)
          simp only [List.cons_append, List.append_assoc]
          exact ⟨_, derives_integral_of_markers hmarkers
            (hfirst.endsAlike (endsAlike_cons marker' _ _)) hbound (derives_filler _)
            (endsIntegrand_ending _ us)⟩
      | cons t back =>
          obtain ⟨second, rfl, -⟩ := hsecond.exists_consumed
          obtain ⟨first, rfl, -⟩ := hfirst.exists_consumed
          refine ⟨.integralSign :: marker :: (first ++ marker' :: (second ++ t :: back)),
            more ++ ending, by simp, fun us => ?_⟩
          obtain ⟨e, he⟩ := h (ending ++ us)
          simp only [List.cons_append, List.append_assoc]
          exact ⟨_, derives_integral_of_markers hmarkers
            (hfirst.endsAlike (endsAlike_cons marker' _ _))
            (hsecond.endsAlike (endsAlike_cons t _ _)) he (endsIntegrand_ending e us)⟩

/-! ## Whole token lists -/

/-- Whether an expression is missing at `rest`, or one ends there and something that does
not belong to it follows. -/
def StopsShort (tokens rest : List Token) : Prop :=
  Stuck (.chain .additive) tokens rest ∨
    ∃ e t us, rest = t :: us ∧ Derives (.chain .additive) tokens e rest ∧
      NoOperatorAhead .additive rest ∧ t.kind ≠ .rightParen

theorem StopsShort.append {consumed rest us : List Token}
    (h : StopsShort (consumed ++ rest) rest) (hus : rest.head? = us.head?) :
    StopsShort (consumed ++ us) us := by
  rcases h with h | ⟨e, t, vs, rfl, hderives, hstop, ht⟩
  · obtain ⟨consumed', heq, hstuck⟩ := h.exists_consumed
    obtain rfl := List.append_cancel_right heq
    exact Or.inl (hstuck us hus)
  · obtain ⟨vs', rfl⟩ := List.head?_eq_some_iff.mp hus.symm
    exact Or.inr ⟨e, t, vs', rfl, hderives.endsAlike (endsAlike_cons t vs vs'), hstop, ht⟩

theorem StopsShort.exists_accepts {consumed rest : List Token}
    (h : StopsShort (consumed ++ rest) rest) : ∃ more e, Accepts (consumed ++ more) e := by
  rcases h with h | ⟨e, t, vs, rfl, hderives, -, -⟩
  · obtain ⟨consumed', more, heq, hmore⟩ := h.exists_completion
    obtain rfl := List.append_cancel_right heq
    obtain ⟨e, he⟩ := hmore []
    rw [List.append_nil] at he
    exact ⟨more, e, he⟩
  · exact ⟨[], e, hderives.endsAlike (endsAlike_nil _)⟩

theorem index_of_reaches {consumed rest : List Token} {j : Nat}
    (h : (Cursor.start (consumed ++ rest)).Reaches ⟨j, rest⟩) : j = consumed.length := by
  obtain ⟨consumed', heq, hindex⟩ := h.exists_consumed
  obtain rfl := List.append_cancel_right heq
  exact hindex.trans (Nat.zero_add _)

theorem exists_stopsShort_of_parse {tokens : List Token} {i : Nat} {found : Option String}
    (h : parse tokens = .error (.unexpectedToken i found)) :
    ∃ consumed rest, tokens = consumed ++ rest ∧ i = consumed.length ∧
      found = rest.head?.map Token.text ∧ StopsShort tokens rest := by
  have hreaches := reaches_read (.chain .additive) (.start tokens)
  unfold parse at h
  split at h
  next e d hread =>
    obtain rfl := Except.error.inj h
    have hchain : (Category.chain .additive).read (.start tokens) = .error _ d := hread
    obtain ⟨hstuck, herror⟩ := isStuck_of_read hchain
    rw [hchain] at hreaches
    obtain ⟨consumed, htokens, hindex⟩ := hreaches.exists_consumed
    obtain ⟨rfl, rfl⟩ := ParseError.unexpectedToken.inj herror
    exact ⟨consumed, d.unread, htokens, hindex.trans (Nat.zero_add _), rfl, Or.inl hstuck⟩
  next e d hread =>
    have hchain : (Category.chain .additive).read (.start tokens) = .ok e d := hread
    rw [hchain] at hreaches
    obtain ⟨consumed, htokens, hindex⟩ := hreaches.exists_consumed
    have hderives := derives_of_read hchain
    have hstop := stopsBefore_of_read hchain trivial
    split at h
    next => cases h
    next t us hunread =>
      split at h
      next => cases h
      next ht =>
        obtain ⟨rfl, rfl⟩ := ParseError.unexpectedToken.inj (Except.error.inj h)
        exact ⟨consumed, d.unread, htokens, hindex.trans (Nat.zero_add _), rfl,
          Or.inr ⟨e, t, us, hunread, hderives, hstop, ht⟩⟩

theorem parse_of_stopsShort {consumed rest : List Token}
    (h : StopsShort (consumed ++ rest) rest) :
    parse (consumed ++ rest) =
      .error (.unexpectedToken consumed.length (rest.head?.map Token.text)) := by
  have hreaches := reaches_read (.chain .additive) (.start (consumed ++ rest))
  rcases h with h | ⟨e, t, us, rfl, hderives, hstop, ht⟩
  · obtain ⟨j, hread⟩ := h.failsAs 0
    rw [← Cursor.start] at hread
    rw [hread] at hreaches
    obtain rfl := index_of_reaches hreaches
    rw [Category.read] at hread
    rw [parse, Phrase.read, hread]
    rfl
  · obtain ⟨j, hread⟩ := hderives.readsAs hstop 0
    rw [← Cursor.start] at hread
    rw [hread] at hreaches
    obtain rfl := index_of_reaches hreaches
    rw [Category.read] at hread
    rw [parse, Phrase.read, hread]
    simp only [if_neg ht]
    rfl

/-- An unexpected token is found exactly where a token list stops short. -/
theorem parse_eq_unexpectedToken_iff {tokens : List Token} {i : Nat} {found : Option String} :
    parse tokens = .error (.unexpectedToken i found) ↔
      ∃ consumed rest, tokens = consumed ++ rest ∧ i = consumed.length ∧
        found = rest.head?.map Token.text ∧ StopsShort tokens rest := by
  refine ⟨exists_stopsShort_of_parse, ?_⟩
  rintro ⟨consumed, rest, rfl, rfl, rfl, h⟩
  exact parse_of_stopsShort h

/-- An unexpected token marks the end of the longest viable prefix: the tokens before it
can be continued to an expression, and with it no list is read any further. -/
theorem viable_of_unexpectedToken (tokens : List Token) (i : Nat) (found : Option String)
    (h : parse tokens = .error (.unexpectedToken i found)) :
    i ≤ tokens.length ∧ found = tokens[i]?.map Token.text ∧
      (∃ more e, parse (tokens.take i ++ more) = .ok e) ∧
      (i < tokens.length → ∀ others : List Token, others.take (i + 1) = tokens.take (i + 1) →
        parse others = .error (.unexpectedToken i found)) ∧
      (i = tokens.length → found = none ∧ ∃ more e, parse (tokens ++ more) = .ok e) := by
  obtain ⟨consumed, rest, rfl, rfl, rfl, hshort⟩ := parse_eq_unexpectedToken_iff.mp h
  obtain ⟨more, e, haccepts⟩ := hshort.exists_accepts
  have hviable := parse_eq_ok_of_accepts haccepts
  refine ⟨by simp, ?_, ⟨more, e, by simpa using hviable⟩, ?_, ?_⟩
  · rw [List.head?_eq_getElem?, List.getElem?_append_right (Nat.le_refl _), Nat.sub_self]
  · intro hlt others hothers
    cases rest with
    | nil => simp at hlt
    | cons t us =>
        have htake : others.take (consumed.length + 1) = consumed ++ [t] := by
          rw [hothers, List.take_length_add_append]
          rfl
        have hsplit : others = consumed ++ t :: others.drop (consumed.length + 1) := by
          rw [← List.singleton_append, ← List.append_assoc, ← htake, List.take_append_drop]
        rw [hsplit]
        exact parse_eq_unexpectedToken_iff.mpr ⟨consumed, _, rfl, rfl, rfl, hshort.append rfl⟩
  · intro hlength
    obtain rfl : rest = [] := by simpa using hlength
    rw [List.append_nil]
    exact ⟨rfl, more, e, hviable⟩

/-- An integral whose upper bound ends with an integral without a written
differential, and whose integrand is missing before a parenthesis. -/
def missingIntegrand : List Token :=
  [.integralSign, ⟨.subscript, "_"⟩, ⟨.number, "0"⟩, ⟨.superscript, "^"⟩, .integralSign,
    ⟨.letter, "d"⟩, ⟨.rightParen, ")"⟩]

theorem viable_of_missing_integrand :
    parse missingIntegrand = .error (.unexpectedToken 6 (some ")")) ∧
      (∃ more e, parse (missingIntegrand.take 6 ++ more) = .ok e) ∧
      ∀ others : List Token, others.take 7 = missingIntegrand →
        parse others = .error (.unexpectedToken 6 (some ")")) := by
  have h : parse missingIntegrand = .error (.unexpectedToken 6 (some ")")) := by decide +kernel
  obtain ⟨-, -, hmore, hothers, -⟩ := viable_of_unexpectedToken missingIntegrand 6 (some ")") h
  exact ⟨h, hmore, hothers (by decide)⟩

end Grammar
end MathMarkup
