import MathMarkup.Outline.Layout
import MathMarkup.Proofs.Outline.Quoting

/-!
# Legible outlines are unambiguous

Every outline begins with a word, which may be empty.  What follows the word shows
whether it is all, or a label, or a name, and what stands between two items differs
from what stands after the last one.
-/

namespace MathMarkup
namespace Outline

variable {layout : Layout} {depth : Nat} {bracket : Bracket}

theorem toList_inline_later (depth : Nat) (bracket : Bracket) {items : List Outline}
    (hitems : ∀ item ∈ items, ∀ depth, item.inline.toList = item.chars .inline depth) :
    (inline.later items ++ bracket.padding ++ bracket.closing).toList =
      chars.later .inline depth bracket items := by
  induction items with
  | nil => simp [inline.later, chars.later, Layout.after]
  | cons item items ih =>
      obtain ⟨hitem, hlater⟩ := List.forall_mem_cons.mp hitems
      have ih := ih hlater
      simp only [String.toList_append] at ih
      simp [inline.later, chars.later, Layout.between, hitem (depth + 1), ih]

theorem toList_inline (o : Outline) (depth : Nat) : o.inline.toList = o.chars .inline depth := by
  induction o generalizing depth with
  | atom text => simp [inline, chars]
  | field label value hvalue => simp [inline, chars, hvalue depth]
  | node name bracket items hitems =>
      cases items with
      | nil => simp [inline, chars]
      | cons item items =>
          obtain ⟨hitem, hlater⟩ := List.forall_mem_cons.mp hitems
          have hrest := toList_inline_later depth bracket hlater
          simp only [String.toList_append] at hrest
          simp [inline, chars, Layout.before, hitem (depth + 1), hrest]

theorem toList_indented_lines (depth : Nat) (bracket : Bracket) {items : List Outline}
    (hitems : ∀ item ∈ items, ∀ depth, (item.indented depth).toList = item.chars .indented depth) :
    ("," ++ indented.lines depth items ++ newline depth ++ bracket.closing).toList =
      chars.later .indented depth bracket items := by
  induction items with
  | nil => simp [indented.lines, chars.later, Layout.after]
  | cons item items ih =>
      obtain ⟨hitem, hlater⟩ := List.forall_mem_cons.mp hitems
      have ih := ih hlater
      simp only [String.toList_append] at ih
      simp [indented.lines, chars.later, Layout.between, hitem (depth + 1), ← ih]

theorem toList_indented (o : Outline) (depth : Nat) :
    (o.indented depth).toList = o.chars .indented depth := by
  induction o generalizing depth with
  | atom text => simp [indented, chars]
  | field label value hvalue => simp [indented, chars, hvalue depth]
  | node name bracket items hitems =>
      cases items with
      | nil => simp [indented, chars]
      | cons item items =>
          obtain ⟨hitem, hlater⟩ := List.forall_mem_cons.mp hitems
          have hrest := toList_indented_lines depth bracket hlater
          simp only [String.toList_append] at hrest
          simp [indented, indented.lines, chars, Layout.before, hitem (depth + 1), ← hrest]

theorem endsWord_cons {c : Char} {cs : List Char} : EndsWord (c :: cs) ↔ ¬isWordChar c := by
  simp [EndsWord]

theorem endsWord_opening (bracket : Bracket) (rest : List Char) :
    EndsWord (bracket.opening.toList ++ rest) := by
  cases bracket <;> exact endsWord_cons.mpr (by decide)

theorem before_opening (bracket : Bracket) (rest : List Char) :
    Role.before (bracket.opening.toList ++ rest) = .name bracket := by
  cases bracket <;> rfl

theorem endsOutline_nil : EndsOutline [] := by
  simp [EndsOutline, EndsWord, Role.before]

theorem endsOutline_cons {c : Char} (hc : c ∈ [',', ')', ']']) (cs : List Char) :
    EndsOutline (c :: cs) := by
  simp only [List.mem_cons, List.not_mem_nil, or_false] at hc
  rcases hc with rfl | rfl | rfl <;> exact ⟨endsWord_cons.mpr (by decide), by simp, rfl⟩

theorem endsOutline_curly (cs : List Char) : EndsOutline (' ' :: '\x7d' :: cs) :=
  ⟨endsWord_cons.mpr (by decide), by simp, rfl⟩

theorem IsWord.append_inj {word word' : String} {rest rest' : List Char} (hword : IsWord word)
    (hword' : IsWord word') (hrest : EndsWord rest) (hrest' : EndsWord rest')
    (h : word.toList ++ rest = word'.toList ++ rest') : word = word' ∧ rest = rest' := by
  obtain ⟨hwords, hrests⟩ := Text.append_inj_of_class hword hword' hrest hrest' h
  exact ⟨String.toList_inj.mp hwords, hrests⟩

theorem IsWord.append_ne_quoted {word : String} {rest : List Char} (hword : IsWord word)
    (hrest : EndsOutline rest) (s : String) (rest' : List Char) :
    word.toList ++ rest ≠ (Text.quoteString s).toList ++ rest' := by
  intro h
  rw [Text.toList_quoteString] at h
  have hempty : IsWord "" := by decide
  obtain ⟨rfl, rfl⟩ := hword.append_inj hempty hrest.1 (endsWord_cons.mpr (by decide)) h
  exact hrest.2.1 rfl

theorem IsAtom.append_inj {text text' : String} {rest rest' : List Char} (htext : IsAtom text)
    (htext' : IsAtom text') (hrest : EndsOutline rest) (hrest' : EndsOutline rest')
    (h : text.toList ++ rest = text'.toList ++ rest') : text = text' ∧ rest = rest' := by
  cases htext with
  | word hword =>
      cases htext' with
      | word hword' => exact hword.append_inj hword' hrest.1 hrest'.1 h
      | quoted s' => exact absurd h (hword.append_ne_quoted hrest s' rest')
  | quoted s =>
      cases htext' with
      | word hword' => exact absurd h.symm (hword'.append_ne_quoted hrest' s rest)
      | quoted s' =>
          rw [Text.toList_quoteString, Text.toList_quoteString] at h
          obtain ⟨htexts, hrests⟩ := Text.quoteWith_append_inj h
          exact ⟨congrArg Text.quoteString (String.toList_inj.mp htexts), hrests⟩

/-! ## The first word of an outline -/

theorem chars_field_append (label : String) (value : Outline) (rest : List Char) :
    (field label value).chars layout depth ++ rest =
      label.toList ++ ':' :: ' ' :: (value.chars layout depth ++ rest) := by
  simp [chars]

theorem chars_node_append (name : String) (bracket : Bracket) (item : Outline)
    (items : List Outline) (rest : List Char) :
    (node name bracket (item :: items)).chars layout depth ++ rest =
      name.toList ++ (bracket.opening.toList ++ (layout.before depth bracket ++
        (item.chars layout (depth + 1) ++ (chars.later layout depth bracket items ++ rest)))) := by
  simp [chars]

theorem Legible.exists_word {o : Outline} {rest : List Char} (ho : o.Legible)
    (hrest : EndsOutline rest) :
    ∃ word tail, IsWord word ∧ EndsWord tail ∧ Role.before tail = o.role ∧
      o.chars layout depth ++ rest = word.toList ++ tail := by
  cases ho with
  | atom htext =>
      cases htext with
      | word hword => exact ⟨_, rest, hword, hrest.1, hrest.2.2, rfl⟩
      | quoted s =>
          refine ⟨"", '"' :: (s.toList.flatMap (Text.escapeChar '"') ++ '"' :: rest), by decide,
            endsWord_cons.mpr (by decide), rfl, ?_⟩
          simp [chars, Text.toList_quoteString, Text.quoteWith]
  | field hlabel hvalue =>
      exact ⟨_, _, hlabel, endsWord_cons.mpr (by decide), rfl, chars_field_append _ _ rest⟩
  | node hname hitem hitems =>
      exact ⟨_, _, hname, endsWord_opening _ _, before_opening _ _,
        chars_node_append _ _ _ _ rest⟩

theorem Legible.role_eq {o o' : Outline} {rest rest' : List Char} (ho : o.Legible)
    (ho' : o'.Legible) (hrest : EndsOutline rest) (hrest' : EndsOutline rest')
    (h : o.chars layout depth ++ rest = o'.chars layout depth ++ rest') : o.role = o'.role := by
  obtain ⟨word, tail, hword, htail, hrole, hchars⟩ := ho.exists_word hrest
  obtain ⟨word', tail', hword', htail', hrole', hchars'⟩ := ho'.exists_word hrest'
  obtain ⟨-, rfl⟩ := hword.append_inj hword' htail htail' (hchars.symm.trans (h.trans hchars'))
  exact hrole.symm.trans hrole'

/-! ## The items of a node -/

theorem endsOutline_later (layout : Layout) (depth : Nat) (bracket : Bracket)
    (items : List Outline) (rest : List Char) :
    EndsOutline (chars.later layout depth bracket items ++ rest) := by
  cases items with
  | cons item items => cases layout <;> exact endsOutline_cons (by decide) _
  | nil =>
      cases layout with
      | indented => exact endsOutline_cons (by decide) _
      | inline =>
          cases bracket with
          | curly => exact endsOutline_curly _
          | round | square => exact endsOutline_cons (by decide) _

/-- What stands after the last item does not begin what stands between two items. -/
theorem after_append_ne (layout : Layout) (depth : Nat) (bracket : Bracket)
    (rest rest' : List Char) :
    layout.after depth bracket ++ (bracket.closing.toList ++ rest) ≠
      layout.between depth ++ rest' := by
  cases layout with
  | inline => cases bracket <;> simp [Layout.after, Layout.between, Bracket.padding, Bracket.closing]
  | indented =>
      simp only [Layout.after, Layout.between, newline, String.toList_ofList, Nat.mul_succ,
        ← List.replicate_append_replicate, List.cons_append, List.append_assoc, ne_eq,
        List.cons.injEq, true_and, List.append_cancel_left_eq]
      cases bracket <;> simp [Bracket.closing, List.replicate_succ]

/-- Whether the text of an outline determines the outline, and where its text ends. -/
def Unambiguous (layout : Layout) (o : Outline) : Prop :=
  ∀ ⦃o' : Outline⦄ ⦃depth : Nat⦄ ⦃rest rest' : List Char⦄, o'.Legible →
    EndsOutline rest → EndsOutline rest' →
    o.chars layout depth ++ rest = o'.chars layout depth ++ rest' → o = o' ∧ rest = rest'

theorem later_append_inj {items items' : List Outline} {rest rest' : List Char}
    (hitems : ∀ item ∈ items, item.Unambiguous layout) (hitems' : ∀ item ∈ items', item.Legible)
    (h : chars.later layout depth bracket items ++ rest =
      chars.later layout depth bracket items' ++ rest') : items = items' ∧ rest = rest' := by
  induction items generalizing items' with
  | nil =>
      cases items' with
      | nil => exact ⟨rfl, List.append_cancel_left h⟩
      | cons item' items' =>
          simp only [chars.later, List.append_assoc] at h
          exact absurd h (after_append_ne layout depth bracket _ _)
  | cons item items ih =>
      obtain ⟨hitem, hlater⟩ := List.forall_mem_cons.mp hitems
      cases items' with
      | nil =>
          simp only [chars.later, List.append_assoc] at h
          exact absurd h.symm (after_append_ne layout depth bracket _ _)
      | cons item' items' =>
          obtain ⟨hitem', hlater'⟩ := List.forall_mem_cons.mp hitems'
          simp only [chars.later, List.append_assoc] at h
          obtain ⟨rfl, hnext⟩ := hitem hitem' (endsOutline_later layout depth bracket _ _)
            (endsOutline_later layout depth bracket _ _) (List.append_cancel_left h)
          obtain ⟨rfl, hrests⟩ := ih hlater hlater' hnext
          exact ⟨rfl, hrests⟩

/-! ## Outlines -/

theorem unambiguous_atom {text : String} (htext : IsAtom text) :
    (atom text).Unambiguous layout := by
  intro o' depth rest rest' ho' hrest hrest' h
  have hrole := (Legible.atom htext).role_eq ho' hrest hrest' h
  cases ho' with
  | atom htext' =>
      obtain ⟨rfl, hrests⟩ := htext.append_inj htext' hrest hrest' h
      exact ⟨rfl, hrests⟩
  | field | node => cases hrole

theorem unambiguous_field {label : String} {value : Outline} (hlabel : IsWord label)
    (hlegible : value.Legible) (hvalue : value.Unambiguous layout) :
    (field label value).Unambiguous layout := by
  intro o' depth rest rest' ho' hrest hrest' h
  have hrole := (Legible.field hlabel hlegible).role_eq ho' hrest hrest' h
  cases ho' with
  | field hlabel' hvalue' =>
      rw [chars_field_append, chars_field_append] at h
      have hcolon : ∀ cs, EndsWord (':' :: cs) := fun cs => endsWord_cons.mpr (by decide)
      obtain ⟨rfl, htails⟩ := hlabel.append_inj hlabel' (hcolon _) (hcolon _) h
      obtain ⟨rfl, hrests⟩ := hvalue hvalue' hrest hrest' (by simpa using htails)
      exact ⟨rfl, hrests⟩
  | atom | node => cases hrole

theorem unambiguous_node {name : String} {item : Outline} {items : List Outline}
    (hname : IsWord name) (hlegible : ∀ other ∈ item :: items, other.Legible)
    (hitems : ∀ other ∈ item :: items, other.Unambiguous layout) :
    (node name bracket (item :: items)).Unambiguous layout := by
  intro o' depth rest rest' ho' hrest hrest' h
  obtain ⟨hitem, hlater⟩ := List.forall_mem_cons.mp hitems
  obtain ⟨hlegible, hlegibles⟩ := List.forall_mem_cons.mp hlegible
  have hrole := (Legible.node hname hlegible hlegibles).role_eq ho' hrest hrest' h
  cases ho' with
  | node hname' hitem' hlater' =>
      cases hrole
      rw [chars_node_append, chars_node_append] at h
      obtain ⟨rfl, htails⟩ :=
        hname.append_inj hname' (endsWord_opening _ _) (endsWord_opening _ _) h
      have hinner := List.append_cancel_left (List.append_cancel_left htails)
      obtain ⟨rfl, hnext⟩ := hitem hitem' (endsOutline_later layout depth bracket _ _)
        (endsOutline_later layout depth bracket _ _) hinner
      obtain ⟨rfl, hrests⟩ := later_append_inj hlater hlater' hnext
      exact ⟨rfl, hrests⟩
  | atom | field => cases hrole

theorem Legible.unambiguous {o : Outline} (ho : o.Legible) (layout : Layout) :
    o.Unambiguous layout := by
  induction ho with
  | atom htext => exact unambiguous_atom htext
  | field hlabel hlegible hvalue => exact unambiguous_field hlabel hlegible hvalue
  | node hname hlegible hlegibles hitem hitems =>
      exact unambiguous_node hname (List.forall_mem_cons.mpr ⟨hlegible, hlegibles⟩)
        (List.forall_mem_cons.mpr ⟨hitem, hitems⟩)

/-- In either layout a legible outline is determined by its text. -/
theorem Legible.chars_inj (layout : Layout) (depth : Nat) {o o' : Outline} (ho : o.Legible)
    (ho' : o'.Legible) (h : o.chars layout depth = o'.chars layout depth) : o = o' :=
  (ho.unambiguous layout ho' endsOutline_nil endsOutline_nil (congrArg (· ++ []) h)).1

theorem Legible.inline_inj {o o' : Outline} (ho : o.Legible) (ho' : o'.Legible)
    (h : o.inline = o'.inline) : o = o' := by
  apply ho.chars_inj .inline 0 ho'
  rw [← toList_inline, ← toList_inline, h]

theorem Legible.indented_inj {o o' : Outline} (ho : o.Legible) (ho' : o'.Legible) {depth : Nat}
    (h : o.indented depth = o'.indented depth) : o = o' := by
  apply ho.chars_inj .indented depth ho'
  rw [← toList_indented, ← toList_indented, h]

end Outline
end MathMarkup
