import MathMarkup.Proofs.Grammar.Stuck
import MathMarkup.Proofs.Reading.Sessions

/-!
# Texts are opaque

Reading compares texts nowhere but with the four keywords.  So renaming the tokens
first and reading then is the same as reading first and renaming what was read.
-/

namespace MathMarkup

/-- The tokens that reading knows by their texts. -/
def Token.keywords : List Token :=
  [.integralSign, .modulo, .thinSpace, .differential]

/-- Whether a map on tokens keeps the kind of every token, and maps a token to a
keyword exactly if it is that keyword. -/
structure Token.IsRenaming (f : Token → Token) : Prop where
  kind_eq (t : Token) : (f t).kind = t.kind
  eq_keyword_iff (keyword : Token) (h : keyword ∈ keywords) (t : Token) :
    f t = keyword ↔ t = keyword

/-- The error with the token that it shows mapped. -/
def ParseError.rename (f : Token → Token) (tokens : List Token) : ParseError → ParseError
  | unexpectedToken index _ => unexpectedToken index (tokens[index]?.map fun t => (f t).text)
  | e => e

def renameOutcome (f : Token → Token) (tokens : List Token) :
    Except ParseError Expr → Except ParseError Expr
  | .ok e => .ok (e.rename f)
  | .error e => .error (e.rename f tokens)

def Session.rename (f : Token → Token) (s : Session) : Session := ⟨s.tokens.map f, s.index⟩

open Grammar
open Parsing hiding operand

/-! ## What a renaming keeps -/

namespace Token.IsRenaming

variable {f : Token → Token} (hf : IsRenaming f)

include hf

theorem keyword_eq {keyword : Token} (h : keyword ∈ keywords) : f keyword = keyword :=
  (hf.eq_keyword_iff keyword h keyword).mpr rfl

theorem integralSign_eq : f .integralSign = .integralSign := hf.keyword_eq (by decide)

theorem thinSpace_eq : f .thinSpace = .thinSpace := hf.keyword_eq (by decide)

theorem differential_eq : f .differential = .differential := hf.keyword_eq (by decide)

theorem eq_thinSpace {t : Token} (h : f t = .thinSpace) : t = .thinSpace :=
  (hf.eq_keyword_iff .thinSpace (by decide) t).mp h

theorem eq_differential {t : Token} (h : f t = .differential) : t = .differential :=
  (hf.eq_keyword_iff .differential (by decide) t).mp h

theorem isOperator_iff (level : Level) (t : Token) :
    level.IsOperator (f t) ↔ level.IsOperator t := by
  cases level with
  | additive => simp only [Level.IsOperator, hf.kind_eq]
  | multiplicative =>
      rw [Level.IsOperator, Level.IsOperator, hf.kind_eq,
        hf.eq_keyword_iff .modulo (by decide)]

theorem letter_eq (name : String) : f ⟨.letter, name⟩ = ⟨.letter, (f ⟨.letter, name⟩).text⟩ :=
  congrArg (Token.mk · (f ⟨.letter, name⟩).text) (hf.kind_eq ⟨.letter, name⟩)

theorem eq_letter_of_eq {t : Token} {name : String} (h : f t = ⟨.letter, name⟩) :
    t = ⟨.letter, t.text⟩ := by
  have hkind : t.kind = .letter := by rw [← hf.kind_eq, h]
  rw [← hkind]

theorem endsIntegral_iff (ts : List Token) : EndsIntegral (ts.map f) ↔ EndsIntegral ts := by
  cases ts with
  | nil => rfl
  | cons t ts => simp only [List.map_cons, EndsIntegral, hf.kind_eq]

/-! ## Differentials -/

theorem startsWithLetter_iff (ts : List Token) :
    StartsWithLetter (ts.map f) ↔ StartsWithLetter ts := by
  constructor
  · rintro ⟨name, rest, h⟩
    obtain ⟨t, ts', rfl, ht, -⟩ := List.map_eq_cons_iff.mp h
    exact ⟨t.text, ts', by rw [← hf.eq_letter_of_eq ht]⟩
  · rintro ⟨name, rest, rfl⟩
    exact ⟨_, rest.map f, by rw [List.map_cons, hf.letter_eq]⟩

theorem endsIntegrand {integrand : Expr} {ts rest : List Token} {name : String}
    (h : EndsIntegrand integrand ts name rest) :
    EndsIntegrand (integrand.rename f) (ts.map f) (f ⟨.letter, name⟩).text (rest.map f) := by
  cases h with
  | spacedMark =>
      rw [List.map_cons, List.map_cons, List.map_cons, hf.thinSpace_eq, hf.differential_eq,
        hf.letter_eq]
      exact .spacedMark _ _
  | spaced _ _ hname =>
      rw [List.map_cons, List.map_cons, hf.thinSpace_eq, hf.letter_eq]
      refine .spaced _ _ ?_
      rw [hf.startsWithLetter_iff]
      refine hname.imp_left fun hne heq => hne ?_
      have hmark : f ⟨.letter, name⟩ = .differential := by
        rw [hf.letter_eq, heq]
        rfl
      exact congrArg Token.text (hf.eq_differential hmark)
  | mark =>
      rw [List.map_cons, List.map_cons, hf.differential_eq, hf.letter_eq]
      exact .mark _ _
  | unwritten _ _ hvar hends =>
      exact .unwritten _ _ (congrArg (Expr.rename f) hvar) ((hf.endsIntegral_iff ts).mpr hends)

theorem exists_endsIntegrand {integrand : Expr} {ts rest : List Token} {name : String}
    (h : EndsIntegrand (integrand.rename f) (ts.map f) name rest) :
    ∃ name' rest', EndsIntegrand integrand ts name' rest' := by
  generalize hmap : ts.map f = us at h
  cases h with
  | spacedMark =>
      obtain ⟨space, ts, rfl, hspace, hmap⟩ := List.map_eq_cons_iff.mp hmap
      obtain ⟨mark, ts, rfl, hmark, hmap⟩ := List.map_eq_cons_iff.mp hmap
      obtain ⟨letter, ts, rfl, hletter, -⟩ := List.map_eq_cons_iff.mp hmap
      rw [hf.eq_thinSpace hspace, hf.eq_differential hmark,
        hf.eq_letter_of_eq hletter]
      exact ⟨_, _, .spacedMark _ _⟩
  | spaced _ _ hname =>
      obtain ⟨space, ts, rfl, hspace, hmap⟩ := List.map_eq_cons_iff.mp hmap
      obtain ⟨letter, ts, rfl, hletter, hmap⟩ := List.map_eq_cons_iff.mp hmap
      rw [← hmap, hf.startsWithLetter_iff] at hname
      rw [hf.eq_thinSpace hspace, hf.eq_letter_of_eq hletter]
      refine ⟨_, _, .spaced letter.text ts (hname.imp_left fun hne heq => hne ?_)⟩
      have hmark : f letter = .differential := by
        rw [hf.eq_letter_of_eq hletter, heq]
        exact hf.differential_eq
      exact congrArg Token.text (hletter.symm.trans hmark)
  | mark =>
      obtain ⟨mark, ts, rfl, hmark, hmap⟩ := List.map_eq_cons_iff.mp hmap
      obtain ⟨letter, ts, rfl, hletter, -⟩ := List.map_eq_cons_iff.mp hmap
      rw [hf.eq_differential hmark, hf.eq_letter_of_eq hletter]
      exact ⟨_, _, .mark _ _⟩
  | unwritten _ _ hvar hends =>
      rw [← hmap, hf.endsIntegral_iff] at hends
      cases integrand with
      | var name' => exact ⟨_, _, .unwritten name' ts rfl hends⟩
      | _ => cases hvar

theorem differential?_eq (integrand : Expr) (ts : List Token) :
    differential? (integrand.rename f) (ts.map f) =
      (differential? integrand ts).map fun found => ((f ⟨.letter, found.1⟩).text, found.2) := by
  cases hdiff : differential? integrand ts with
  | none =>
      cases hdiff' : differential? (integrand.rename f) (ts.map f) with
      | none => rfl
      | some found =>
          obtain ⟨name, rest, hends⟩ :=
            hf.exists_endsIntegrand (endsIntegrand_of_differential? hdiff')
          obtain ⟨n, hsome, -⟩ := differential?_of_endsIntegrand hends
          rw [hdiff] at hsome
          cases hsome
  | some found =>
      obtain ⟨name, n⟩ := found
      obtain ⟨hn, hends⟩ := differential?_eq_some_iff.mp hdiff
      have hends' := hf.endsIntegrand hends
      rw [List.map_drop] at hends'
      exact differential?_eq_some_iff.mpr ⟨by rwa [List.length_map], hends'⟩

end Token.IsRenaming

/-! ## Replies -/

def Cursor.rename (f : Token → Token) (c : Cursor) : Cursor := ⟨c.index, c.unread.map f⟩

/-- The error with the next token mapped, if it blames that one. -/
def ParseError.renameAt (f : Token → Token) (c : Cursor) : ParseError → ParseError
  | unexpectedToken index _ =>
    unexpectedToken index (c.unread.head?.map fun t => (f t).text)
  | e => e

def Reply.rename {α β : Type} (f : Token → Token) (g : α → β) : Reply α → Reply β
  | .ok value c => .ok (g value) (c.rename f)
  | .error e c => .error (e.renameAt f c) (c.rename f)

/-- Going on from a renamed reply is going on first and renaming the last reply. -/
theorem Reply.andThen_eq_rename {α β α' β' : Type} {f : Token → Token} {g : α → α'} {g' : β → β'}
    {reply : Reply α} {reply' : Reply α'} {next : α → Cursor → Reply β}
    {next' : α' → Cursor → Reply β'} (h : reply' = reply.rename f g)
    (hnext : ∀ value d, reply = .ok value d →
      next' (g value) (d.rename f) = (next value d).rename f g') :
    reply'.andThen next' = (reply.andThen next).rename f g' := by
  rw [h]
  cases reply with
  | ok value d => exact hnext value d rfl
  | error e d => rfl

namespace Grammar

variable {f : Token → Token} (hf : Token.IsRenaming f)

/-- The category with the part of a chain that is read already renamed. -/
def Category.rename (f : Token → Token) : Category → Category
  | .chain level => .chain level
  | .links level left => .links level (left.rename f)
  | .primary => .primary
  | .integral => .integral

def renameBounds (f : Token → Token) (between : Bounds) : Bounds :=
  (between.1.map (Expr.rename f), between.2.map (Expr.rename f))

/-- Whether reading a category among renamed tokens is reading it and renaming the reply. -/
def RenamesAt (f : Token → Token) (category : Category) (c : Cursor) : Prop :=
  (category.rename f).read (c.rename f) = (category.read c).rename f (Expr.rename f)

def BoundsRenameAt (f : Token → Token) (c : Cursor) : Prop :=
  (bounds (c.rename f)).1 = (bounds c).1.rename f (renameBounds f)

theorem rename_operand (level : Level) : (operand level).rename f = operand level := by
  cases level <;> rfl

theorem renamesAt_chain {level : Level} {c : Cursor} (hfirst : RenamesAt f (operand level) c)
    (hlinks : ∀ left d, d.unread.length ≤ c.unread.length → RenamesAt f (.links level left) d) :
    RenamesAt f (.chain level) c := by
  rw [RenamesAt, rename_operand] at hfirst
  rw [RenamesAt, Category.rename, read_chain, read_chain]
  exact Reply.andThen_eq_rename hfirst fun first d hread =>
    hlinks first d (length_unread_read_le hread)

include hf

theorem expect_rename (kind : TokenKind) {e : ParseError} (he : ∀ d, e.renameAt f d = e)
    (c : Cursor) :
    (expect kind e (c.rename f)).1 = (expect kind e c).1.rename f f := by
  obtain ⟨i, ts⟩ := c
  cases ts with
  | nil => exact congrArg (Reply.error · _) (he ⟨i, []⟩).symm
  | cons t ts =>
      by_cases ht : t.kind = kind
      · rw [val_expect_of_kind ht]
        exact val_expect_of_kind ((hf.kind_eq t).trans ht) e i (ts.map f)
      · rw [val_expect_of_ne ht, Reply.rename, he]
        exact val_expect_of_ne (by rwa [hf.kind_eq]) e i (ts.map f)

theorem differential_rename (integrand : Expr) {e : ParseError}
    (he : ∀ d, e.renameAt f d = e) (c : Cursor) :
    (differential (integrand.rename f) e (c.rename f)).1 =
      (differential integrand e c).1.rename f fun name => (f ⟨.letter, name⟩).text := by
  have hfound := hf.differential?_eq integrand c.unread
  cases hdiff : differential? integrand c.unread with
  | none =>
      rw [hdiff] at hfound
      rw [val_differential_of_none hdiff, Reply.rename, he]
      exact val_differential_of_none hfound e
  | some found =>
      obtain ⟨name, n⟩ := found
      rw [hdiff] at hfound
      rw [val_differential_of_some hdiff, val_differential_of_some hfound, Reply.rename]
      simp only [Cursor.rename, Cursor.skip, List.map_drop]

theorem renamesAt_link {level : Level} {t : Token} {i : Nat} {ts : List Token} {left : Expr}
    (ht : level.IsOperator t) (hright : RenamesAt f (operand level) ⟨i + 1, ts⟩)
    (hlinks : ∀ right d, d.unread.length ≤ ts.length →
      RenamesAt f (.links level (.binary left t right)) d) :
    RenamesAt f (.links level left) ⟨i, t :: ts⟩ := by
  rw [RenamesAt, rename_operand] at hright
  rw [RenamesAt, read_links_of_isOperator ht]
  have hoperator : level.IsOperator (f t) := (hf.isOperator_iff level t).mpr ht
  refine (read_links_of_isOperator hoperator (left.rename f) i (ts.map f)).trans ?_
  exact Reply.andThen_eq_rename hright fun right d hread =>
    hlinks right d (length_unread_read_le hread)

theorem renamesAt_group {t : Token} {i : Nat} {ts : List Token} (ht : t.kind = .leftParen)
    (hinner : RenamesAt f (.chain .additive) ⟨i + 1, ts⟩) : RenamesAt f .primary ⟨i, t :: ts⟩ := by
  have hopening : (f t).kind = .leftParen := (hf.kind_eq t).trans ht
  rw [RenamesAt, Category.read, val_primary_of_leftParen ht]
  refine (val_primary_of_leftParen hopening i (ts.map f)).trans ?_
  refine Reply.andThen_eq_rename hinner fun inner d _ => ?_
  exact Reply.andThen_eq_rename (expect_rename hf .rightParen (fun _ => rfl) d)
    fun closing e _ => rfl

theorem renamesAt_integral {i : Nat} {ts : List Token} (hbounds : BoundsRenameAt f ⟨i + 1, ts⟩)
    (hintegrand : ∀ d, d.unread.length ≤ ts.length → RenamesAt f (.chain .additive) d) :
    RenamesAt f .integral ⟨i, .integralSign :: ts⟩ := by
  have hcursor : Cursor.rename f ⟨i, .integralSign :: ts⟩ = ⟨i, .integralSign :: ts.map f⟩ := by
    rw [Cursor.rename, List.map_cons, hf.integralSign_eq]
  rw [RenamesAt, hcursor, Category.rename, Category.read, Category.read, val_integral_sign,
    val_integral_sign]
  refine Reply.andThen_eq_rename hbounds fun between d hread => ?_
  refine Reply.andThen_eq_rename (hintegrand d (Forward.length_unread_le hread))
    fun integrand e _ => ?_
  refine Reply.andThen_eq_rename (differential_rename hf integrand (fun _ => rfl) e)
    fun name d' _ => ?_
  rw [Reply.rename, Expr.rename, Expr.renameBound_eq_map, Expr.renameBound_eq_map]
  simp only [renameBounds, Option.isSome_map]

theorem boundsRenameAt_marker {t : Token} {opposite : TokenKind} {i : Nat} {ts : List Token}
    (ht : t.kind.oppositeMarker? = some opposite)
    (hfirst : RenamesAt f (.chain .additive) ⟨i + 1, ts⟩)
    (hsecond : ∀ d, d.unread.length ≤ ts.length → RenamesAt f (.chain .additive) d) :
    BoundsRenameAt f ⟨i, t :: ts⟩ := by
  have ht' : (f t).kind.oppositeMarker? = some opposite := by rwa [hf.kind_eq]
  rw [BoundsRenameAt, val_bounds_of_marker ht]
  refine (val_bounds_of_marker ht' i (ts.map f)).trans ?_
  refine Reply.andThen_eq_rename hfirst fun first d hread => ?_
  refine Reply.andThen_eq_rename (expect_rename hf opposite (fun _ => rfl) d)
    fun marker e hexpect => ?_
  have hle : e.unread.length ≤ ts.length :=
    Nat.le_trans (Forward.length_unread_le hexpect) (Forward.length_unread_le hread)
  refine Reply.andThen_eq_rename (hsecond e hle) fun second d' _ => ?_
  rw [Reply.rename, hf.kind_eq]
  congr 1
  unfold boundsFrom
  split <;> rfl

theorem renamesAt (category : Category) (c : Cursor) : RenamesAt f category c := by
  have hrename : (∀ category c, RenamesAt f category c) ∧ ∀ c, BoundsRenameAt f c := by
    apply reading_induction
    case chain => exact fun level c => renamesAt_chain
    case linksEnd =>
      intro level left i
      rw [RenamesAt, read_links_nil]
      exact read_links_nil level (left.rename f) i
    case linksStop =>
      intro level left i t ts ht
      rw [RenamesAt, read_links_of_not_isOperator ht]
      exact read_links_of_not_isOperator (by rwa [hf.isOperator_iff]) (left.rename f) i (ts.map f)
    case link => exact fun level left i t ts => renamesAt_link hf
    case primaryEnd =>
      intro i
      rw [RenamesAt, Category.read, val_primary_nil]
      exact val_primary_nil i
    case number =>
      rintro i ⟨kind, text⟩ ts rfl
      rw [RenamesAt, Category.read, val_primary_of_number rfl]
      exact val_primary_of_number (hf.kind_eq _) i (ts.map f)
    case letter =>
      rintro i ⟨kind, name⟩ ts rfl
      rw [RenamesAt, Category.read, val_primary_of_letter rfl]
      exact val_primary_of_letter (hf.kind_eq _) i (ts.map f)
    case group => exact fun i t ts => renamesAt_group hf
    case other =>
      intro i t ts hnumber hletter hparen hintegral
      rw [← hf.kind_eq] at hnumber hletter hparen
      rw [RenamesAt, Category.read, val_primary_of_other (by rwa [← hf.kind_eq])
        (by rwa [← hf.kind_eq]) (by rwa [← hf.kind_eq])]
      exact (val_primary_of_other hnumber hletter hparen i (ts.map f)).trans hintegral
    case integralEnd =>
      intro i
      rw [RenamesAt, Category.read, val_integral_nil]
      exact val_integral_nil i
    case integral => exact fun i ts => renamesAt_integral hf
    case noIntegral =>
      intro i t ts ht
      have ht' : f t ≠ .integralSign := mt (hf.eq_keyword_iff .integralSign (by decide) t).mp ht
      rw [RenamesAt, Category.read, val_integral_of_ne ht]
      exact val_integral_of_ne ht' i (ts.map f)
    case boundsEnd =>
      intro i
      rw [BoundsRenameAt, val_bounds_nil]
      exact val_bounds_nil i
    case noBounds =>
      intro i t ts ht
      rw [BoundsRenameAt, val_bounds_of_not_marker ht]
      exact val_bounds_of_not_marker (by rwa [hf.kind_eq]) i (ts.map f)
    case someBounds => exact fun i t ts opposite => boundsRenameAt_marker hf
  exact hrename.1 category c

end Grammar

/-! ## Token lists and sessions -/

section

variable {f : Token → Token} (hf : Token.IsRenaming f)

theorem Cursor.unexpected_rename (f : Token → Token) (c : Cursor) :
    (c.rename f).unexpected = c.unexpected.renameAt f c := by
  rw [unexpected, unexpected, ParseError.renameAt, rename, List.head?_map, Option.map_map]
  rfl

theorem Cursor.renameAt_unexpected {c : Cursor} {tokens : List Token}
    (hc : c.unread = tokens.drop c.index) :
    c.unexpected.renameAt f c = c.unexpected.rename f tokens := by
  rw [unexpected, ParseError.renameAt, ParseError.rename, hc, List.head?_drop]

theorem renameAt_eq_rename {category : Category} {c d : Cursor} {e : ParseError}
    {tokens : List Token} (hc : c.unread = tokens.drop c.index)
    (h : category.read c = .error e d) : e.renameAt f d = e.rename f tokens := by
  have hreaches : c.Reaches d := by
    have hread := reaches_read category c
    rwa [h] at hread
  cases e with
  | unexpectedToken index found =>
      obtain ⟨-, herror⟩ := isStuck_of_read h
      rw [herror]
      exact Cursor.renameAt_unexpected (hreaches.unread_eq_drop hc)
  | unmatchedParenthesis index => rfl
  | malformedIntegral index => rfl
  | unterminatedIntegral index => rfl

include hf

theorem Phrase.read_rename (phrase : Phrase) (c : Cursor) :
    phrase.read (c.rename f) = (phrase.read c).rename f (Expr.rename f) := by
  rw [Phrase.read_eq, Phrase.read_eq]
  cases phrase with
  | binary level => exact renamesAt hf (.chain level) c
  | primary => exact renamesAt hf .primary c
  | integral => exact renamesAt hf .integral c

theorem Session.read_rename (s : Session) (phrase : Phrase) :
    (s.rename f).read phrase =
      (renameOutcome f s.tokens (s.read phrase).1, (s.read phrase).2.rename f) := by
  have hcursor : (s.rename f).cursor = s.cursor.rename f := by
    simp only [cursor, rename, Cursor.rename, List.map_drop]
  have hrename := Phrase.read_rename hf phrase s.cursor
  unfold read
  rw [hcursor, hrename]
  cases hread : phrase.read s.cursor with
  | ok e d => rfl
  | error e d =>
      rw [Phrase.read_eq] at hread
      simp only [Reply.rename, renameAt_eq_rename rfl hread]
      rfl

theorem parse_map (tokens : List Token) :
    parse (tokens.map f) = renameOutcome f tokens (parse tokens) := by
  have hstart : Cursor.rename f (.start tokens) = .start (tokens.map f) := rfl
  have hrename := Phrase.read_rename hf (.binary .additive) (.start tokens)
  rw [hstart] at hrename
  unfold parse
  rw [hrename]
  cases hread : (Phrase.binary .additive).read (.start tokens) with
  | error e d =>
      rw [Phrase.read_eq] at hread
      simp only [Reply.rename, renameAt_eq_rename rfl hread]
      rfl
  | ok e d =>
      rw [Phrase.read_eq] at hread
      have hunread : d.unread = tokens.drop d.index := (reaches_of_read hread).unread_eq_drop rfl
      simp only [Reply.rename]
      cases hrest : d.unread with
      | nil => simp only [Cursor.rename, hrest]; rfl
      | cons t ts =>
          have hrest' : (d.rename f).unread = f t :: ts.map f := by
            rw [Cursor.rename, hrest, List.map_cons]
          simp only [hrest', hf.kind_eq, Cursor.unexpected_rename,
            Cursor.renameAt_unexpected hunread]
          split <;> rfl

end

/-- Texts are opaque: what is read from renamed tokens is what is read from the tokens,
renamed, and reading stops at the same place. -/
theorem read_renamed {f : Token → Token} (hf : Token.IsRenaming f) :
    (∀ tokens, parse (tokens.map f) = renameOutcome f tokens (parse tokens)) ∧
      ∀ (s : Session) (phrase : Phrase), (s.rename f).read phrase =
        (renameOutcome f s.tokens (s.read phrase).1, (s.read phrase).2.rename f) :=
  ⟨parse_map hf, Session.read_rename hf⟩

/-- The token with its text hidden, unless it is a keyword. -/
def Token.veil (t : Token) : Token :=
  if t ∈ keywords then t else ⟨t.kind, "?"⟩

theorem Token.isRenaming_veil : IsRenaming veil where
  kind_eq t := by
    unfold veil
    split <;> rfl
  eq_keyword_iff keyword hkeyword t := by
    unfold veil
    split
    next => rfl
    next ht =>
      have hveiled : ∀ k ∈ keywords, k.text ≠ "?" := by decide
      constructor
      · rintro rfl
        exact absurd rfl (hveiled _ hkeyword)
      · rintro rfl
        exact absurd hkeyword ht

/-- An integral without a written differential, before a closing parenthesis. -/
def unwritten : List Token :=
  [.integralSign, ⟨.subscript, "_"⟩, ⟨.number, "0"⟩, ⟨.superscript, "^"⟩, ⟨.letter, "b"⟩,
    ⟨.letter, "y"⟩, ⟨.rightParen, ")"⟩]

theorem read_veiled :
    Token.IsRenaming Token.veil ∧
      parse (unwritten.map Token.veil) = .error (.unmatchedParenthesis 6) ∧
      (Session.rename Token.veil ⟨unwritten, 0⟩).read .primary =
        (.ok (.integral true (some (.number "?")) (some (.var "?")) (.var "?") "?"),
          Session.rename Token.veil ⟨unwritten, 6⟩) ∧
      (Session.rename Token.veil ⟨unwritten, 6⟩).read .primary =
        (.error (.unexpectedToken 6 (some "?")), Session.rename Token.veil ⟨unwritten, 6⟩) := by
  obtain ⟨hparse, hread⟩ := read_renamed Token.isRenaming_veil
  have hwhole : parse unwritten = .error (.unmatchedParenthesis 6) := by decide +kernel
  have hintegral : (Session.mk unwritten 0).read .primary =
      (.ok (.integral true (some (.number "0")) (some (.var "b")) (.var "y") "y"),
        ⟨unwritten, 6⟩) := by decide +kernel
  have hclosing : (Session.mk unwritten 6).read .primary =
      (.error (.unexpectedToken 6 (some ")")), ⟨unwritten, 6⟩) := by decide +kernel
  refine ⟨Token.isRenaming_veil, ?_, ?_, ?_⟩
  · rw [hparse, hwhole]
    rfl
  · rw [hread, hintegral]
    rfl
  · rw [hread, hclosing]
    rfl

end MathMarkup
