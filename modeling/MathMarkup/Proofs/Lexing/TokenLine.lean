import MathMarkup.Proofs.Lexing.Text
import MathMarkup.Translation

/-!
# Lines of tokens

The tokens of a source are recorded as one line: their texts, with single spaces
between them.  The line can be translated in place of the source.
-/

namespace MathMarkup

theorem lex_empty : lex "" = [] := by
  rw [lex, String.toList_empty, segments_nil, List.filterMap_nil]

theorem Token.IsLexeme.lex_text {t : Token} (ht : t.IsLexeme) : lex t.text = [t] := by
  have hlex := lex_lexeme_append ht (not_extends_of_isSeparate ht isSeparate_empty)
  rwa [String.append_empty, lex_empty] at hlex

/-- The tokens that a source may have are the lexemes. -/
theorem isLexeme_iff_exists_mem_lex {t : Token} : t.IsLexeme ↔ ∃ source, t ∈ lex source := by
  constructor
  · intro ht
    refine ⟨t.text, ?_⟩
    rw [ht.lex_text]
    exact List.mem_singleton_self t
  · rintro ⟨source, ht⟩
    exact isLexeme_of_mem_lex ht

theorem segments_joinTexts_singleton {t : Token} (ht : t.IsLexeme) :
    segments (joinTexts [t]).toList = [.lexeme t] := by
  have hs : (Segment.lexeme t).IsValid := ht
  have hcut := segments_append hs (not_extends_of_isSeparate ht isSeparate_empty)
  simpa [joinTexts, Segment.chars] using hcut

theorem segments_joinTexts_cons {t : Token} (ht : t.IsLexeme) (u : Token) (tokens : List Token) :
    segments (joinTexts (t :: u :: tokens)).toList =
      .lexeme t :: .blank ' ' :: segments (joinTexts (u :: tokens)).toList := by
  have hline : (joinTexts (t :: u :: tokens)).toList =
      t.text.toList ++ (" " ++ joinTexts (u :: tokens)).toList := by
    simp [joinTexts]
  have hs : (Segment.lexeme t).IsValid := ht
  have hmaximal := not_extends_of_isSeparate ht (isSeparate_space_append (joinTexts (u :: tokens)))
  have hblank : (Segment.blank ' ').IsValid := show Text.isBlank ' ' by decide
  have hspace : (" " ++ joinTexts (u :: tokens)).toList =
      (Segment.blank ' ').chars ++ (joinTexts (u :: tokens)).toList := by
    rw [String.toList_append, toList_space]
    rfl
  calc
    segments (joinTexts (t :: u :: tokens)).toList
    _ = .lexeme t :: segments (" " ++ joinTexts (u :: tokens)).toList := by
      rw [hline]
      exact segments_append hs hmaximal
    _ = .lexeme t :: .blank ' ' :: segments (joinTexts (u :: tokens)).toList := by
      rw [hspace, segments_append hblank id]

theorem lex_joinTexts {tokens : List Token} (h : ∀ t ∈ tokens, t.IsLexeme) :
    lex (joinTexts tokens) = tokens := by
  induction tokens with
  | nil => exact lex_empty
  | cons t tokens ih =>
      have ht : t.IsLexeme := h t List.mem_cons_self
      have hlater := ih fun u hu => h u (List.mem_cons_of_mem t hu)
      cases tokens with
      | nil =>
          rw [lex, segments_joinTexts_singleton ht]
          rfl
      | cons u tokens =>
          have htoken : (Segment.lexeme t).token? = some t := rfl
          rw [lex, segments_joinTexts_cons ht, List.filterMap_cons_some htoken,
            List.filterMap_cons_none rfl]
          exact congrArg (t :: ·) hlater

theorem diagnosticsFrom_joinTexts {tokens : List Token} (h : ∀ t ∈ tokens, t.IsLexeme)
    (offset : Nat) : diagnosticsFrom offset (segments (joinTexts tokens).toList) = [] := by
  induction tokens generalizing offset with
  | nil => simp [joinTexts, diagnosticsFrom]
  | cons t tokens ih =>
      have ht : t.IsLexeme := h t List.mem_cons_self
      have hlater := ih fun u hu => h u (List.mem_cons_of_mem t hu)
      cases tokens with
      | nil =>
          rw [segments_joinTexts_singleton ht]
          rfl
      | cons u tokens =>
          rw [segments_joinTexts_cons ht]
          exact hlater _

/-- The tokens of a source as one line. -/
def tokenLine (source : String) : String :=
  joinTexts (lex source)

theorem filter_debug_trace (source : String) :
    (trace source).filter (fun event => event.severity = .debug) = [.scanned (lex source)] := by
  simp [trace, Event.severity]

/-- The line of the tokens of a source has the same tokens and the same translation. -/
theorem translate_tokenLine (source : String) :
    ((trace source).filter (fun event => event.severity = .debug)).map Event.fields =
        [["message=scanned input", "tokens=" ++ tokenLine source]] ∧
      lex (tokenLine source) = lex source ∧ diagnostics (tokenLine source) = [] ∧
      translate (tokenLine source) = translate source ∧
      ∀ tokens, (∀ t ∈ tokens, ∃ other, t ∈ lex other) ↔
        lex (joinTexts tokens) = tokens ∧ diagnostics (joinTexts tokens) = [] := by
  have hlexemes : ∀ t ∈ lex source, t.IsLexeme := fun t => isLexeme_of_mem_lex
  have hlex : lex (tokenLine source) = lex source := lex_joinTexts hlexemes
  refine ⟨?_, hlex, diagnosticsFrom_joinTexts hlexemes 0, ?_, ?_⟩
  · rw [filter_debug_trace]
    rfl
  · rw [translate, hlex]
    rfl
  · intro tokens
    constructor
    · intro h
      have hall : ∀ t ∈ tokens, t.IsLexeme := fun t ht => isLexeme_iff_exists_mem_lex.mpr (h t ht)
      exact ⟨lex_joinTexts hall, diagnosticsFrom_joinTexts hall 0⟩
    · rintro ⟨htokens, -⟩ t ht
      rw [← htokens] at ht
      exact ⟨joinTexts tokens, ht⟩

end MathMarkup
