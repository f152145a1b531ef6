import MathMarkup.Proofs.Lexing.Bytes
import MathMarkup.Proofs.Lexing.Seam

/-!
# Requests for tokens

A token stream always stands after a part of its source that ends with a segment, and
what it gives later depends on the unread source alone.
-/

namespace MathMarkup

theorem Segment.Extends.append {s : Segment} {cs : List Char} (h : s.Extends cs)
    (rest : List Char) : s.Extends (cs ++ rest) := by
  have hcs : cs ≠ [] := by
    rintro rfl
    cases s with
    | lexeme t =>
        obtain ⟨c, hc, -⟩ := h
        cases hc
    | blank c => exact h
    | unrecognized c => exact h
  exact (Segment.extends_append_iff hcs rest).mpr h

theorem segments_flatMap_chars {cs : List Char} {front back : List Segment}
    (h : segments cs = front ++ back) : segments (front.flatMap Segment.chars) = front := by
  induction front generalizing cs with
  | nil => exact segments_nil
  | cons s front ih =>
      cases cs with
      | nil => simp at h
      | cons c cs =>
          rw [segments_cons, List.cons_append] at h
          obtain ⟨rfl, hlater⟩ := List.cons.inj h
          have hrest : front.flatMap Segment.chars ++ back.flatMap Segment.chars =
              (Segment.first c cs).2 := by
            rw [← List.flatMap_append, ← hlater, flatMap_chars_segments]
          have hmaximal : ¬(Segment.first c cs).1.Extends (front.flatMap Segment.chars) := by
            intro hextends
            have hlonger := hextends.append (back.flatMap Segment.chars)
            rw [hrest] at hlonger
            exact Segment.not_extends_first c cs hlonger
          rw [List.flatMap_cons, segments_append (Segment.isValid_first c cs) hmaximal, ih hlater]

namespace TokenStream

/-! ## Where a stream stands -/

/-- Whether a stream over a source stands after the part `consumed` of it. -/
structure StandsAfter (source consumed : String) (s : TokenStream) : Prop where
  source_eq : consumed ++ String.ofList s.unread = source
  offset_eq : s.offset = consumed.utf8ByteSize
  diagnostics_eq : s.diagnostics = MathMarkup.diagnostics consumed
  segments_eq : segments source.toList = segments consumed.toList ++ segments s.unread

theorem standsAfter_start (source : String) : StandsAfter source "" (ofString source) where
  source_eq := by simp [ofString]
  offset_eq := rfl
  diagnostics_eq := by simp [MathMarkup.diagnostics, diagnosticsFrom, ofString]
  segments_eq := by simp [ofString]

theorem StandsAfter.passAll {source consumed : String} {s : TokenStream}
    (h : StandsAfter source consumed s) {ss : List Segment} {rest : List Char}
    (hsegments : segments s.unread = ss ++ segments rest) :
    StandsAfter source (consumed ++ String.ofList (ss.flatMap Segment.chars))
      (s.passAll ss rest) := by
  have hunread : ss.flatMap Segment.chars ++ rest = s.unread := by
    have hchars := flatMap_chars_segments s.unread
    rwa [hsegments, List.flatMap_append, flatMap_chars_segments] at hchars
  have hwhole : segments source.toList = (segments consumed.toList ++ ss) ++ segments rest := by
    rw [h.segments_eq, hsegments, List.append_assoc]
  have hpart : segments (consumed ++ String.ofList (ss.flatMap Segment.chars)).toList =
      segments consumed.toList ++ ss := by
    have hchars : (consumed ++ String.ofList (ss.flatMap Segment.chars)).toList =
        (segments consumed.toList ++ ss).flatMap Segment.chars := by
      rw [String.toList_append, String.toList_ofList, List.flatMap_append, flatMap_chars_segments]
    rw [hchars]
    exact segments_flatMap_chars hwhole
  have hoffset : s.offset = utf8Length consumed.toList := by
    rw [h.offset_eq, utf8Length_eq_utf8ByteSize, String.ofList_toList]
  constructor
  case source_eq =>
    rw [String.append_assoc, TokenStream.passAll, ← String.ofList_append, hunread, h.source_eq]
  case offset_eq =>
    rw [String.utf8ByteSize_append, ← utf8Length_eq_utf8ByteSize, ← h.offset_eq]
    rfl
  case diagnostics_eq =>
    rw [MathMarkup.diagnostics, hpart, diagnosticsFrom_append, flatMap_chars_segments,
      Nat.zero_add, ← hoffset, TokenStream.passAll, h.diagnostics_eq]
    rfl
  case segments_eq =>
    rw [hpart]
    exact hwhole

/-- A request moves a stream on over text without a token, and over the text of
the token that it gives, or else to the end of the source. -/
theorem StandsAfter.next {source consumed : String} {s : TokenStream}
    (h : StandsAfter source consumed s) :
    ∃ skipped, lex skipped = [] ∧
      StandsAfter source (consumed ++ skipped ++ (s.next.1.map Token.text).getD "") s.next.2 := by
  obtain ⟨skipped, htokens, hsegments, hafter, -⟩ := exists_skipped s
  have hskipped : segments (skipped.flatMap Segment.chars) = skipped := by
    rw [List.append_assoc] at hsegments
    exact segments_flatMap_chars hsegments
  refine ⟨String.ofList (skipped.flatMap Segment.chars), ?_, ?_⟩
  · rw [lex, String.toList_ofList, hskipped, List.filterMap_eq_nil_iff]
    exact htokens
  · have hpassed := h.passAll hsegments
    rw [← hafter, List.flatMap_append, String.ofList_append, ← String.append_assoc] at hpassed
    cases hfound : s.next.1 with
    | none => simpa [hfound] using hpassed
    | some t => simpa [hfound, Segment.chars] using hpassed

theorem isLexeme_of_next {s : TokenStream} {t : Token} (h : s.next.1 = some t) : t.IsLexeme := by
  obtain ⟨skipped, -, hsegments, -⟩ := exists_skipped s
  have hmem : Segment.lexeme t ∈ segments s.unread := by
    rw [hsegments, h]
    simp
  exact mem_segments_isValid hmem

theorem unread_of_next {s : TokenStream} (h : s.next.1 = none) : s.next.2.unread = [] := by
  obtain ⟨skipped, -, -, -, hend⟩ := exists_skipped s
  exact hend h

theorem StandsAfter.ask {source consumed : String} {s : TokenStream}
    (h : StandsAfter source consumed s) (n : Nat) :
    ∃ consumed', StandsAfter source consumed' (s.ask n).2 := by
  induction n generalizing s consumed with
  | zero => exact ⟨consumed, h⟩
  | succ n ih =>
      obtain ⟨skipped, -, hnext⟩ := h.next
      exact ih hnext

theorem resume_start (s : TokenStream) : s.resume (ofString (String.ofList s.unread)) = s := by
  simp [resume, ofString]

theorem resume_pass (s later : TokenStream) (cut : Segment) (rest : List Char) :
    (s.resume later).pass cut rest = s.resume (later.pass cut rest) := by
  cases hcut : cut.unrecognized? with
  | none => simp [resume, pass, hcut, Nat.add_assoc]
  | some c => simp [resume, pass, hcut, Nat.add_assoc, Nat.add_comm, Diagnostic.shift]

/-- What is next does not depend on what was read before. -/
theorem next_resume (s later : TokenStream) :
    (s.resume later).next = (later.next.1, s.resume later.next.2) := by
  fun_induction TokenStream.next later with
  | case1 later hunread => exact next_of_nil hunread
  | case2 later c cs hunread cut token htoken =>
      have hfirst : (Segment.first c cs).1.token? = some token := htoken
      have hresumed : (s.resume later).unread = c :: cs := hunread
      rw [next_of_cons hresumed, hfirst, resume_pass]
  | case3 later c cs hunread cut hnone ih =>
      have hfirst : (Segment.first c cs).1.token? = none := hnone
      have hresumed : (s.resume later).unread = c :: cs := hunread
      rw [next_of_cons hresumed, hfirst, resume_pass]
      exact ih

theorem ask_resume (s later : TokenStream) (n : Nat) :
    (s.resume later).ask n = ((later.ask n).1, s.resume (later.ask n).2) := by
  induction n generalizing later with
  | zero => rfl
  | succ n ih => rw [TokenStream.ask, next_resume, ih, TokenStream.ask]

theorem drain_eq_resume (s : TokenStream) :
    s.drain = (lex (String.ofList s.unread),
      s.resume ⟨[], (String.ofList s.unread).utf8ByteSize,
        MathMarkup.diagnostics (String.ofList s.unread)⟩) := by
  have hreports := diagnosticsFrom_add 0 s.offset (segments s.unread)
  rw [Nat.zero_add] at hreports
  rw [drain_eq, lex, MathMarkup.diagnostics, String.toList_ofList, TokenStream.passAll,
    flatMap_chars_segments, ← utf8Length_eq_utf8ByteSize, hreports, resume]

/-! ## Any number of requests -/

/-- After any number of requests a stream stands after a part of its source.  A further
request does not break down, and all that is still to come is what the unread source gives
by itself, moved on by the offset. -/
theorem standsAfter_ask (source : String) (n : Nat) :
    let s : TokenStream := ((ofString source).ask n).2
    let rest := String.ofList s.unread
    ∃ consumed, StandsAfter source consumed s ∧
      s.offset + rest.utf8ByteSize = source.utf8ByteSize ∧
      (∀ d, d ∈ s.diagnostics ↔
        ∃ before after, segments consumed.toList = before ++ .unrecognized d.character :: after ∧
          d.offset = utf8Length (before.flatMap Segment.chars)) ∧
      (∀ fuel, s.unread.length < fuel → s.nextWithin fuel = .ok s.next) ∧
      (∀ t, s.next.1 = some t → s.offset < s.next.2.offset ∧
        ∃ skipped, lex skipped = [] ∧
          StandsAfter source (consumed ++ skipped ++ t.text) s.next.2) ∧
      (s.next.1 = none → s.next.2.unread = [] ∧ StandsAfter source source s.next.2) ∧
      (∀ m, s.ask m = (((ofString rest).ask m).1, s.resume ((ofString rest).ask m).2) ∧
        s.diagnostics <+: (s.ask m).2.diagnostics) ∧
      s.drain = (lex rest, s.resume ⟨[], rest.utf8ByteSize, MathMarkup.diagnostics rest⟩) := by
  intro s rest
  obtain ⟨consumed, h⟩ := (standsAfter_start source).ask n
  obtain ⟨skipped, hskipped, hnext⟩ := h.next
  have hresume (m : Nat) :
      s.ask m = (((ofString rest).ask m).1, s.resume ((ofString rest).ask m).2) := by
    rw [← ask_resume, resume_start]
  refine ⟨consumed, h, ?_, ?_, fun fuel => nextWithin_eq, ?_, ?_, ?_, drain_eq_resume s⟩
  · rw [h.offset_eq, ← h.source_eq, String.utf8ByteSize_append]
  · intro d
    rw [h.diagnostics_eq, MathMarkup.diagnostics, mem_diagnosticsFrom]
    simp only [Nat.zero_add]
  · intro t ht
    rw [ht] at hnext
    refine ⟨?_, skipped, hskipped, hnext⟩
    have htext : 0 < utf8Length t.text.toList :=
      utf8Length_pos (TokenKind.Admits.ne_nil (isLexeme_of_next ht))
    rw [utf8Length_eq_utf8ByteSize, String.ofList_toList] at htext
    rw [h.offset_eq, hnext.offset_eq, Option.map_some, Option.getD_some,
      String.utf8ByteSize_append, String.utf8ByteSize_append]
    omega
  · intro hnone
    have hend : s.next.2.unread = [] := unread_of_next hnone
    have hall := hnext.source_eq
    rw [hend, String.ofList_nil, String.append_empty] at hall
    rw [hall] at hnext
    exact ⟨hend, hnext⟩
  · intro m
    refine ⟨hresume m, ?_⟩
    rw [hresume m]
    exact List.prefix_append _ _

end TokenStream

end MathMarkup
