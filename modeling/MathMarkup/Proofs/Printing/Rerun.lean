import MathMarkup.CommandLine
import MathMarkup.Proofs.Grammar.Viability
import MathMarkup.Proofs.Printing.RoundTrip

/-!
# Running the program on what it printed

The printed form of a well-formed expression is a line of its own in the output, and
an argument that the program takes for an input.
-/

namespace MathMarkup

namespace Text

/-- The part of a text before its first line break. -/
def firstLine (text : String) : String :=
  String.ofList (text.toList.takeWhile (· ≠ '\n'))

/-- Whether a text consists of printable ASCII characters. -/
def IsPrintable (text : String) : Prop :=
  ∀ c ∈ text.toList, 32 ≤ c.toNat ∧ c.toNat ≤ 126

instance (text : String) : Decidable (IsPrintable text) :=
  List.decidableBAll (fun c : Char => 32 ≤ c.toNat ∧ c.toNat ≤ 126) text.toList

@[simp]
theorem isPrintable_append {front back : String} :
    IsPrintable (front ++ back) ↔ IsPrintable front ∧ IsPrintable back := by
  simp only [IsPrintable, String.toList_append, List.forall_mem_append]

theorem IsPrintable.not_mem_newline {text : String} (h : IsPrintable text) :
    '\n' ∉ text.toList :=
  fun hmem => absurd (h '\n' hmem) (by decide)

theorem firstLine_append {line : String} (h : '\n' ∉ line.toList) (rest : String) :
    firstLine (line ++ "\n" ++ rest) = line := by
  have hline : ∀ c ∈ line.toList, decide (c ≠ '\n') = true := by
    intro c hc
    refine decide_eq_true ?_
    rintro rfl
    exact h hc
  have hbreak : "\n".toList = ['\n'] := by decide
  rw [firstLine, ← String.toList_inj, String.toList_ofList, String.append_assoc,
    String.toList_append, List.takeWhile_append_of_pos hline, String.toList_append, hbreak]
  simp

theorem isPrintable_toString (n : Nat) : IsPrintable (toString n) := by
  intro c hc
  rw [Nat.toString_eq_repr, Nat.toList_repr] at hc
  have hdigit : c.isDigit := Nat.isDigit_of_mem_toDigits (by decide) (by decide) hc
  rw [Char.isDigit_iff_toNat] at hdigit
  change 48 ≤ c.toNat ∧ c.toNat ≤ 57 at hdigit
  omega

end Text

open Text

/-! ## The printed form as a line -/

theorem Token.IsLexeme.isPrintable {t : Token} (h : t.IsLexeme) : IsPrintable t.text := by
  intro c hc
  have hrange := TokenKind.Admits.toNat_of_mem h hc
  omega

namespace Expr

theorem isPrintable_bound {marker : String} {bound : Option Expr} (hmarker : IsPrintable marker)
    (hbound : ∀ e ∈ bound, IsPrintable e.display) : IsPrintable (display.bound marker bound) := by
  cases bound with
  | none => exact show IsPrintable "" by decide
  | some e => exact isPrintable_append.mpr ⟨hmarker, hbound e rfl⟩

theorem isPrintable_display {e : Expr} (h : e.WellFormed) : IsPrintable e.display := by
  have hspace : IsPrintable " " := by decide
  induction e with
  | number text =>
      have hnumber : Token.IsLexeme ⟨.number, text⟩ := h.2
      exact hnumber.isPrintable
  | var name =>
      have hname : Token.IsLexeme ⟨.letter, name⟩ := h.2
      exact hname.isPrintable
  | binary left operator right ihleft ihright =>
      obtain ⟨⟨-, hoperator⟩, hleft, hright⟩ := h
      have hoperator : operator.IsLexeme := hoperator
      simp only [display, isPrintable_append]
      exact ⟨⟨⟨⟨ihleft hleft, hspace⟩, hoperator.isPrintable⟩, hspace⟩, ihright hright⟩
  | group opening inner closing ih =>
      obtain ⟨⟨-, hopening, hclosing⟩, hinner⟩ := h
      simp only [display, isPrintable_append]
      exact ⟨⟨hopening.isPrintable, ih hinner⟩, hclosing.isPrintable⟩
  | integral isDefinite lower upper integrand name ihlower ihupper ih =>
      obtain ⟨-, hname, hlower, hupper, hintegrand⟩ := wellFormed_integral_iff.mp h
      have hname : Token.IsLexeme ⟨.letter, name⟩ := hname
      have hboundLower := isPrintable_bound (show IsPrintable "_" by decide)
        fun e he => ihlower e he (hlower e he)
      have hboundUpper := isPrintable_bound (show IsPrintable "^" by decide)
        fun e he => ihupper e he (hupper e he)
      simp only [display, isPrintable_append]
      exact ⟨⟨⟨⟨⟨⟨by decide, hboundLower⟩, hboundUpper⟩, hspace⟩, ih hintegrand⟩, by decide⟩,
        hname.isPrintable⟩

theorem exists_head?_display {e : Expr} (h : e.WellFormed) :
    ∃ c, e.display.toList.head? = some c ∧ c ≠ '-' := by
  induction e with
  | number text =>
      obtain ⟨whole, fraction, hne, hwhole, -, htext⟩ : IsNumeral text.toList := h.2
      obtain ⟨c, cs, rfl⟩ := List.exists_cons_of_ne_nil hne
      have hc : c.isDigit := hwhole c List.mem_cons_self
      refine ⟨c, ?_, ?_⟩
      · rcases htext with htext | htext <;> rw [display, htext] <;> rfl
      · rintro rfl
        exact absurd hc (by decide)
  | var name =>
      obtain ⟨c, hc, hname⟩ : IsLetterText name.toList := h.2
      refine ⟨c, by rw [display, hname]; rfl, ?_⟩
      rintro rfl
      exact absurd hc (by decide)
  | binary left operator right ihleft _ =>
      obtain ⟨-, hleft, -⟩ := h
      obtain ⟨c, hhead, hc⟩ := ihleft hleft
      refine ⟨c, ?_, hc⟩
      simp only [display, String.toList_append, List.append_assoc, List.head?_append, hhead]
      rfl
  | group opening inner closing _ =>
      obtain ⟨rfl, -, -⟩ := wellFormed_group_iff.mp h
      refine ⟨'(', ?_, by decide⟩
      have hparen : "(".toList = ['('] := by decide
      simp only [display, String.toList_append, hparen]
      rfl
  | integral isDefinite lower upper integrand name _ _ _ =>
      refine ⟨'\\', ?_, by decide⟩
      have hsign : "\\int".toList = ['\\', 'i', 'n', 't'] := by decide
      simp only [display, String.toList_append, hsign]
      rfl

end Expr

/-! ## Parse errors as lines -/

theorem Grammar.exists_mem_of_unexpectedToken {tokens : List Token} {i : Nat} {text : String}
    (h : parse tokens = .error (.unexpectedToken i (some text))) :
    ∃ t ∈ tokens, t.text = text := by
  obtain ⟨consumed, rest, rfl, -, hfound, -⟩ := parse_eq_unexpectedToken_iff.mp h
  obtain ⟨t, ht, rfl⟩ := Option.map_eq_some_iff.mp hfound.symm
  exact ⟨t, List.mem_append_right consumed (List.mem_of_mem_head? ht), rfl⟩

theorem ParseError.isPrintable_describeFound {found : Option String}
    (h : ∀ text ∈ found, IsPrintable text) : IsPrintable (describeFound found) := by
  cases found with
  | none => exact show IsPrintable "end of input" by decide
  | some text =>
      simp only [describeFound, isPrintable_append]
      exact ⟨⟨by decide, h text rfl⟩, by decide⟩

theorem ParseError.isPrintable_message {e : ParseError}
    (h : ∀ i text, e = .unexpectedToken i (some text) → IsPrintable text) :
    IsPrintable e.message := by
  cases e with
  | unexpectedToken index found =>
      have hfound : IsPrintable (describeFound found) := by
        apply isPrintable_describeFound
        rintro text rfl
        exact h index text rfl
      unfold message
      simp only [isPrintable_append]
      exact ⟨⟨⟨by decide, hfound⟩, by decide⟩, isPrintable_toString index⟩
  | unmatchedParenthesis index =>
      unfold message
      exact isPrintable_append.mpr ⟨by decide, isPrintable_toString index⟩
  | malformedIntegral index =>
      unfold message
      simp only [isPrintable_append]
      exact ⟨⟨by decide, isPrintable_toString index⟩, by decide⟩
  | unterminatedIntegral index =>
      unfold message
      simp only [isPrintable_append]
      exact ⟨⟨by decide, isPrintable_toString index⟩, by decide⟩

theorem isPrintable_message_of_translate {source : String} {e : ParseError}
    (h : translate source = .error e) : IsPrintable e.message := by
  apply ParseError.isPrintable_message
  rintro i text rfl
  obtain ⟨t, ht, rfl⟩ := Grammar.exists_mem_of_unexpectedToken h
  exact (isLexeme_of_mem_lex ht).isPrintable

namespace CommandLine

theorem request_after_hyphens (input : String) :
    request ["--", input] = .translate ⟨input, false⟩ := by
  have hhyphens : "--".toList = ['-', '-'] := by decide
  rw [request, readFrom, hhyphens]
  rfl

theorem request_input (input : String) (h : input.toList.head? ≠ some '-') :
    request [input] = .translate ⟨input, false⟩ := by
  rw [request, readFrom]
  split
  next hinput => exact absurd (by rw [hinput]; rfl) h
  next hinput => exact absurd (by rw [hinput]; rfl) h
  next hinput => exact absurd (by rw [hinput]; rfl) h
  next => rfl

/-! ## Runs -/

theorem Job.run_eq_report {input : String} {e : Expr} (h : translate input = .ok e) :
    Job.run ⟨input, false⟩ = ⟨0, report e, ""⟩ := by
  rw [translate] at h
  rw [Job.run]
  simp only [h]
  simp

theorem Job.run_eq_errorLine {input : String} {e : ParseError}
    (h : translate input = .error e) :
    Job.run ⟨input, false⟩ = ⟨1, "", errorLine e.message⟩ := by
  rw [translate] at h
  rw [Job.run]
  simp only [h]
  simp

/-- The program may have any reader of arguments that takes for its input what comes after
a double hyphen and what does not start with a hyphen. -/
theorem runWith_firstLine_output {reader : List String → Request}
    (hafter : ∀ input, reader ["--", input] = .translate ⟨input, false⟩)
    (hinput : ∀ input : String, input.toList.head? ≠ some '-' →
      reader [input] = .translate ⟨input, false⟩) (source : String) :
    ((runWith reader ["--", source]).exitCode = 0 ↔ ∃ e, translate source = .ok e) ∧
      ((runWith reader ["--", source]).exitCode = 1 ↔ ∃ e, translate source = .error e) ∧
      (∀ e, translate source = .error e →
        runWith reader ["--", source] = ⟨1, "", "error: " ++ e.message ++ "\n"⟩ ∧
          '\n' ∉ e.message.toList) ∧
      ∀ e, translate source = .ok e →
        runWith reader ["--", source] =
            ⟨0, e.display ++ "\n" ++ e.outline.indented 0 ++ "\n", ""⟩ ∧
          firstLine (runWith reader ["--", source]).output = e.display ∧
          '\n' ∉ e.display.toList ∧ e.display ≠ "" ∧ e.display.toList.head? ≠ some '-' ∧
          reader [e.display] = .translate ⟨e.display, false⟩ ∧
          runWith reader [e.display] = runWith reader ["--", source] := by
  have hrun : runWith reader ["--", source] = Job.run ⟨source, false⟩ := by
    rw [runWith, hafter]
  rw [hrun]
  cases htranslate : translate source with
  | error e =>
      have hline := (isPrintable_message_of_translate htranslate).not_mem_newline
      rw [Job.run_eq_errorLine htranslate]
      refine ⟨by simp, by simp, ?_, nofun⟩
      intro e' he'
      obtain rfl := Except.error.inj he'
      exact ⟨rfl, hline⟩
  | ok e =>
      have hwellFormed := wellFormed_of_translate htranslate
      have hline := (Expr.isPrintable_display hwellFormed).not_mem_newline
      obtain ⟨c, hhead, hc⟩ := Expr.exists_head?_display hwellFormed
      have hhyphen : e.display.toList.head? ≠ some '-' := by
        rw [hhead]
        exact fun h => hc (Option.some.inj h)
      have hagain := Job.run_eq_report (translate_display hwellFormed)
      rw [Job.run_eq_report htranslate]
      refine ⟨by simp, by simp, nofun, ?_⟩
      intro e' he'
      obtain rfl := Except.ok.inj he'
      refine ⟨rfl, ?_, hline, ?_, hhyphen, hinput e.display hhyphen, ?_⟩
      · rw [report, String.append_assoc, firstLine_append hline]
      · intro hempty
        rw [hempty] at hhead
        simp at hhead
      · rw [runWith, hinput e.display hhyphen]
        exact hagain

/-- The program succeeds exactly on what can be translated, and running it on the first
line that it prints then prints the same again. -/
theorem run_firstLine_output (source : String) :
    ((run ["--", source]).exitCode = 0 ↔ ∃ e, translate source = .ok e) ∧
      ((run ["--", source]).exitCode = 1 ↔ ∃ e, translate source = .error e) ∧
      (∀ e, translate source = .error e →
        run ["--", source] = ⟨1, "", "error: " ++ e.message ++ "\n"⟩ ∧
          '\n' ∉ e.message.toList) ∧
      ∀ e, translate source = .ok e →
        run ["--", source] =
            ⟨0, e.display ++ "\n" ++ e.outline.indented 0 ++ "\n", ""⟩ ∧
          firstLine (run ["--", source]).output = e.display ∧ '\n' ∉ e.display.toList ∧
          e.display ≠ "" ∧ e.display.toList.head? ≠ some '-' ∧
          request [e.display] = .translate ⟨e.display, false⟩ ∧
          run [e.display] = run ["--", source] :=
  runWith_firstLine_output request_after_hyphens request_input source

end CommandLine
end MathMarkup
