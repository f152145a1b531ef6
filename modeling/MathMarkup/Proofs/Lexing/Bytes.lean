import MathMarkup.Proofs.Lexing.Segmentation
import MathMarkup.Token.Bytes

/-!
# Cuts by bytes

The lengths that are counted in bytes are those of the segments that are cut off.
-/

namespace MathMarkup

theorem splitBytes?_append (front rest : List Char) :
    splitBytes? (utf8Length front) (front ++ rest) = some (front, rest) := by
  induction front with
  | nil => cases rest <;> rfl
  | cons c front ih =>
      obtain ⟨n, hn⟩ := Nat.exists_eq_succ_of_ne_zero (Nat.ne_of_gt (Char.utf8Size_pos c))
      have hlength : utf8Length (c :: front) = n + utf8Length front + 1 := by
        rw [utf8Length, hn]
        omega
      have hle : c.utf8Size ≤ n + utf8Length front + 1 := by omega
      have hlater : n + utf8Length front + 1 - c.utf8Size = utf8Length front := by omega
      rw [hlength, List.cons_append, splitBytes?, if_pos hle, hlater, ih]
      rfl

/-- A test that only looks for the end of a class finds the longest run in it. -/
theorem bytesBefore_eq {Memory : Type} {test : Memory → Char → Bool × Memory} {memory : Memory}
    {p : Char → Bool} (htest : ∀ c, test memory c = (!p c, memory)) (cs : List Char) :
    bytesBefore test memory cs = utf8Length (cs.takeWhile p) := by
  induction cs with
  | nil => rfl
  | cons c cs ih =>
      by_cases hc : p c
      · simp [bytesBefore, htest, hc, utf8Length, ih]
      · simp [bytesBefore, htest, hc]

theorem bytesBefore_endsName (cs : List Char) :
    bytesBefore endsName () cs = utf8Length (cs.takeWhile Char.isAlpha) :=
  bytesBefore_eq (fun _ => rfl) cs

theorem Segment.splitNumber_digit {c : Char} (hc : c.isDigit) (cs : List Char) :
    splitNumber (c :: cs) = (c :: (splitNumber cs).1, (splitNumber cs).2) := by
  unfold splitNumber
  rw [List.takeWhile_cons_of_pos hc, List.dropWhile_cons_of_pos hc]
  split
  · rfl
  · rfl

theorem Segment.splitNumber_stop {c : Char} (hperiod : c ≠ '.') (hc : ¬c.isDigit)
    (cs : List Char) : splitNumber (c :: cs) = ([], c :: cs) := by
  unfold splitNumber
  rw [List.takeWhile_cons_of_neg hc, List.dropWhile_cons_of_neg hc]
  split
  next heq => exact absurd (List.cons.inj heq).1 hperiod
  next => rfl

theorem bytesBefore_endsNumber (cs : List Char) :
    bytesBefore endsNumber false cs = utf8Length (Segment.splitNumber cs).1 := by
  have hfraction (ds : List Char) :
      bytesBefore endsNumber true ds = utf8Length (ds.takeWhile Char.isDigit) :=
    bytesBefore_eq (fun c => by simp [endsNumber]) ds
  induction cs with
  | nil => rfl
  | cons c cs ih =>
      by_cases hperiod : c = '.'
      · subst hperiod
        simp [bytesBefore, endsNumber, Segment.splitNumber, utf8Length, hfraction]
      · by_cases hc : c.isDigit
        · simp [bytesBefore, endsNumber, hperiod, hc, Segment.splitNumber_digit hc, utf8Length, ih]
        · simp [bytesBefore, endsNumber, hperiod, hc, Segment.splitNumber_stop hperiod hc]

theorem commandLength?_eq (cs : List Char) :
    commandLength? ('\\' :: cs) = some (utf8Length ('\\' :: (Segment.splitCommand cs).1)) := by
  have hfirst : splitBytes? 1 ('\\' :: cs) = some (['\\'], cs) :=
    splitBytes?_append ['\\'] cs
  have hslash (ds : List Char) : utf8Length ('\\' :: ds) = 1 + utf8Length ds := rfl
  rw [commandLength?, hfirst, Option.map_some, hslash]
  cases cs with
  | nil => rfl
  | cons c cs =>
      by_cases hc : isSpacingMark c
      · have hbyte : utf8Length [c] = 1 := by
          simp only [isSpacingMark, Bool.or_eq_true, decide_eq_true_eq] at hc
          rcases hc with ((rfl | rfl) | rfl) | rfl <;> rfl
        simp [Segment.splitCommand, hc, hbyte]
      · simp [Segment.splitCommand, hc, bytesBefore_endsName]

theorem numberLength_eq {c : Char} (hc : c.isDigit) (cs : List Char) :
    numberLength (c :: cs) = utf8Length (c :: (Segment.splitNumber cs).1) := by
  rw [numberLength, bytesBefore_endsNumber, Segment.splitNumber_digit hc]

namespace TokenStream

theorem take_eq {stream : TokenStream} {c : Char} {cs rest : List Char}
    (h : stream.unread = c :: cs ++ rest) :
    stream.take (utf8Length (c :: cs)) =
      .ok (String.ofList (c :: cs),
        ⟨rest, stream.offset + utf8Length (c :: cs), stream.diagnostics⟩) := by
  rw [take, h, splitBytes?_append]

theorem take_singleton {stream : TokenStream} {c : Char} {cs : List Char}
    (h : stream.unread = c :: cs) :
    stream.take c.utf8Size =
      .ok (String.ofList [c], ⟨cs, stream.offset + c.utf8Size, stream.diagnostics⟩) := by
  have hcut : stream.unread = [c] ++ cs := h
  exact take_eq hcut

theorem takeLexeme_eq {stream : TokenStream} {c : Char} {cs rest : List Char} (kind : TokenKind)
    (h : stream.unread = c :: cs ++ rest) :
    stream.takeLexeme kind (utf8Length (c :: cs)) =
      .ok ((Segment.ofChars kind (c :: cs)).token?,
        stream.pass (Segment.ofChars kind (c :: cs)) rest) := by
  rw [takeLexeme, take_eq h, pass, Segment.chars_ofChars]
  rfl

theorem takeLexeme_singleton {stream : TokenStream} {c : Char} {cs : List Char} (kind : TokenKind)
    (h : stream.unread = c :: cs) :
    stream.takeLexeme kind c.utf8Size =
      .ok ((Segment.ofChars kind [c]).token?, stream.pass (Segment.ofChars kind [c]) cs) := by
  have hcut : stream.unread = [c] ++ cs := h
  exact takeLexeme_eq kind hcut

theorem nextWithin_cons {stream : TokenStream} {c : Char} {cs : List Char}
    (h : stream.unread = c :: cs) (n : Nat) :
    stream.nextWithin (n + 1) =
      match (Segment.first c cs).1.token? with
      | some token => .ok (some token, stream.pass (Segment.first c cs).1 (Segment.first c cs).2)
      | none => (stream.pass (Segment.first c cs).1 (Segment.first c cs).2).nextWithin n := by
  rw [nextWithin, h]
  unfold Segment.first
  by_cases hslash : c = '\\'
  · subst hslash
    have hcut : stream.unread =
        '\\' :: (Segment.splitCommand cs).1 ++ (Segment.splitCommand cs).2 := by
      rw [h, List.cons_append, Segment.splitCommand_append]
    simp only [if_true, commandLength?_eq, takeLexeme_eq .command hcut]
    rfl
  by_cases hdigit : c.isDigit
  · have hcut : stream.unread = c :: (Segment.splitNumber cs).1 ++ (Segment.splitNumber cs).2 := by
      rw [h, List.cons_append, Segment.splitNumber_append]
    simp only [if_neg hslash, if_pos hdigit, numberLength_eq hdigit, takeLexeme_eq .number hcut]
    rfl
  by_cases halpha : c.isAlpha
  · simp only [if_neg hslash, if_neg hdigit, if_pos halpha, takeLexeme_singleton .letter h]
    rfl
  simp only [if_neg hslash, if_neg hdigit, if_neg halpha]
  cases hmark : TokenKind.ofMark? c with
  | some kind =>
      simp only [takeLexeme_singleton kind h]
      rfl
  | none =>
      by_cases hblank : Text.isBlank c
      · simp only [if_pos hblank, take_singleton h]
        rfl
      · have hreport : (stream.report c).unread = c :: cs := h
        simp only [if_neg hblank, take_singleton hreport]
        rfl

/-- Reading by bytes does not break down where all unread characters may be passed over. -/
theorem nextWithin_eq {stream : TokenStream} {n : Nat} (h : stream.unread.length < n) :
    stream.nextWithin n = .ok stream.next := by
  induction n generalizing stream with
  | zero => exact absurd h (Nat.not_lt_zero _)
  | succ n ih =>
      cases hunread : stream.unread with
      | nil =>
          rw [nextWithin, hunread, next_of_nil hunread]
      | cons c cs =>
          rw [nextWithin_cons hunread, next_of_cons hunread]
          cases (Segment.first c cs).1.token? with
          | some token => rfl
          | none =>
              have hrest := Segment.length_first_le c cs
              rw [hunread, List.length_cons] at h
              exact ih (by simp only [pass]; omega)

end TokenStream

end MathMarkup
