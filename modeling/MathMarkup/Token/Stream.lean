import MathMarkup.Token.Segment

/-!
# Token streams

A token stream reads a source one token at a time.
-/

namespace MathMarkup

structure TokenStream where
  unread : List Char
  offset : Nat
  diagnostics : List Diagnostic
deriving DecidableEq

namespace TokenStream

def ofString (source : String) : TokenStream :=
  ⟨source.toList, 0, []⟩

/-- The stream after a segment, with `rest` as the unread source. -/
def pass (stream : TokenStream) (s : Segment) (rest : List Char) : TokenStream where
  unread := rest
  offset := stream.offset + utf8Length s.chars
  diagnostics :=
    match s.unrecognized? with
    | some c => stream.diagnostics ++ [⟨stream.offset, c⟩]
    | none => stream.diagnostics

/-- The next token, if there is one, and the stream after it. -/
def next (stream : TokenStream) : Option Token × TokenStream :=
  match _h : stream.unread with
  | [] => (none, stream)
  | c :: cs =>
    let cut := Segment.first c cs
    match cut.1.token? with
    | some token => (some token, stream.pass cut.1 cut.2)
    | none => next (stream.pass cut.1 cut.2)
termination_by stream.unread.length
decreasing_by
  have := Segment.length_first_le c cs
  simp only [pass, _h, List.length_cons]
  omega

theorem next_of_nil {stream : TokenStream} (h : stream.unread = []) :
    stream.next = (none, stream) := by
  rw [next]
  split
  next => rfl
  next hunread => rw [h] at hunread; cases hunread

theorem next_of_cons {stream : TokenStream} {c : Char} {cs : List Char}
    (h : stream.unread = c :: cs) :
    stream.next =
      match (Segment.first c cs).1.token? with
      | some token => (some token, stream.pass (Segment.first c cs).1 (Segment.first c cs).2)
      | none => (stream.pass (Segment.first c cs).1 (Segment.first c cs).2).next := by
  rw [next]
  split
  next hunread => rw [h] at hunread; cases hunread
  next hunread =>
    rw [h] at hunread
    obtain ⟨rfl, rfl⟩ := List.cons.inj hunread
    rfl

theorem length_unread_next_lt (stream : TokenStream) (token : Token)
    (h : stream.next.1 = some token) :
    stream.next.2.unread.length < stream.unread.length := by
  fun_induction next stream with
  | case1 stream hunread => simp at h
  | case2 stream c cs hunread cut found hfound =>
    have hrest : cut.2.length ≤ cs.length := Segment.length_first_le c cs
    simp only [pass, hunread, List.length_cons]
    omega
  | case3 stream c cs hunread cut hnone ih =>
    have hrest : cut.2.length ≤ cs.length := Segment.length_first_le c cs
    have hpass : (stream.pass cut.1 cut.2).unread = cut.2 := rfl
    have hlater := ih h
    rw [hpass] at hlater
    rw [hunread, List.length_cons]
    omega

/-- What a number of requests for a token give, and the stream after them. -/
def ask : Nat → TokenStream → List (Option Token) × TokenStream
  | 0, stream => ([], stream)
  | n + 1, stream => (stream.next.1 :: (ask n stream.next.2).1, (ask n stream.next.2).2)

/-- All tokens that are left, and the stream at the end of its source. -/
def drain (stream : TokenStream) : List Token × TokenStream :=
  match _h : stream.next with
  | (none, after) => ([], after)
  | (some token, after) =>
    let later := drain after
    (token :: later.1, later.2)
termination_by stream.unread.length
decreasing_by
  have := length_unread_next_lt stream token (by rw [_h])
  rwa [_h] at this

end TokenStream

end MathMarkup
