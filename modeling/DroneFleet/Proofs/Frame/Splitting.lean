import DroneFleet.Frame

/-!
A stream of frames and its division into bodies. The lengths alone decide where a body begins and ends,
so a stream can be cut into bodies in one way (`Cut.unique`), and a decoder that is fed the stream in
pieces yields what that cut yields, however the pieces were made (`readAll_cut`).
-/
namespace DroneFleet.Frame

/-! ### Lengths in four bytes -/

@[simp] theorem length_lengthBytes (length : Nat) : (lengthBytes length).length = 4 := rfl

theorem lengthOf_lengthBytes {length : Nat} (small : length < UInt32.size) :
    lengthOf (lengthBytes length) = length := by
  simp only [lengthOf, lengthBytes, List.map_cons, List.map_nil, List.foldl_cons, List.foldl_nil,
    UInt8.toNat_ofNat', Nat.shiftRight_eq_div_pow]
  simp only [UInt32.size] at small
  omega

theorem min_maxLength_lt (limit : Nat) : min limit maxLength < UInt32.size :=
  Nat.lt_of_le_of_lt (Nat.min_le_right _ _) (by decide)

theorem encode_within {limit : Nat} {envelope : Envelope}
    (fits : (body envelope).length ≤ min limit maxLength) :
    encode limit envelope = .ok (framed (body envelope)) := by
  rw [encode_eq, if_neg (Nat.not_lt.mpr fits)]

theorem lengthBytes_lengthOf {bytes : List UInt8} (four : bytes.length = 4) :
    lengthBytes (lengthOf bytes) = bytes := by
  match bytes, four with
  | [a, b, c, d], _ =>
    have := a.toNat_lt
    have := b.toNat_lt
    have := c.toNat_lt
    have := d.toNat_lt
    simp only [lengthOf, lengthBytes, List.map_cons, List.map_nil, List.foldl_cons, List.foldl_nil,
      Nat.shiftRight_eq_div_pow, List.cons.injEq, and_true, ← UInt8.toNat_inj, UInt8.toNat_ofNat']
    omega

/-! ### One way to cut a stream -/

def Oversized (limit : Nat) (rest : List UInt8) : Prop :=
  4 ≤ rest.length ∧ limit < lengthOf (rest.take 4)

def Incomplete (limit : Nat) (rest : List UInt8) : Prop :=
  rest.length < 4 ∨
    lengthOf (rest.take 4) ≤ limit ∧ rest.length < 4 + lengthOf (rest.take 4)

/-- What the lengths make of a stream: bodies within the limit, and a rest that cannot be cut. -/
structure Cut (limit : Nat) (stream : List UInt8) (bodies : List (List UInt8)) (rest : List UInt8) :
    Prop where
  whole : stream = bodies.flatMap framed ++ rest
  fits : ∀ body ∈ bodies, body.length ≤ limit
  ends : Oversized limit rest ∨ Incomplete limit rest

instance (limit : Nat) (rest : List UInt8) : Decidable (Oversized limit rest) :=
  inferInstanceAs (Decidable (_ ∧ _))

theorem not_oversized_of_incomplete {limit : Nat} {rest : List UInt8} (ends : Incomplete limit rest) :
    ¬ Oversized limit rest := by
  unfold Incomplete Oversized at *
  omega

variable {limit : Nat} {body rest stream more : List UInt8} {bodies : List (List UInt8)}

theorem oversized_append (long : Oversized limit rest) (more : List UInt8) :
    Oversized limit (rest ++ more) ∧ (rest ++ more).take 4 = rest.take 4 := by
  have same : (rest ++ more).take 4 = rest.take 4 := List.take_append_of_le_length long.1
  refine ⟨⟨?_, same ▸ long.2⟩, same⟩
  have := long.1
  rw [List.length_append]
  omega

theorem take_framed (body more : List UInt8) :
    (framed body ++ more).take 4 = lengthBytes body.length := by
  rw [framed, List.append_assoc, List.take_left' (length_lengthBytes _)]

theorem drop_framed (body more : List UInt8) : (framed body ++ more).drop 4 = body ++ more := by
  rw [framed, List.append_assoc, List.drop_left' (length_lengthBytes _)]

theorem length_framed (body : List UInt8) : (framed body).length = 4 + body.length := by
  rw [framed, List.length_append, length_lengthBytes]

theorem framed_injective {other behind : List UInt8} (small : body.length < UInt32.size)
    (small' : other.length < UInt32.size) (same : framed body ++ more = framed other ++ behind) :
    body = other ∧ more = behind := by
  have lengths := congrArg (List.take 4) same
  rw [take_framed, take_framed] at lengths
  have equal := congrArg lengthOf lengths
  rw [lengthOf_lengthBytes small, lengthOf_lengthBytes small'] at equal
  have contents := congrArg (List.drop 4) same
  rw [drop_framed, drop_framed] at contents
  exact List.append_inj contents equal

/-- The bytes of a body and its length are the beginning of a stream, or the stream cannot be cut. -/
theorem framed_or_ends (limit : Nat) (stream : List UInt8) :
    (Oversized limit stream ∨ Incomplete limit stream) ∨
      ∃ body more, stream = framed body ++ more ∧ body.length ≤ limit := by
  by_cases ends : Oversized limit stream ∨ Incomplete limit stream
  · exact .inl ends
  · right
    unfold Oversized Incomplete at ends
    have four : (stream.take 4).length = 4 := List.length_take_of_le (by omega)
    have size : ((stream.drop 4).take (lengthOf (stream.take 4))).length =
        lengthOf (stream.take 4) := List.length_take_of_le (by rw [List.length_drop]; omega)
    refine ⟨(stream.drop 4).take (lengthOf (stream.take 4)),
      (stream.drop 4).drop (lengthOf (stream.take 4)), ?_, by omega⟩
    rw [framed, size, lengthBytes_lengthOf four, List.append_assoc, List.take_append_drop,
      List.take_append_drop]

theorem not_ends_framed (small : limit < UInt32.size) (fits : body.length ≤ limit) :
    ¬ (Oversized limit (framed body ++ more) ∨ Incomplete limit (framed body ++ more)) := by
  rw [Oversized, Incomplete, take_framed, lengthOf_lengthBytes (by omega), List.length_append,
    length_framed]
  omega

theorem incomplete_front {front back : List UInt8} (small : limit < UInt32.size)
    (fits : body.length ≤ limit) (whole : front ++ back = framed body) (more : back ≠ []) :
    Incomplete limit front := by
  have sizes := congrArg List.length whole
  rw [List.length_append, length_framed] at sizes
  have left := List.length_pos_iff.mpr more
  by_cases short : front.length < 4
  · exact .inl short
  · have same : front.take 4 = lengthBytes body.length := by
      rw [← List.take_append_of_le_length (Nat.not_lt.mp short), whole,
        ← List.append_nil (framed body), take_framed]
    rw [Incomplete, same, lengthOf_lengthBytes (by omega)]
    omega

namespace Cut

theorem exists_cut (limit : Nat) (stream : List UInt8) : ∃ bodies rest, Cut limit stream bodies rest := by
  induction size : stream.length using Nat.strongRecOn generalizing stream with
  | ind size ih =>
    subst size
    rcases framed_or_ends limit stream with ends | ⟨body, more, rfl, fits⟩
    · exact ⟨[], stream, rfl, by simp, ends⟩
    · have shorter : more.length < (framed body ++ more).length := by
        rw [List.length_append, length_framed]
        omega
      obtain ⟨bodies, rest, whole, within, ends⟩ := ih _ shorter more rfl
      refine ⟨body :: bodies, rest, ?_, List.forall_mem_cons.mpr ⟨fits, within⟩, ends⟩
      rw [List.flatMap_cons, List.append_assoc, ← whole]

theorem tail (cut : Cut limit (framed body ++ more) (body :: bodies) rest) :
    Cut limit more bodies rest := by
  obtain ⟨whole, fits, ends⟩ := cut
  rw [List.flatMap_cons, List.append_assoc, List.append_cancel_left_eq] at whole
  exact ⟨whole, fun other member => fits other (List.mem_cons_of_mem _ member), ends⟩

theorem append {others : List (List UInt8)} {left : List UInt8} (cut : Cut limit stream bodies rest)
    (next : Cut limit (rest ++ more) others left) :
    Cut limit (stream ++ more) (bodies ++ others) left where
  whole := by rw [cut.whole, List.append_assoc, next.whole, List.flatMap_append, List.append_assoc]
  fits other member := (List.mem_append.mp member).elim (cut.fits other) (next.fits other)
  ends := next.ends

theorem nil_of_ends (small : limit < UInt32.size) (cut : Cut limit stream bodies rest)
    (ends : Oversized limit stream ∨ Incomplete limit stream) : bodies = [] ∧ rest = stream := by
  cases bodies with
  | nil => exact ⟨rfl, cut.whole.symm⟩
  | cons body bodies =>
    have whole := cut.whole
    rw [List.flatMap_cons, List.append_assoc] at whole
    exact absurd (whole ▸ ends) (not_ends_framed small (cut.fits body List.mem_cons_self))

theorem unique (small : limit < UInt32.size) {others : List (List UInt8)} {left : List UInt8}
    (cut : Cut limit stream bodies rest) (other : Cut limit stream others left) :
    others = bodies ∧ left = rest := by
  induction bodies generalizing stream others with
  | nil =>
    obtain rfl : stream = rest := cut.whole
    exact nil_of_ends small other cut.ends
  | cons body bodies ih =>
    have fits := cut.fits body List.mem_cons_self
    have whole := cut.whole
    rw [List.flatMap_cons, List.append_assoc] at whole
    subst whole
    cases others with
    | nil =>
      obtain same : framed body ++ _ = left := other.whole
      exact absurd (same ▸ other.ends) (not_ends_framed small fits)
    | cons first others =>
      have within := other.fits first List.mem_cons_self
      have same := other.whole
      rw [List.flatMap_cons, List.append_assoc] at same
      obtain ⟨rfl, behind⟩ := framed_injective (by omega) (by omega) same
      rw [behind] at other
      obtain ⟨rfl, rfl⟩ := ih (behind ▸ cut.tail) other.tail
      exact ⟨rfl, rfl⟩

end Cut

/-! ### Decoding a stream -/

namespace Decoder

theorem next?_framed (small : limit < UInt32.size) (fits : body.length ≤ limit) :
    next? ⟨limit, framed body ++ more⟩ = some (decodeBody body, ⟨limit, more⟩) := by
  have long : ¬ (framed body ++ more).length < 4 := by
    rw [List.length_append, length_framed]
    omega
  have size : lengthOf (lengthBytes body.length) = body.length := lengthOf_lengthBytes (by omega)
  rw [next?, if_neg long]
  simp only [take_framed, drop_framed, size, if_neg (Nat.not_lt.mpr fits), List.length_append,
    if_neg (show ¬ body.length + more.length < body.length by omega), List.take_left, List.drop_left]

theorem next?_oversized (long : Oversized limit rest) :
    next? ⟨limit, rest⟩ = some (.error (.invalidLength (lengthOf (rest.take 4))), ⟨limit, rest⟩) := by
  simp only [next?, Nat.not_lt.mpr long.1, if_false, long.2, if_true]

theorem next?_incomplete (ends : Incomplete limit rest) : next? ⟨limit, rest⟩ = none := by
  rcases ends with short | ⟨within, short⟩
  · simp only [next?, short, if_true]
  · by_cases four : rest.length < 4
    · simp only [next?, four, if_true]
    · simp only [next?, four, if_false, Nat.not_lt.mpr within, List.length_drop,
        show rest.length - 4 < lengthOf (rest.take 4) by omega, if_true]

theorem feed_nil (decoder : Decoder) : decoder.feed [] = decoder := by
  rw [feed, List.append_nil]

theorem feed_append (decoder : Decoder) (first more : List UInt8) :
    decoder.feed (first ++ more) = (decoder.feed first).feed more := by
  simp only [feed, List.append_assoc]

theorem next?_feed {decoder left : Decoder} (small : decoder.limit < UInt32.size)
    {result : Except Fault Envelope} (taken : decoder.next? = some (result, left))
    (more : List UInt8) : (decoder.feed more).next? = some (result, left.feed more) := by
  obtain ⟨limit, stream⟩ := decoder
  rcases framed_or_ends limit stream with (long | short) | ⟨body, behind, rfl, fits⟩
  · obtain ⟨still, same⟩ := oversized_append long more
    rw [next?_oversized long] at taken
    cases taken
    rw [← same]
    exact next?_oversized still
  · rw [next?_incomplete short] at taken
    cases taken
  · rw [next?_framed small fits] at taken
    cases taken
    simp only [feed, List.append_assoc]
    exact next?_framed small fits

theorem limit_of_next? {decoder left : Decoder} {result : Except Fault Envelope}
    (taken : decoder.next? = some (result, left)) : left.limit = decoder.limit := by
  unfold next? at taken
  dsimp only at taken
  split at taken
  · cases taken
  · split at taken
    · cases taken
      rfl
    · split at taken
      · cases taken
      · cases taken
        rfl

/-- What has been drained of a stream is the beginning of what is drained when more has come in. -/
theorem drain_feed {decoder : Decoder} (small : decoder.limit < UInt32.size) (more : List UInt8) :
    (decoder.feed more).drain = match decoder.drain with
      | (envelopes, none, left) =>
        (envelopes ++ (left.feed more).drain.1, (left.feed more).drain.2)
      | (envelopes, some fault, left) => (envelopes, some fault, left.feed more) := by
  induction decoder using drain.induct with
  | case1 decoder taken => rw [drain_of_none taken]; rfl
  | case2 decoder fault left taken =>
    rw [drain_of_error taken, drain_of_error (next?_feed small taken more)]
  | case3 decoder envelope left taken envelopes fault rest drained ih =>
    rw [drain_of_ok taken, drain_of_ok (next?_feed small taken more),
      ih (limit_of_next? taken ▸ small), drained]
    cases fault <;> rfl

theorem limit_drain (decoder : Decoder) : decoder.drain.2.2.limit = decoder.limit := by
  induction decoder using drain.induct with
  | case1 decoder taken => rw [drain_of_none taken]
  | case2 decoder fault left taken =>
    rw [drain_of_error taken]
    exact limit_of_next? taken
  | case3 decoder envelope left taken envelopes fault rest drained ih =>
    rw [drain_of_ok taken]
    exact ih.trans (limit_of_next? taken)

theorem next?_of_drain {decoder left : Decoder} {envelopes : List Envelope}
    (drained : decoder.drain = (envelopes, none, left)) : left.next? = none := by
  induction decoder using drain.induct generalizing envelopes with
  | case1 decoder taken =>
    rw [drain_of_none taken] at drained
    cases drained
    exact taken
  | case2 decoder fault rest taken =>
    rw [drain_of_error taken] at drained
    cases drained
  | case3 decoder envelope rest taken others fault last done ih =>
    rw [drain_of_ok taken] at drained
    simp only [Prod.mk.injEq] at drained
    exact ih (Prod.ext rfl drained.2)

theorem drain_framed (small : limit < UInt32.size) (fits : body.length ≤ limit) {envelope : Envelope}
    (read : decodeBody body = .ok envelope) :
    drain ⟨limit, framed body⟩ = ([envelope], none, ⟨limit, []⟩) := by
  have taken := @next?_framed limit body [] small fits
  have nothing : next? ⟨limit, []⟩ = none := rfl
  rw [List.append_nil, read] at taken
  rw [drain_of_ok taken, drain_of_none nothing]

theorem halts_decodeBody (body : List UInt8) : halts (decodeBody body) = false := by
  unfold decodeBody
  split <;> rfl

def refusal (limit : Nat) (rest : List UInt8) : List (Except Fault Envelope) :=
  if Oversized limit rest then [.error (.invalidLength (lengthOf (rest.take 4)))] else []

theorem exhaust_ends (ends : Oversized limit rest ∨ Incomplete limit rest) :
    exhaust ⟨limit, rest⟩ = (refusal limit rest, ⟨limit, rest⟩) := by
  rcases ends with long | short
  · rw [exhaust_of_some (next?_oversized long), refusal, if_pos long]
    rfl
  · rw [exhaust_of_none (next?_incomplete short), refusal, if_neg (not_oversized_of_incomplete short)]

theorem exhaust_cut (small : limit < UInt32.size) (cut : Cut limit stream bodies rest) :
    exhaust ⟨limit, stream⟩ = (bodies.map decodeBody ++ refusal limit rest, ⟨limit, rest⟩) := by
  induction bodies generalizing stream with
  | nil =>
    obtain rfl : stream = rest := cut.whole
    exact exhaust_ends cut.ends
  | cons body bodies ih =>
    obtain ⟨more, rfl⟩ : ∃ more, stream = framed body ++ more :=
      ⟨_, cut.whole.trans (by rw [List.flatMap_cons, List.append_assoc])⟩
    rw [exhaust_of_some (next?_framed small (cut.fits body List.mem_cons_self)), halts_decodeBody,
      ih cut.tail]
    rfl

/-! ### A stream in pieces -/

def upToHalt : List (Except Fault Envelope) → List (Except Fault Envelope)
  | [] => []
  | result :: results => if halts result then [result] else result :: upToHalt results

theorem upToHalt_decoded (bodies : List (List UInt8)) (results : List (Except Fault Envelope)) :
    upToHalt (bodies.map decodeBody ++ results) = bodies.map decodeBody ++ upToHalt results := by
  induction bodies with
  | nil => rfl
  | cons body bodies ih =>
    rw [List.map_cons, List.cons_append, upToHalt, halts_decodeBody, ih]
    rfl

theorem readAll_cons {piece : List UInt8} {results : List (Except Fault Envelope)} {left : Decoder}
    (taken : exhaust ⟨limit, rest ++ piece⟩ = (results, left)) (pieces : List (List UInt8)) :
    readAll ⟨limit, rest⟩ (piece :: pieces) =
      (results ++ (left.readAll pieces).1, (left.readAll pieces).2) := by
  rw [readAll, feed, taken]

/-- Behind a length above the limit everything that comes in is kept. -/
theorem readAll_oversized (long : Oversized limit rest) (pieces : List (List UInt8)) :
    (readAll ⟨limit, rest⟩ pieces).2 = ⟨limit, rest ++ pieces.flatten⟩ := by
  induction pieces generalizing rest with
  | nil => simp [readAll]
  | cons piece pieces ih =>
    have still := (oversized_append long piece).1
    rw [readAll_cons (exhaust_ends (.inl still)), ih still, List.flatten_cons, List.append_assoc]

theorem readAll_incomplete (small : limit < UInt32.size) (short : Incomplete limit rest)
    {pieces : List (List UInt8)} {left : List UInt8}
    (cut : Cut limit (rest ++ pieces.flatten) bodies left) :
    upToHalt (readAll ⟨limit, rest⟩ pieces).1 = bodies.map decodeBody ++ refusal limit left ∧
      (readAll ⟨limit, rest⟩ pieces).2 = ⟨limit, left⟩ := by
  induction pieces generalizing rest bodies with
  | nil =>
    rw [List.flatten_nil, List.append_nil] at cut
    obtain ⟨rfl, rfl⟩ := cut.nil_of_ends small (.inr short)
    rw [refusal, if_neg (not_oversized_of_incomplete short)]
    exact ⟨rfl, rfl⟩
  | cons piece pieces ih =>
    obtain ⟨front, mid, first⟩ := Cut.exists_cut limit (rest ++ piece)
    obtain ⟨others, last, second⟩ := Cut.exists_cut limit (mid ++ pieces.flatten)
    have joined := first.append second
    rw [List.append_assoc, ← List.flatten_cons] at joined
    obtain ⟨rfl, rfl⟩ := cut.unique small joined
    rw [readAll_cons (exhaust_cut small first)]
    rcases first.ends with long | short
    · obtain ⟨still, same⟩ := oversized_append long pieces.flatten
      obtain ⟨rfl, rfl⟩ := second.nil_of_ends small (.inl still)
      refine ⟨?_, readAll_oversized long pieces⟩
      rw [List.append_assoc, upToHalt_decoded, refusal, if_pos long, refusal, if_pos still, same,
        List.append_nil]
      rfl
    · obtain ⟨results, stays⟩ := ih short second
      refine ⟨?_, stays⟩
      rw [refusal, if_neg (not_oversized_of_incomplete short), List.append_nil, upToHalt_decoded,
        results, List.map_append, List.append_assoc]

/-- However a stream is cut into pieces, a decoder with a limit yields what the lengths in the stream
make of it: for each body within the limit one result, good or bad, then the refusal of a length above
the limit if the stream comes to one. The bytes from there on stay; as they are, or with anything more
behind them, they are refused again on every call, and an incomplete frame is merely waited for. -/
theorem readAll_cut (limit : Nat) (pieces : List (List UInt8)) :
    let accepted := min limit maxLength
    let read := (new limit).readAll pieces
    ∃ bodies rest, Cut accepted pieces.flatten bodies rest ∧
      (∀ others left, Cut accepted pieces.flatten others left → others = bodies ∧ left = rest) ∧
      upToHalt read.1 = bodies.map decodeBody ++ refusal accepted rest ∧
      read.2 = ⟨accepted, rest⟩ ∧
      (Oversized accepted rest → ∀ more, (read.2.feed more).next? =
        some (.error (.invalidLength (lengthOf (rest.take 4))), read.2.feed more)) ∧
      (Incomplete accepted rest → read.2.next? = none) := by
  have small : min limit maxLength < UInt32.size := Nat.lt_of_le_of_lt (Nat.min_le_right _ _) (by decide)
  obtain ⟨bodies, rest, cut⟩ := Cut.exists_cut (min limit maxLength) pieces.flatten
  have empty : Incomplete (min limit maxLength) [] := .inl (by decide)
  obtain ⟨results, last⟩ := readAll_incomplete small empty cut
  have stays : ((new limit).readAll pieces).2 = ⟨min limit maxLength, rest⟩ := last
  refine ⟨bodies, rest, cut, fun others left other => cut.unique small other, results, stays,
    fun long more => ?_, fun short => ?_⟩
  · obtain ⟨still, same⟩ := oversized_append long more
    rw [stays, ← same]
    exact next?_oversized still
  · rw [stays]
    exact next?_incomplete short

end Decoder

end DroneFleet.Frame
