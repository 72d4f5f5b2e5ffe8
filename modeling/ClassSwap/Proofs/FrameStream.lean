import ClassSwap.Proofs.FrameText

namespace ClassSwap

theorem ofWord32_toNat (a b c d : UInt8) :
    Bytes.ofWord32 (Bytes.toNat [a, b, c, d]) = [a, b, c, d] := by
  have ha := a.toNat_lt
  have hb := b.toNat_lt
  have hc := c.toNat_lt
  have hd := d.toNat_lt
  have value : Bytes.toNat [a, b, c, d] =
      16777216 * a.toNat + 65536 * b.toNat + 256 * c.toNat + d.toNat := by
    simp only [Bytes.toNat, List.foldl_cons, List.foldl_nil]
    omega
  have byte (x : UInt8) (n : Nat) (same : n % 256 = x.toNat) : UInt8.ofNat n = x := by
    apply UInt8.toNat_inj.mp
    rw [UInt8.toNat_ofNat', same]
  rw [Bytes.ofWord32, value, byte a _ (by omega), byte b _ (by omega), byte c _ (by omega),
    byte d _ (by omega)]

namespace Frame

def chain (payloads : List Bytes) : Bytes :=
  payloads.flatMap fun payload => Bytes.ofWord32 payload.length ++ payload

/-- Why no frame can be taken from the front of a stream that has ended. -/
inductive Stops (rest : Bytes) : Option CodecError → Prop
  | atEnd (short : rest.length < headerSize) : Stops rest none
  | tooLarge (header : headerSize ≤ rest.length) (large : maxPayload < announced rest) :
      Stops rest (some (.tooLarge (announced rest)))
  | cut (header : headerSize ≤ rest.length) (small : announced rest ≤ maxPayload)
      (short : rest.length < headerSize + announced rest) :
      Stops rest (some (.io OsError.unexpectedEnd.message))

variable {stream payload rest : Bytes} {payloads : List Bytes} {stop : Option CodecError}

theorem chain_cons (payload : Bytes) (payloads : List Bytes) :
    chain (payload :: payloads) = Bytes.ofWord32 payload.length ++ payload ++ chain payloads :=
  rfl

theorem ofWord32_announced (header : headerSize ≤ stream.length) :
    Bytes.ofWord32 (announced stream) = stream.take headerSize := by
  match stream, header with
  | a :: b :: c :: d :: _, _ => exact ofWord32_toNat a b c d

/-- A frame at the front is a payload behind its length, and the rest follows. -/
theorem eq_of_front_frame (h : front stream = .frame payload rest) :
    payload.length ≤ maxPayload ∧ stream = Bytes.ofWord32 payload.length ++ payload ++ rest := by
  unfold front at h
  split at h
  · cases h
  next header =>
    split at h
    · cases h
    next small =>
      split at h
      · cases h
      next whole =>
        injection h with content behind
        have size : payload.length = announced stream := by
          rw [← content, List.length_take]
          omega
        refine ⟨by omega, ?_⟩
        rw [size, ofWord32_announced (by omega), ← content, ← behind, List.append_assoc,
          List.take_append_drop, List.take_append_drop]

/-- Reading a stream is reading one frame after the other. -/
theorem readAll_eq_readOne (stream : Bytes) :
    readAll stream =
      match readOne stream with
      | .ok (some (payload, rest)) => (payload :: (readAll rest).1, (readAll rest).2)
      | .ok none => ([], none)
      | .error e => ([], some e) := by
  rw [readAll]
  unfold readOne
  split
  next payload rest h => rw [h]
  next size h => rw [h]
  next h => rw [h]
  next h => rw [h]

theorem readAll_of_front_frame (h : front stream = .frame payload rest) :
    readAll stream = (payload :: (readAll rest).1, (readAll rest).2) := by
  rw [readAll_eq_readOne, readOne, h]

theorem readAll_of_stops (h : Stops stream stop) : readAll stream = ([], stop) := by
  rw [readAll_eq_readOne, readOne]
  cases h with
  | atEnd short =>
    have found : front stream = .noHeader := if_pos short
    rw [found]
  | tooLarge header large =>
    have found : front stream = .tooLarge (announced stream) := by
      rw [front, if_neg (by omega), if_pos large]
    rw [found]
  | cut header small short =>
    have found : front stream = .cut := by
      rw [front, if_neg (by omega), if_neg (by omega), List.length_drop, if_pos (by omega)]
    rw [found]

theorem front_cases (stream : Bytes) :
    (∃ payload rest, front stream = .frame payload rest) ∨ ∃ stop, Stops stream stop := by
  by_cases short : stream.length < headerSize
  · exact .inr ⟨_, .atEnd short⟩
  · by_cases large : maxPayload < announced stream
    · exact .inr ⟨_, .tooLarge (by omega) large⟩
    · by_cases cut : (stream.drop headerSize).length < announced stream
      · rw [List.length_drop] at cut
        exact .inr ⟨_, .cut (by omega) (by omega) (by omega)⟩
      · exact .inl ⟨_, _, by rw [front, if_neg short, if_neg large, if_neg cut]⟩

theorem stops_none_iff (h : Stops rest stop) : stop = none ↔ rest.length < headerSize := by
  cases h with
  | atEnd short => simp [short]
  | tooLarge header large => simp [Nat.not_lt.mpr header]
  | cut header small short => simp [Nat.not_lt.mpr header]

theorem stops_tooLarge_iff (h : Stops rest stop) (size : Nat) :
    stop = some (.tooLarge size) ↔
      headerSize ≤ rest.length ∧ announced rest = size ∧ maxPayload < size := by
  cases h with
  | atEnd short => simp [Nat.not_le.mpr short]
  | tooLarge header large =>
    constructor
    · rintro ⟨⟩
      exact ⟨header, rfl, large⟩
    · rintro ⟨_, rfl, _⟩
      rfl
  | cut header small short =>
    simp only [Option.some.injEq, reduceCtorEq, false_iff, not_and]
    rintro _ rfl
    omega

theorem stops_io_iff (h : Stops rest stop) :
    (∃ text, stop = some (.io text)) ↔
      headerSize ≤ rest.length ∧ announced rest ≤ maxPayload ∧
        rest.length < headerSize + announced rest := by
  cases h with
  | atEnd short => simp [Nat.not_le.mpr short]
  | tooLarge header large => simp [Nat.not_le.mpr large]
  | cut header small short => simp [header, small, short]

theorem readAll_chain_append (small : ∀ payload ∈ payloads, payload.length ≤ maxPayload)
    (more : Bytes) :
    readAll (chain payloads ++ more) = (payloads ++ (readAll more).1, (readAll more).2) := by
  induction payloads with
  | nil => rfl
  | cons payload payloads ih =>
    have made := ofPayload_eq_ok_iff.mpr ⟨small payload List.mem_cons_self, rfl⟩
    have found := front_ofPayload made (chain payloads ++ more)
    have others := ih fun p mem => small p (List.mem_cons_of_mem payload mem)
    rw [chain_cons, List.append_assoc, readAll_of_front_frame found, others]
    rfl

/-- A stream is made of the frames that are read and of a rest that stops the reading, by induction
on its length. -/
theorem chain_readAll (stream : Bytes) :
    (∀ payload ∈ (readAll stream).1, payload.length ≤ maxPayload) ∧
      ∃ rest, stream = chain (readAll stream).1 ++ rest ∧ Stops rest (readAll stream).2 := by
  induction size : stream.length using Nat.strongRecOn generalizing stream with
  | ind size ih =>
    rcases front_cases stream with ⟨payload, rest, found⟩ | ⟨stop, stops⟩
    · obtain ⟨fits, split_⟩ := eq_of_front_frame found
      have shorter := front_rest_lt found
      obtain ⟨small, last, behind, stops⟩ := ih rest.length (by omega) rest rfl
      rw [readAll_of_front_frame found]
      refine ⟨?_, last, ?_, stops⟩
      · intro p mem
        rcases List.mem_cons.mp mem with rfl | mem
        · exact fits
        · exact small p mem
      · rw [chain_cons, List.append_assoc, ← behind]
        exact split_
    · rw [readAll_of_stops stops]
      exact ⟨fun p mem => absurd mem List.not_mem_nil, stream, rfl, stops⟩

/-- A stream is read in one way only. -/
theorem readAll_eq_iff :
    readAll stream = (payloads, stop) ↔
      (∀ payload ∈ payloads, payload.length ≤ maxPayload) ∧
        ∃ rest, stream = chain payloads ++ rest ∧ Stops rest stop := by
  constructor
  · intro read
    have split_ := chain_readAll stream
    rw [read] at split_
    exact split_
  · rintro ⟨small, rest, rfl, stops⟩
    rw [readAll_chain_append small, readAll_of_stops stops, List.append_nil]

/-- A stream that is cut off somewhere is read to the first of its payloads. -/
theorem readAll_take_prefix (stream : Bytes) (k : Nat) :
    (readAll (stream.take k)).1 <+: (readAll stream).1 := by
  obtain ⟨small, rest, front, _⟩ := chain_readAll (stream.take k)
  have whole : stream = chain (readAll (stream.take k)).1 ++ (rest ++ stream.drop k) := by
    rw [← List.append_assoc, ← front, List.take_append_drop]
  have read := congrArg Prod.fst (readAll_chain_append small (rest ++ stream.drop k))
  rw [← whole] at read
  rw [read]
  exact List.prefix_append _ _

theorem encode_eq_error_iff {message : Json} {e : CodecError} :
    encode message = .error e ↔
      maxPayload < (payloadOf message).length ∧ e = .tooLarge (payloadOf message).length := by
  rw [encode, ofPayload]
  split
  next large => simp [large, eq_comm]
  next small => simp [small]

/-- What is made of messages that fit is the chain of their frames. -/
theorem chain_of_mapM_encode {messages : List Json} {frames : List Bytes}
    (made : messages.mapM encode = .ok frames) :
    frames.flatten = chain (messages.map payloadOf) ∧
      ∀ message ∈ messages, (payloadOf message).length ≤ maxPayload := by
  induction messages generalizing frames with
  | nil =>
    cases made
    exact ⟨rfl, fun _ mem => absurd mem List.not_mem_nil⟩
  | cons message messages ih =>
    rw [List.mapM_cons] at made
    cases first : encode message with
    | error e =>
      rw [first] at made
      cases made
    | ok frame =>
      cases others : messages.mapM encode with
      | error e =>
        rw [first, others] at made
        cases made
      | ok rest =>
        rw [first, others] at made
        cases made
        obtain ⟨fits, rfl⟩ := ofPayload_eq_ok_iff.mp first
        obtain ⟨eq, small⟩ := ih others
        refine ⟨?_, ?_⟩
        · rw [List.flatten_cons, eq]
          rfl
        · intro m mem
          rcases List.mem_cons.mp mem with rfl | mem
          · exact fits
          · exact small m mem

/-- Frames in a row are read back one for one, at the size limit and below, and whatever stands in a
stream is frames and a rest that explains how the reading ends. A stream that is cut off is read to
the first of its payloads and to no other. -/
theorem streams_parse_uniquely :
    (∀ stream, readAll stream =
      match readOne stream with
      | .ok (some (payload, rest)) => (payload :: (readAll rest).1, (readAll rest).2)
      | .ok none => ([], none)
      | .error e => ([], some e)) ∧
    (∀ message e, encode message = .error e ↔
      maxPayload < (payloadOf message).length ∧ e = .tooLarge (payloadOf message).length) ∧
    (∀ message frame, encode message = .ok frame →
      ∀ rest, readOne (frame ++ rest) = .ok (some (payloadOf message, rest))) ∧
    (∀ (messages : List Json) (frames : List Bytes), messages.mapM encode = .ok frames →
      readAll frames.flatten = (messages.map payloadOf, none) ∧
        ∀ k, (readAll (frames.flatten.take k)).1 <+: messages.map payloadOf) ∧
    (∀ stream payloads stop, readAll stream = (payloads, stop) ↔
      (∀ payload ∈ payloads, payload.length ≤ maxPayload) ∧
        ∃ rest, stream = chain payloads ++ rest ∧ Stops rest stop) ∧
    ∀ stream, ∃ rest, stream = chain (readAll stream).1 ++ rest ∧
      ((readAll stream).2 = none ↔ rest.length < headerSize) ∧
      (∀ size, (readAll stream).2 = some (.tooLarge size) ↔
        headerSize ≤ rest.length ∧ announced rest = size ∧ maxPayload < size) ∧
      ((∃ text, (readAll stream).2 = some (.io text)) ↔
        headerSize ≤ rest.length ∧ announced rest ≤ maxPayload ∧
          rest.length < headerSize + announced rest) := by
  refine ⟨readAll_eq_readOne, fun _ _ => encode_eq_error_iff, ?_, ?_, fun _ _ _ => readAll_eq_iff,
    ?_⟩
  · intro message frame made rest
    rw [readOne, front_ofPayload made]
  · intro messages frames made
    obtain ⟨eq, small⟩ := chain_of_mapM_encode made
    have whole : readAll frames.flatten = (messages.map payloadOf, none) := by
      refine readAll_eq_iff.mpr ⟨?_, [], by rw [eq, List.append_nil], .atEnd (by decide)⟩
      intro payload mem
      obtain ⟨message, among, rfl⟩ := List.mem_map.mp mem
      exact small message among
    refine ⟨whole, fun k => ?_⟩
    have front := readAll_take_prefix frames.flatten k
    rw [whole] at front
    exact front
  · intro stream
    obtain ⟨_, rest, split_, stops⟩ := chain_readAll stream
    exact ⟨rest, split_, stops_none_iff stops, stops_tooLarge_iff stops, stops_io_iff stops⟩

/-- Two frames, whole and cut off inside the length of the second. -/
theorem streams_parse_uniquely_two :
    [Json.object [], .natural 7].mapM encode =
        .ok [[0, 0, 0, 2, 0x7b, 0x7d], [0, 0, 0, 1, 0x37]] ∧
      readAll [0, 0, 0, 2, 0x7b, 0x7d, 0, 0, 0, 1, 0x37] = ([[0x7b, 0x7d], [0x37]], none) ∧
      (readAll [0, 0, 0, 2, 0x7b, 0x7d, 0, 0]).1 <+: [[0x7b, 0x7d], [0x37]] := by
  have made : [Json.object [], .natural 7].mapM encode =
      .ok [[0, 0, 0, 2, 0x7b, 0x7d], [0, 0, 0, 1, 0x37]] := rfl
  obtain ⟨_, _, _, read, _⟩ := streams_parse_uniquely
  obtain ⟨whole, cut⟩ := read _ _ made
  exact ⟨made, whole, cut 8⟩

end Frame

end ClassSwap
