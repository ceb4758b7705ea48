import TrainingScheduler.Access.Protocol

/-!
# Two decoders of records

`Parser` is fed with the pieces in which the bytes arrive, `read_record` waits for each record.
Both cut the same frames off a stream; the parser keeps the bytes after the last one.
-/

namespace TrainingScheduler.Wire

/-- One turn of the loop of `feed`: the partial record takes the bytes that it still lacks.  The
result is the partial record, what is left of the view and the record that became complete. -/
def turn (buffer view : List Byte) : Option (List Byte × List Byte × List Received) := do
  let target ←
    if buffer.length ≥ 6 then (decodeHeader (buffer.take 6)).map fun header => 6 + header.2
    else some 6
  let take := min (target - buffer.length) view.length
  let filled := buffer ++ view.take take
  if filled.length ≥ 6 then
    let (kind, length) ← decodeHeader (filled.take 6)
    if filled.length = 6 + length then some ([], view.drop take, [⟨kind, filled.drop 6⟩])
    else some (filled, view.drop take, [])
  else some (filled, view.drop take, [])

/-- The loop of `feed`; the exception of an invalid header takes the records of the call with it. -/
def feedFrom : ℕ → List Byte → List Byte → Option (List Received × List Byte)
  | 0, buffer, _ => some ([], buffer)
  | fuel + 1, buffer, view =>
    if view.isEmpty then some ([], buffer)
    else (turn buffer view).bind fun (buffer, view, complete) =>
      (feedFrom fuel buffer view).map fun (later, last) => (complete ++ later, last)

/-- `Parser.feed`.  Every turn takes a byte, so that the length of the data is fuel enough. -/
def feed (buffer data : List Byte) : Option (List Received × List Byte) :=
  feedFrom data.length buffer data

/-- Calls of `feed` up to the first that raises: the records they return and the partial record. -/
def feedAll : List Byte → List (List Byte) → List Received × Option (List Byte)
  | buffer, [] => ([], some buffer)
  | buffer, piece :: pieces =>
    match feed buffer piece with
    | none => ([], none)
    | some (complete, buffer) =>
      (complete ++ (feedAll buffer pieces).1, (feedAll buffer pieces).2)

/-- A `feed` raises, or `eof` does with a partial record in the buffer. -/
def parserRejects (pieces : List (List Byte)) : Prop := (feedAll [] pieces).2 ≠ some []

/-- A `read_record` raises a `ProtocolError` before the stream is at its end. -/
def readerRejects (bytes : List Byte) : Prop := (readAll bytes).2 = .invalid

/-- The first frame of a stream: a header that is invalid, a frame that is not complete, or a record
and the bytes after it. -/
def frame (bytes : List Byte) : Option (Option (Received × List Byte)) :=
  if bytes.length < 6 then some none
  else (decodeHeader (bytes.take 6)).map fun (kind, length) =>
    if bytes.length < 6 + length then none
    else some (⟨kind, (bytes.drop 6).take length⟩, bytes.drop (6 + length))

/-- The records at the front of a stream, and the incomplete frame after them. -/
inductive Frames : List Byte → List Received → Option (List Byte) → Prop where
  | invalid {bytes} (header : frame bytes = none) : Frames bytes [] none
  | incomplete {bytes} (short : frame bytes = some none) : Frames bytes [] (some bytes)
  | next {bytes received rest complete last} (first : frame bytes = some (some (received, rest)))
      (later : Frames rest complete last) : Frames bytes (received :: complete) last

variable {bytes buffer view data rest more : List Byte} {complete later : List Received}
  {received : Received} {last : Option (List Byte)}

theorem frame_nil : frame [] = some none := rfl

theorem frame_shrinks (first : frame bytes = some (some (received, rest))) :
    rest.length < bytes.length := by
  unfold frame at first
  split_ifs at first with short
  · cases first
  · obtain ⟨⟨kind, length⟩, _, found⟩ := Option.map_eq_some_iff.mp first
    dsimp only at found
    split_ifs at found
    cases found
    rw [List.length_drop]
    omega

theorem exists_frames (bytes : List Byte) : ∃ complete last, Frames bytes complete last := by
  induction size : bytes.length using Nat.strong_induction_on generalizing bytes with
  | _ size induction =>
    cases first : frame bytes with
    | none => exact ⟨_, _, .invalid first⟩
    | some found =>
      cases found with
      | none => exact ⟨_, _, .incomplete first⟩
      | some read =>
        obtain ⟨received, rest⟩ := read
        obtain ⟨complete, last, later⟩ :=
          induction rest.length (size ▸ frame_shrinks first) rest rfl
        exact ⟨_, _, .next first later⟩

/-- An incomplete frame lacks bytes of its header or, past a valid one, of its payload. -/
theorem frame_incomplete_iff :
    frame bytes = some none ↔ bytes.length < 6 ∨ 6 ≤ bytes.length ∧
      ∃ kind length, decodeHeader (bytes.take 6) = some (kind, length) ∧
        bytes.length < 6 + length := by
  unfold frame
  split_ifs with short
  · simp [short]
  · simp [short, Nat.le_of_not_lt short]

theorem frame_append (more : List Byte) (long : frame bytes ≠ some none) :
    frame (bytes ++ more) =
      (frame bytes).map (Option.map fun read => (read.1, read.2 ++ more)) := by
  rw [ne_eq, frame_incomplete_iff, not_or] at long
  obtain ⟨past, whole⟩ := long
  have header : (bytes ++ more).take 6 = bytes.take 6 := List.take_append_of_le_length (by omega)
  rw [frame, frame, if_neg past, if_neg (by rw [List.length_append]; omega), header]
  cases decoded : decodeHeader (bytes.take 6) with
  | none => rfl
  | some found =>
    obtain ⟨kind, length⟩ := found
    have enough : ¬bytes.length < 6 + length := fun lacks =>
      whole ⟨by omega, kind, length, decoded, lacks⟩
    have grown : ¬(bytes ++ more).length < 6 + length := by
      rw [List.length_append]
      omega
    simp only [Option.map_some, enough, grown, if_false]
    rw [List.drop_append_of_le_length (by omega), List.drop_append_of_le_length (by omega),
      List.take_append_of_le_length (by rw [List.length_drop]; omega)]

theorem Frames.append_invalid (frames : Frames bytes complete none) (more : List Byte) :
    Frames (bytes ++ more) complete none := by
  generalize ended : (none : Option (List Byte)) = last at frames
  induction frames with
  | invalid header =>
    refine .invalid ?_
    rw [frame_append more (by simp [header]), header, Option.map_none]
  | incomplete _ => cases ended
  | next first _ induction =>
    refine .next ?_ (induction ended)
    rw [frame_append more (by simp [first]), first, Option.map_some, Option.map_some]

/-- The frames of a longer stream go on from the incomplete frame. -/
theorem Frames.append (frames : Frames bytes complete (some rest))
    (goes : Frames (rest ++ more) later last) :
    Frames (bytes ++ more) (complete ++ later) last := by
  generalize ended : some rest = left at frames
  induction frames with
  | invalid _ => cases ended
  | incomplete short =>
    cases ended
    exact goes
  | next first _ induction =>
    refine .next ?_ (induction ended)
    rw [frame_append more (by simp [first]), first, Option.map_some, Option.map_some]

theorem Frames.incomplete_last (frames : Frames bytes complete (some rest)) :
    frame rest = some none := by
  generalize ended : some rest = left at frames
  induction frames with
  | invalid _ => cases ended
  | incomplete short =>
    cases ended
    exact short
  | next _ _ induction => exact induction ended

theorem readRecord_eq (left : bytes ≠ []) :
    readRecord bytes = match frame bytes with
      | some (some read) => .ok read
      | _ => .error .invalid := by
  unfold readRecord frame
  rw [if_neg (by simpa using left)]
  split_ifs with short
  · rfl
  · cases decoded : decodeHeader (bytes.take 6) with
    | none => rfl
    | some found =>
      obtain ⟨kind, length⟩ := found
      have count : (bytes.drop 6).length < length ↔ bytes.length < 6 + length := by
        rw [List.length_drop]
        omega
      simp only [Option.map_some, count, List.drop_drop]
      split_ifs <;> rfl

theorem Frames.readAll_eq (frames : Frames bytes complete last) :
    readAll bytes = (complete, if last = some [] then .eof else .invalid) := by
  induction frames with
  | @invalid bytes header =>
    have left : bytes ≠ [] := by
      rintro rfl
      cases header
    rw [readAll, readFrom, readRecord_eq left, header]
    rfl
  | @incomplete bytes short =>
    by_cases left : bytes = []
    · subst left
      rfl
    · rw [readAll, readFrom, readRecord_eq left, short]
      simp [left]
  | @next bytes received rest complete last first _ induction =>
    have left : bytes ≠ [] := by
      rintro rfl
      cases first
    rw [readAll, readFrom, readRecord_eq left, first]
    dsimp only
    rw [readFrom_of_lt (frame_shrinks first), induction]

private theorem turn_of_length_lt (short : (buffer ++ view).length < 6) :
    turn buffer view = some (buffer ++ view, [], []) := by
  rw [List.length_append] at short
  have all : min (6 - buffer.length) view.length = view.length := by omega
  have fewer : ¬6 ≤ buffer.length := by omega
  have still : ¬6 ≤ buffer.length + view.length := by omega
  simp [turn, fewer, all, still]

/-- Past its header a partial record takes bytes up to its length. -/
theorem turn_of_header {kind : Kind} {length : ℕ} (long : 6 ≤ buffer.length)
    (decoded : decodeHeader (buffer.take 6) = some (kind, length))
    (partially : buffer.length < 6 + length) :
    turn buffer view =
      if (buffer ++ view).length < 6 + length then some (buffer ++ view, [], [])
      else some ([], (buffer ++ view).drop (6 + length),
        [⟨kind, ((buffer ++ view).drop 6).take length⟩]) := by
  have header (more : List Byte) : (buffer ++ more).take 6 = buffer.take 6 :=
    List.take_append_of_le_length long
  have filled (more : List Byte) : 6 ≤ (buffer ++ more).length := by
    rw [List.length_append]
    omega
  simp only [turn, ge_iff_le, long, if_true, decoded, Option.map_some, Option.bind_eq_bind,
    Option.bind_some, header, filled]
  by_cases lacks : (buffer ++ view).length < 6 + length
  · have all : min (6 + length - buffer.length) view.length = view.length := by
      rw [List.length_append] at lacks
      omega
    rw [if_pos lacks, all, List.take_length, List.drop_length, if_neg (by omega)]
  · have some_ : min (6 + length - buffer.length) view.length = 6 + length - buffer.length := by
      rw [List.length_append] at lacks
      omega
    have count : (buffer ++ view.take (6 + length - buffer.length)).length = 6 + length := by
      rw [List.length_append] at lacks ⊢
      rw [List.length_take]
      omega
    have cut : buffer ++ view.take (6 + length - buffer.length) =
        (buffer ++ view).take (6 + length) := by
      rw [List.take_append, List.take_of_length_le (show buffer.length ≤ 6 + length by omega)]
    have rest : view.drop (6 + length - buffer.length) = (buffer ++ view).drop (6 + length) := by
      rw [List.drop_append, List.drop_of_length_le (show buffer.length ≤ 6 + length by omega),
        List.nil_append]
    rw [if_neg lacks, some_, if_pos count, cut, rest, List.drop_take, Nat.add_sub_cancel_left]

private theorem turn_of_short (short : buffer.length < 6) (long : 6 ≤ (buffer ++ view).length) :
    turn buffer view = (decodeHeader ((buffer ++ view).take 6)).map fun (kind, length) =>
      if length = 0 then ([], (buffer ++ view).drop 6, [⟨kind, []⟩])
      else ((buffer ++ view).take 6, (buffer ++ view).drop 6, []) := by
  have some_ : min (6 - buffer.length) view.length = 6 - buffer.length := by
    rw [List.length_append] at long
    omega
  have cut : buffer ++ view.take (6 - buffer.length) = (buffer ++ view).take 6 := by
    rw [List.take_append, List.take_of_length_le (show buffer.length ≤ 6 by omega)]
  have rest : view.drop (6 - buffer.length) = (buffer ++ view).drop 6 := by
    rw [List.drop_append, List.drop_of_length_le (show buffer.length ≤ 6 by omega), List.nil_append]
  have count : ((buffer ++ view).take 6).length = 6 := by
    rw [List.length_take]
    omega
  have fewer : ¬6 ≤ buffer.length := by omega
  simp only [turn, ge_iff_le, fewer, if_false, Option.bind_eq_bind, Option.bind_some, some_, cut,
    rest, count, le_refl, if_true, List.take_take, min_self]
  cases decodeHeader ((buffer ++ view).take 6) with
  | none => rfl
  | some found =>
    obtain ⟨kind, length⟩ := found
    by_cases empty : length = 0
    · subst empty
      simp
    · simp [empty]

theorem feedFrom_nil (fuel : ℕ) (buffer : List Byte) :
    feedFrom fuel buffer [] = some ([], buffer) := by
  cases fuel <;> rfl

theorem Frames.of_incomplete (frames : Frames bytes complete last)
    (short : frame bytes = some none) :
    complete = [] ∧ last = some bytes := by
  cases frames with
  | invalid header => simp [short] at header
  | incomplete _ => exact ⟨rfl, rfl⟩
  | next first later => simp [short] at first

theorem Frames.of_next (frames : Frames bytes complete last)
    (first : frame bytes = some (some (received, rest))) :
    ∃ later, complete = received :: later ∧ Frames rest later last := by
  cases frames with
  | invalid header => simp [first] at header
  | incomplete short => simp [first] at short
  | next found later =>
    obtain ⟨rfl, rfl⟩ : _ ∧ _ := by simpa [first] using found
    exact ⟨_, rfl, later⟩

theorem Frames.unique {other : List Received} {final : Option (List Byte)}
    (frames : Frames bytes complete last) (others : Frames bytes other final) :
    complete = other ∧ last = final := by
  induction frames generalizing other with
  | invalid header =>
    cases others with
    | invalid _ => exact ⟨rfl, rfl⟩
    | incomplete short => simp [header] at short
    | next first _ => simp [header] at first
  | incomplete short =>
    obtain ⟨rfl, rfl⟩ := others.of_incomplete short
    exact ⟨rfl, rfl⟩
  | next first _ induction =>
    obtain ⟨later, rfl, rest⟩ := others.of_next first
    obtain ⟨rfl, rfl⟩ := induction rest
    exact ⟨rfl, rfl⟩

section

variable (short : frame buffer = some none)

include short

/-- A byte that makes a header invalid completes no record. -/
theorem Frames.early_of_invalid {byte : Byte} (frames : Frames (buffer ++ [byte]) complete none) :
    complete = [] := by
  cases frames with
  | invalid _ => rfl
  | @next _ received rest complete _ first later =>
    obtain rfl : rest = [] := by
      unfold frame at first
      split_ifs at first with fewer
      · cases first
      obtain ⟨⟨kind, length⟩, decoded, found⟩ := Option.map_eq_some_iff.mp first
      dsimp only at found
      split_ifs at found
      cases found
      rw [List.drop_eq_nil_iff, List.length_append, List.length_singleton]
      rcases frame_incomplete_iff.mp short with header | ⟨past, other, size, same, lacks⟩
      · omega
      · rw [List.take_append_of_le_length past, same] at decoded
        cases decoded
        omega
    cases (later.of_incomplete rfl).2

/-- A call of `feed` cuts the frames off the partial record and the data after it. -/
theorem feedFrom_eq {fuel : ℕ} (frames : Frames (buffer ++ view) complete last)
    (enough : view.length ≤ fuel) :
    feedFrom fuel buffer view = last.map fun rest => (complete, rest) := by
  induction fuel generalizing buffer view complete with
  | zero =>
    obtain rfl := List.length_eq_zero_iff.mp (Nat.le_zero.mp enough)
    rw [List.append_nil] at frames
    obtain ⟨rfl, rfl⟩ := frames.of_incomplete short
    rfl
  | succ fuel induction =>
    by_cases nothing : view = []
    · subst nothing
      rw [List.append_nil] at frames
      obtain ⟨rfl, rfl⟩ := frames.of_incomplete short
      rfl
    have left : 0 < view.length := List.length_pos_iff.mpr nothing
    rw [feedFrom, if_neg (by simpa using nothing)]
    by_cases fewer : (buffer ++ view).length < 6
    · obtain ⟨rfl, rfl⟩ := frames.of_incomplete (frame_incomplete_iff.mpr (.inl fewer))
      simp [turn_of_length_lt fewer, feedFrom_nil]
    rcases frame_incomplete_iff.mp short with header | ⟨past, kind, length, decoded, lacks⟩
    · -- the header becomes complete in this turn
      have fits : ((buffer ++ view).drop 6).length ≤ fuel := by
        rw [List.length_drop, List.length_append]
        omega
      rw [turn_of_short header (by omega)]
      cases decoded : decodeHeader ((buffer ++ view).take 6) with
      | none =>
        have wrong : frame (buffer ++ view) = none := by
          rw [frame, if_neg fewer, decoded, Option.map_none]
        cases frames with
        | invalid _ => rfl
        | incomplete short => simp [wrong] at short
        | next first later => simp [wrong] at first
      | some found =>
        obtain ⟨kind, length⟩ := found
        by_cases empty : length = 0
        · have whole : frame (buffer ++ view) =
              some (some (⟨kind, []⟩, (buffer ++ view).drop 6)) := by
            simp only [frame, fewer, if_false, decoded, Option.map_some, empty, Nat.add_zero,
              List.take_zero]
          obtain ⟨later, rfl, rest⟩ := frames.of_next whole
          simp only [Option.map_some, Option.bind_some, if_pos empty, induction frame_nil rest fits]
          cases last <;> rfl
        · have cut : ((buffer ++ view).take 6).length = 6 := by
            rw [List.length_take]
            omega
          have again : frame ((buffer ++ view).take 6) = some none :=
            frame_incomplete_iff.mpr (.inr ⟨cut.ge, kind, length,
              by rwa [List.take_take, min_self], by omega⟩)
          have rest := induction again (by rwa [List.take_append_drop]) fits
          simp only [Option.map_some, Option.bind_some, if_neg empty, rest]
          cases last <;> rfl
    · have header : (buffer ++ view).take 6 = buffer.take 6 := List.take_append_of_le_length past
      rw [turn_of_header past decoded lacks]
      split_ifs with still
      · obtain ⟨rfl, rfl⟩ := frames.of_incomplete (frame_incomplete_iff.mpr
          (.inr ⟨by omega, kind, length, header ▸ decoded, still⟩))
        simp [feedFrom_nil]
      · have whole : frame (buffer ++ view) = some (some (⟨kind, ((buffer ++ view).drop 6).take
            length⟩, (buffer ++ view).drop (6 + length))) := by
          simp only [frame, fewer, if_false, header, decoded, Option.map_some, still]
        obtain ⟨later, rfl, rest⟩ := frames.of_next whole
        have fits : ((buffer ++ view).drop (6 + length)).length ≤ fuel := by
          rw [List.length_drop, List.length_append]
          omega
        simp only [Option.bind_some, induction frame_nil rest fits]
        cases last <;> rfl

theorem feed_eq (frames : Frames (buffer ++ data) complete last) :
    feed buffer data = last.map fun rest => (complete, rest) :=
  feedFrom_eq short frames le_rfl

/-- However the bytes are cut into pieces, the parser ends with the same incomplete frame or error,
and without an error it has returned the same records. -/
theorem feedAll_eq {pieces : List (List Byte)}
    (frames : Frames (buffer ++ pieces.flatten) complete last) :
    (feedAll buffer pieces).2 = last ∧ (last ≠ none → (feedAll buffer pieces).1 = complete) := by
  induction pieces generalizing buffer complete with
  | nil =>
    rw [List.flatten_nil, List.append_nil] at frames
    obtain ⟨rfl, rfl⟩ := frames.of_incomplete short
    exact ⟨rfl, fun _ => rfl⟩
  | cons piece pieces induction =>
    obtain ⟨early, middle, first⟩ := exists_frames (buffer ++ piece)
    rw [List.flatten_cons, ← List.append_assoc] at frames
    rw [feedAll, feed_eq short first]
    cases middle with
    | none =>
      obtain ⟨rfl, rfl⟩ := frames.unique (first.append_invalid _)
      exact ⟨rfl, fun wrong => absurd rfl wrong⟩
    | some rest =>
      obtain ⟨later, final, goes⟩ := exists_frames (rest ++ pieces.flatten)
      obtain ⟨rfl, rfl⟩ := frames.unique (first.append goes)
      obtain ⟨ends, returned⟩ := induction first.incomplete_last goes
      exact ⟨ends, fun fine => congrArg (early ++ ·) (returned fine)⟩

/-- Fed byte by byte the parser has returned every record in front of an error. -/
theorem feedAll_bytes (frames : Frames (buffer ++ bytes) complete last) :
    (feedAll buffer (bytes.map fun byte => [byte])).1 = complete := by
  induction bytes generalizing buffer complete with
  | nil =>
    rw [List.append_nil] at frames
    exact (frames.of_incomplete short).1.symm
  | cons byte bytes induction =>
    obtain ⟨early, middle, first⟩ := exists_frames (buffer ++ [byte])
    rw [← List.singleton_append, ← List.append_assoc] at frames
    rw [List.map_cons, feedAll, feed_eq short first]
    cases middle with
    | none =>
      obtain ⟨rfl, rfl⟩ := frames.unique (first.append_invalid _)
      exact (first.early_of_invalid short).symm
    | some rest =>
      obtain ⟨later, final, goes⟩ := exists_frames (rest ++ bytes)
      obtain ⟨rfl, rfl⟩ := frames.unique (first.append goes)
      exact congrArg (early ++ ·) (induction first.incomplete_last goes)

end

private theorem records_of_encode {sent : List Received} {encoded : List (List Byte)}
    (encodes : sent.mapM (fun received => encode received.kind received.payload) = some encoded) :
    (∀ received ∈ sent, received.payload.length ≤ maxPayload) ∧
      encoded.flatten = records sent := by
  induction sent generalizing encoded with
  | nil =>
    cases encodes
    exact ⟨fun _ member => absurd member List.not_mem_nil, rfl⟩
  | cons received sent induction =>
    rw [List.mapM_cons] at encodes
    obtain ⟨first, encodes_first, encodes⟩ := Option.bind_eq_some_iff.mp encodes
    obtain ⟨later, encodes_later, encodes⟩ := Option.bind_eq_some_iff.mp encodes
    cases encodes
    obtain ⟨fits, same⟩ := induction encodes_later
    unfold encode at encodes_first
    split_ifs at encodes_first with long
    cases encodes_first
    refine ⟨List.forall_mem_cons.mpr ⟨by omega, fits⟩, ?_⟩
    rw [List.flatten_cons, same, records, records, List.flatMap_cons]

/-- A proper part of a record is an incomplete frame. -/
theorem frame_take_record {size : ℕ} (fits : received.payload.length ≤ maxPayload)
    (less : size < (record received.kind received.payload).length) :
    frame ((record received.kind received.payload).take size) = some none := by
  have count : ((record received.kind received.payload).take size).length = size := by
    rw [List.length_take]
    omega
  have whole : (record received.kind received.payload).length = 6 + received.payload.length := by
    rw [record, List.length_append, length_pack]
  by_cases short : size < 6
  · exact frame_incomplete_iff.mpr (.inl (count.trans_lt short))
  · refine frame_incomplete_iff.mpr (.inr ⟨by omega, received.kind, received.payload.length, ?_,
      by omega⟩)
    rw [List.take_take, min_eq_left (by omega), record, List.take_left' (length_pack _ _ _)]
    exact decodeHeader_pack _ fits

/-- Record framing does not depend on how the stream is cut: written records come back in order,
the parser and the reader reject the same bytes, and byte by byte they return the same records. -/
theorem framing_split_invariant :
    (∀ (sent : List Received) (encoded pieces : List (List Byte)),
      sent.mapM (fun received => encode received.kind received.payload) = some encoded →
      pieces.flatten = encoded.flatten →
        feedAll [] pieces = (sent, some []) ∧ readAll encoded.flatten = (sent, .eof)) ∧
    (∀ pieces : List (List Byte), parserRejects pieces ↔ readerRejects pieces.flatten) ∧
    (∀ (sent : List Received) (received : Received) (size : ℕ) (pieces : List (List Byte)),
      0 < size → size < (record received.kind received.payload).length →
      (∀ other ∈ received :: sent, other.payload.length ≤ maxPayload) →
      pieces.flatten = records sent ++ (record received.kind received.payload).take size →
        parserRejects pieces ∧ readerRejects pieces.flatten) ∧
    ∀ bytes : List Byte, (feedAll [] (bytes.map fun byte => [byte])).1 = (readAll bytes).1 := by
  have agree (pieces : List (List Byte)) :
      parserRejects pieces ↔ readerRejects pieces.flatten := by
    obtain ⟨complete, last, frames⟩ := exists_frames pieces.flatten
    rw [parserRejects, readerRejects, (feedAll_eq frame_nil frames).1, frames.readAll_eq]
    split_ifs with clean <;> simp [clean]
  refine ⟨fun sent encoded pieces encodes same => ?_, agree, ?_, fun bytes => ?_⟩
  · obtain ⟨fits, flat⟩ := records_of_encode encodes
    have read := readAll_records fits
    obtain ⟨complete, last, frames⟩ := exists_frames pieces.flatten
    rw [← flat, ← same, frames.readAll_eq, Prod.mk.injEq] at read
    obtain ⟨rfl, clean⟩ : complete = sent ∧ last = some [] := by simpa using read
    obtain ⟨ends, returned⟩ := feedAll_eq frame_nil frames
    refine ⟨Prod.ext (returned (by simp [clean])) (ends.trans clean), ?_⟩
    rw [flat, readAll_records fits]
  · intro sent received size pieces some_ less fits cut
    rw [agree, and_self, readerRejects, cut, readAll_records_append fun other member =>
      fits other (List.mem_cons_of_mem _ member)]
    have short := frame_take_record (fits received List.mem_cons_self) less
    have left : (record received.kind received.payload).take size ≠ [] := by
      rw [ne_eq, List.take_eq_nil_iff]
      rintro (none | empty)
      · omega
      · simp [empty] at less
    rw [(Frames.incomplete short).readAll_eq, if_neg (by simpa using left)]
  · obtain ⟨complete, last, frames⟩ := exists_frames bytes
    rw [feedAll_bytes frame_nil frames, frames.readAll_eq]

/-- A record of two bytes, cut in its header and in its payload. -/
theorem cut_probe_reassembled :
    feedAll [] [[1, 19], [0, 0, 0, 2, 7], [], [9]] = ([⟨.probe, [7, 9]⟩], some []) ∧
      readAll [1, 19, 0, 0, 0, 2, 7, 9] = ([⟨.probe, [7, 9]⟩], .eof) :=
  framing_split_invariant.1 [⟨.probe, [7, 9]⟩] [[1, 19, 0, 0, 0, 2, 7, 9]] _ rfl rfl

/-- Whatever bytes come, records or not, and however they are cut into pieces: the parser ends with
the same partial record or error as on the whole, and without an error it has returned the records
that `read_record` reads from the whole. -/
theorem parser_ignores_cuts (pieces : List (List Byte)) :
    (feedAll [] pieces).2 = (feedAll [] [pieces.flatten]).2 ∧
      ((feedAll [] pieces).2 ≠ none → (feedAll [] pieces).1 = (readAll pieces.flatten).1) := by
  obtain ⟨complete, last, frames⟩ := exists_frames pieces.flatten
  obtain ⟨ends, returned⟩ := feedAll_eq frame_nil frames
  have whole : Frames ([] ++ [pieces.flatten].flatten) complete last := by simpa using frames
  refine ⟨ends.trans (feedAll_eq frame_nil whole).1.symm, fun fine => ?_⟩
  rw [returned (ends ▸ fine), frames.readAll_eq]

end TrainingScheduler.Wire
