import Hislip.Proofs.Codec
import Hislip.Server.Reader

/-! The reader stays synchronised: one call of `readOne` consumes one message, fits
or not, so a run of calls delivers the list of messages that was written. -/

namespace Hislip.Proofs.ReaderSync
open Hislip.Server Hislip.Proofs.Codec Program

def written (packets : List Packet) : Bytes :=
  (exec WriterOp.handler (writeMessages (packets.map (·.toWriteCall)))
    { buf := List.replicate headerSize 0, sized := emptyBuffer_sized, out := [] }).2.out

theorem written_eq (packets : List Packet) : written packets = (packets.map (·.wire)).flatten := by
  obtain ⟨final, wrote, out⟩ := exec_writeMessages packets
    { buf := List.replicate headerSize 0, sized := emptyBuffer_sized, out := [] }
  rw [written, wrote]
  simpa using out

def readEach {limit : UInt64} : List (ReadBuffer limit) → Source → List Message × Source
  | [], source => ([], source)
  | buf :: free, source =>
    let (message, _, rest) := readOne source buf
    let (messages, last) := readEach free rest
    (message :: messages, last)

def delivered (limit : UInt64) (packet : Packet) : Message :=
  if packet.payload.len ≤ limit then { header := packet.sent, payload := packet.payload.bytes }
  else { header := packet.sent, err := some Sentinel.messageTooLarge }

variable {source : Source} {length : UInt64} {scratch : Slice}

theorem discardPayload_drains {payload tail : Bytes} (room : 0 < scratch.bytes.length)
    (stream : source.flatten = payload ++ tail) (size : length.toNat = payload.length) :
    (discardPayload source length scratch).err = none ∧
    (discardPayload source length scratch).source.flatten = tail := by
  have ignores : ∀ (done chunk : Bytes) (state : Unit), True →
      ∃ after, nilConsumer chunk state = (none, after) ∧ True := fun _ _ state _ => ⟨state, rfl, trivial⟩
  obtain ⟨clean, -, left, -⟩ := readPayloadLoop_spec ignores [] room stream size trivial
  rw [discardPayload, readPayload, dif_pos room]
  exact ⟨clean, left⟩

theorem discardPayload_fills {payload tail : Bytes} (room : 0 < scratch.bytes.length)
    (stream : source.flatten = payload ++ tail) (size : length.toNat = payload.length)
    (within : payload.length ≤ scratch.bytes.length) :
    (discardPayload source length scratch).scratch.bytes.length = scratch.bytes.length ∧
      (discardPayload source length scratch).scratch.bytes.take length.toNat = payload := by
  rw [discardPayload, readPayload, dif_pos room]
  by_cases empty : length.toNat = 0
  · rw [readPayloadLoop_done room empty]
    obtain rfl : payload = [] := List.eq_nil_of_length_eq_zero (by omega)
    exact ⟨rfl, by rw [empty]; rfl⟩
  · have chunk := toNat_chunkSize length scratch
    have smaller := toNat_sub_chunkSize length scratch
    have ignored : nilConsumer payload () = (none, ()) := rfl
    obtain ⟨rest, -, round⟩ := readPayloadLoop_round room (Nat.pos_of_ne_zero empty) stream (by omega) ignored
    rw [round, readPayloadLoop_done _ (by omega)]
    exact ⟨scratch.length_fill payload, size ▸ scratch.take_fill within⟩

variable {limit : UInt64} (buf : ReadBuffer limit)

private theorem length_slice : buf.slice.bytes.length = limit.toNat := by
  rw [← buf.slice.toNat_len, buf.sized]

private theorem take_refill (scratch : Slice) {size : Nat} (within : scratch.bytes.length ≤ limit.toNat)
    (part : size ≤ scratch.bytes.length) : (buf.refill scratch).slice.bytes.take size = scratch.bytes.take size := by
  have whole := buf.slice.take_fill (within.trans_eq (length_slice buf).symm)
  calc (buf.slice.fill scratch.bytes).bytes.take size
      = ((buf.slice.fill scratch.bytes).bytes.take scratch.bytes.length).take size := by
        rw [List.take_take, Nat.min_eq_left part]
    _ = scratch.bytes.take size := by rw [whole]

theorem readOne_wire (positive : 1 ≤ limit) (buf : ReadBuffer limit) (packet : Packet) {tail : Bytes}
    (stream : source.flatten = packet.wire ++ tail) :
    ∃ after rest, readOne source buf = (delivered limit packet, after, rest) ∧ rest.flatten = tail := by
  rw [WriteCall.wire, List.append_assoc] at stream
  obtain ⟨afterHeader, header, payloads⟩ := readHeader_wire stream
  have length : packet.sent.length = packet.payload.len := rfl
  have capacity := length_slice buf
  have some_room : 1 ≤ limit.toNat := UInt64.le_iff_toNat_le.mp positive
  rw [readOne, header]
  simp only [length, buf.sized]
  by_cases large : limit < packet.payload.len
  · have room : 0 < buf.slice.bytes.length := by omega
    obtain ⟨clean, left⟩ := discardPayload_drains room payloads packet.payload.toNat_len
    simp only [delivered, if_pos large, if_neg (UInt64.not_le.mpr large), clean]
    exact ⟨_, _, rfl, left⟩
  · have fits : packet.payload.bytes.length ≤ limit.toNat := by
      rw [← packet.payload.toNat_len]
      exact UInt64.le_iff_toNat_le.mp (UInt64.not_lt.mp large)
    have cut : (buf.cut (max packet.payload.len.toNat 1)).bytes.length = max packet.payload.bytes.length 1 := by
      rw [ReadBuffer.cut, List.length_take, packet.payload.toNat_len]
      omega
    have room : 0 < (buf.cut (max packet.payload.len.toNat 1)).bytes.length := by omega
    obtain ⟨clean, left⟩ := discardPayload_drains room payloads packet.payload.toNat_len
    obtain ⟨kept, filled⟩ := discardPayload_fills room payloads packet.payload.toNat_len (by omega)
    have size := packet.payload.toNat_len
    have payload := (take_refill buf _ (by omega) (by omega)).trans filled
    simp only [delivered, if_neg large, if_pos (UInt64.not_lt.mp large), clean, payload]
    exact ⟨_, _, rfl, left⟩

theorem readPayloadLoop_alike {remaining : UInt64} {scratch other : Slice} (room : 0 < scratch.bytes.length)
    (same : other.bytes.length = scratch.bytes.length) :
    (readPayloadLoop nilConsumer source remaining other (same ▸ room) ()).err =
        (readPayloadLoop nilConsumer source remaining scratch room ()).err ∧
      (readPayloadLoop nilConsumer source remaining other (same ▸ room) ()).source =
        (readPayloadLoop nilConsumer source remaining scratch room ()).source := by
  induction length : remaining.toNat using Nat.strong_induction_on generalizing source remaining scratch other with
  | _ count ih =>
    by_cases none_left : remaining.toNat = 0
    · rw [readPayloadLoop_done _ none_left, readPayloadLoop_done _ none_left]
      exact ⟨rfl, rfl⟩
    · have positive : 0 < remaining := UInt64.lt_iff_toNat_lt.mpr (Nat.pos_of_ne_zero none_left)
      have smaller := toNat_sub_chunkSize remaining scratch
      have chunk : chunkSize remaining other = chunkSize remaining scratch := by
        unfold chunkSize Slice.len
        rw [same]
      rw [readPayloadLoop, dif_pos positive, readPayloadLoop, dif_pos positive, chunk]
      simp only
      cases readFull source (chunkSize remaining scratch).toNat with
      | mk bytes rest =>
        obtain ⟨err, rest⟩ := rest
        cases err with
        | some err => exact ⟨rfl, rfl⟩
        | none =>
          have filled : (other.fill bytes).bytes.length = (scratch.fill bytes).bytes.length := by
            rw [Slice.length_fill, Slice.length_fill, same]
          exact ih _ (by omega) (by rwa [Slice.length_fill]) filled rfl

theorem discardPayload_alike (source : Source) (length : UInt64) {scratch other : Slice}
    (same : other.bytes.length = scratch.bytes.length) :
    (discardPayload source length other).err = (discardPayload source length scratch).err ∧
      (discardPayload source length other).source = (discardPayload source length scratch).source := by
  unfold discardPayload readPayload
  by_cases room : 0 < scratch.bytes.length
  · rw [dif_pos room, dif_pos (same ▸ room)]
    exact readPayloadLoop_alike room same
  · rw [dif_neg room, dif_neg (same ▸ room)]
    exact ⟨rfl, rfl⟩

theorem discardPayload_clean (clean : (discardPayload source length scratch).err = none)
    (within : length.toNat ≤ scratch.bytes.length) :
    (discardPayload source length scratch).scratch.bytes.length = scratch.bytes.length ∧
      (discardPayload source length scratch).scratch.bytes.take length.toNat = source.flatten.take length.toNat := by
  have room : 0 < scratch.bytes.length := by
    by_contra empty
    rw [discardPayload, readPayload, dif_neg empty] at clean
    cases clean
  have ignores : ∀ (done chunk : Bytes) (state after : Unit), True → nilConsumer chunk state = (none, after) → True :=
    fun _ _ _ _ _ _ => trivial
  have looped : (readPayloadLoop nilConsumer source length scratch room ()).err = none := by
    rwa [discardPayload, readPayload, dif_pos room] at clean
  obtain ⟨payload, size, -, stream⟩ := readPayloadLoop_ok ignores [] room trivial looped
  rw [stream, ← size, List.take_left, size]
  exact discardPayload_fills room stream size.symm (by omega)

theorem payload_of_clean (fits : length ≤ limit)
    (clean : (discardPayload source length (buf.cut (max length.toNat 1))).err = none) :
    (buf.refill (discardPayload source length (buf.cut (max length.toNat 1))).scratch).slice.bytes.take length.toNat =
      source.flatten.take length.toNat := by
  have capacity := length_slice buf
  have small : length.toNat ≤ limit.toNat := UInt64.le_iff_toNat_le.mp fits
  have cut : (buf.cut (max length.toNat 1)).bytes.length = min (max length.toNat 1) limit.toNat := by
    rw [ReadBuffer.cut, List.length_take, capacity]
  obtain ⟨kept, front⟩ := discardPayload_clean clean (by omega)
  rw [take_refill buf _ (by omega) (by omega), front]

/-- What an earlier message left in the buffer does not show in the next one. -/
theorem readOne_alike (source : Source) (buf other : ReadBuffer limit) :
    (readOne source other).1 = (readOne source buf).1 ∧ (readOne source other).2.2 = (readOne source buf).2.2 := by
  unfold readOne
  cases readHeader source with
  | mk header rest =>
    cases header with
    | error err => exact ⟨rfl, rfl⟩
    | ok header =>
      simp only [buf.sized, other.sized]
      have lengths : other.slice.bytes.length = buf.slice.bytes.length :=
        (length_slice other).trans (length_slice buf).symm
      by_cases large : limit < header.length
      · obtain ⟨err, left⟩ := discardPayload_alike rest header.length lengths
        simp only [if_pos large, err]
        cases (discardPayload rest header.length buf.slice).err <;> exact ⟨rfl, left⟩
      · have cuts : (other.cut (max header.length.toNat 1)).bytes.length =
        (buf.cut (max header.length.toNat 1)).bytes.length := by
          simp only [ReadBuffer.cut, List.length_take, lengths]
        obtain ⟨err, left⟩ := discardPayload_alike rest header.length cuts
        simp only [if_neg large, err]
        cases clean : (discardPayload rest header.length (buf.cut (max header.length.toNat 1))).err with
        | some err => exact ⟨rfl, left⟩
        | none =>
          have fits := UInt64.not_lt.mp large
          simp only [payload_of_clean buf fits clean, payload_of_clean other fits (err.trans clean)]
          exact ⟨trivial, left⟩

private theorem take_length_take (bytes : Bytes) (size : Nat) :
    bytes.take (bytes.take size).length = bytes.take size := by
  rw [List.length_take, List.take_eq_take_iff]
  omega

theorem readOne_payload (source : Source) (buf : ReadBuffer limit) :
    (readOne source buf).2.1.slice.bytes.take (readOne source buf).1.payload.length =
    (readOne source buf).1.payload := by
  unfold readOne
  cases readHeader source with
  | mk header rest =>
    cases header with
    | error err => rfl
    | ok header =>
      simp only
      split
      · split <;> rfl
      · split
        · rfl
        · exact take_length_take _ _

theorem length_wire (packet : Packet) : packet.wire.length = headerSize + packet.payload.bytes.length := by
  rw [WriteCall.wire, List.length_append, Header.length_wire]

theorem readEach_wire (positive : 1 ≤ limit) (buffers : List (ReadBuffer limit)) (packets : List Packet)
    (enough : buffers.length ≤ packets.length) {tail : Bytes}
    (stream : source.flatten = (packets.map (·.wire)).flatten ++ tail) :
    (readEach buffers source).1 = (packets.take buffers.length).map (delivered limit) ∧
      (readEach buffers source).2.flatten = ((packets.drop buffers.length).map (·.wire)).flatten ++ tail := by
  induction buffers generalizing packets source with
  | nil => exact ⟨rfl, stream⟩
  | cons buf free ih =>
    cases packets with
    | nil => simp at enough
    | cons packet rest =>
      rw [List.map_cons, List.flatten_cons, List.append_assoc] at stream
      obtain ⟨after, left, read, later⟩ := readOne_wire positive buf packet stream
      obtain ⟨messages, last⟩ := ih rest (Nat.le_of_succ_le_succ enough) later
      simp only [readEach, read, List.length_cons, List.take_succ_cons, List.drop_succ_cons, List.map_cons, messages, last,
        and_self]

def unsynchronised : Message := { header := { type := .initializeRequest }, err := some Sentinel.invalidPrologue }

theorem readOne_invalid {garbage tail : Bytes} (size : garbage.length = headerSize)
    (unsigned : garbage.getD 0 0 ≠ prologue.1 ∨ garbage.getD 1 0 ≠ prologue.2)
    (stream : source.flatten = garbage ++ tail) : ∃ rest, readOne source buf = (unsynchronised, buf, rest) := by
  obtain ⟨rest, read, -⟩ := readFull_append stream size.symm
  refine ⟨rest, ?_⟩
  have decoded : decodeHeader garbage = .error Sentinel.invalidPrologue := by
    rw [decodeHeader, if_neg (by omega), if_pos unsigned]
  simp only [readOne, readHeader, read, decoded]
  rfl

theorem run_cons {buf after : ReadBuffer limit} {free : List (ReadBuffer limit)} {source rest : Source}
    {packet : Packet} (read : readOne source buf = (delivered limit packet, after, rest)) :
    run (buf :: free) source = delivered limit packet :: run free rest := by
  simp only [run, read, delivered]
  by_cases fits : packet.payload.len ≤ limit
  · simp only [if_pos fits]
  · simp only [if_neg fits]
    rfl

theorem run_wire (positive : 1 ≤ limit) (buffers : List (ReadBuffer limit)) (packets : List Packet)
    {garbage tail : Bytes} (size : garbage.length = headerSize)
    (unsigned : garbage.getD 0 0 ≠ prologue.1 ∨ garbage.getD 1 0 ≠ prologue.2)
    (stream : source.flatten = (packets.map (·.wire)).flatten ++ (garbage ++ tail)) :
    run buffers source = (packets.map (delivered limit) ++ [unsynchronised]).take buffers.length := by
  induction buffers generalizing packets source with
  | nil => rfl
  | cons buf free ih =>
    cases packets with
    | nil =>
      obtain ⟨rest, read⟩ := readOne_invalid buf size unsigned stream
      simp only [run, read, List.map_nil, List.nil_append, List.length_cons, List.take_succ_cons, List.take_nil]
      rfl
    | cons packet rest =>
      rw [List.map_cons, List.flatten_cons, List.append_assoc] at stream
      obtain ⟨after, left, read, later⟩ := readOne_wire positive buf packet stream
      rw [run_cons read, ih rest later]
      rfl

/-- Successive calls deliver the messages that were written, in order and each
with exactly its own bytes; sixteen bytes without the prologue after them are
reported once and nothing is delivered after that. -/
theorem reader_synchronised (limit : UInt64) (positive : 1 ≤ limit) (packets : List Packet) (tail : Bytes)
    (source : Source) (stream : source.flatten = written packets ++ tail) :
    (∀ buffers : List (ReadBuffer limit), buffers.length ≤ packets.length →
      (readEach buffers source).1 = (packets.take buffers.length).map (delivered limit) ∧
        (readEach buffers source).2.flatten = source.flatten.drop
          ((packets.take buffers.length).map fun packet => headerSize + packet.payload.bytes.length).sum) ∧
      ∀ (garbage more : Bytes) (buffers : List (ReadBuffer limit)), tail = garbage ++ more →
        garbage.length = headerSize → garbage.getD 0 0 ≠ prologue.1 ∨ garbage.getD 1 0 ≠ prologue.2 →
        run buffers source = (packets.map (delivered limit) ++ [unsynchronised]).take buffers.length := by
  rw [written_eq] at stream
  refine ⟨fun buffers enough => ?_, fun garbage more buffers same size unsigned => ?_⟩
  · obtain ⟨messages, left⟩ := readEach_wire positive buffers packets enough stream
    refine ⟨messages, ?_⟩
    have consumed : ((packets.take buffers.length).map fun packet => headerSize + packet.payload.bytes.length).sum =
        ((packets.take buffers.length).map (·.wire)).flatten.length := by
      simp only [List.length_flatten, List.map_map]
      congr 2
      funext packet
      exact (length_wire packet).symm
    have cut : (packets.map (·.wire)).flatten = ((packets.take buffers.length).map (·.wire)).flatten ++
        ((packets.drop buffers.length).map (·.wire)).flatten := by
      rw [← List.flatten_append, ← List.map_append, List.take_append_drop]
    rw [left, stream, cut, List.append_assoc, consumed, List.drop_left]
  · rw [same] at stream
    exact run_wire positive buffers packets size unsigned stream

/-- A reader of one byte gets a message of one byte, then one of two, then garbage. -/
theorem reader_synchronised_oversized :
    let short : Packet := ⟨⟨{ type := .data }, ⟨[1], by decide⟩⟩, .inl rfl⟩
    let long : Packet := ⟨⟨{ type := .dataEnd }, ⟨[2, 3], by decide⟩⟩, .inl rfl⟩
    let buf : ReadBuffer 1 := ⟨⟨[0], by decide⟩, by decide⟩
    run [buf, buf, buf, buf] [written [short, long] ++ List.replicate 16 0] =
      [{ header := short.sent, payload := [1] }, { header := long.sent, err := some Sentinel.messageTooLarge },
        unsynchronised] := by
  intro short long buf
  exact (reader_synchronised 1 (by decide) [short, long] (List.replicate 16 0)
    [written [short, long] ++ List.replicate 16 0] (List.append_nil _)).2
    (List.replicate 16 0) [] [buf, buf, buf, buf] rfl rfl (.inl (by decide))

end Hislip.Proofs.ReaderSync
