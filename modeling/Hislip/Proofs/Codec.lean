import Hislip.Protocol.Codec

/-! The codec is a bijection between message lists and the byte streams it parses
completely. Headers are inverted field by field, payloads chunk by chunk, and the
list of messages by induction in both directions. -/

namespace Hislip.Proofs.Codec
open Program

private theorem drop_wire (header : Header) :
    header.wire.drop 4 = bigEndian 4 header.parameter.toNat ++ bigEndian 8 header.length.toNat ∧
      header.wire.drop 8 = bigEndian 8 header.length.toNat := by
  have four : header.wire.drop 4 = bigEndian 4 header.parameter.toNat ++ bigEndian 8 header.length.toNat := rfl
  refine ⟨four, ?_⟩
  rw [show (8 : Nat) = 4 + 4 from rfl, ← List.drop_drop, four, List.drop_left' (length_bigEndian _ _)]

private theorem parameter_bigEndian (parameter : UInt32) :
    UInt32.ofNat (bigEndianValue (bigEndian 4 parameter.toNat)) = parameter := by
  rw [bigEndianValue_bigEndian, Nat.mod_eq_of_lt (Nat.lt_of_lt_of_eq parameter.toNat_lt (by decide)),
    UInt32.ofNat_toNat]

private theorem length_field_bigEndian (length : UInt64) :
    UInt64.ofNat (bigEndianValue (bigEndian 8 length.toNat)) = length := by
  rw [bigEndianValue_bigEndian, Nat.mod_eq_of_lt (Nat.lt_of_lt_of_eq length.toNat_lt (by decide)),
    UInt64.ofNat_toNat]

variable {bytes : Bytes} {header : Header}

private theorem bigEndian_parameter (size : bytes.length = 4) :
    bigEndian 4 (UInt32.ofNat (bigEndianValue bytes)).toNat = bytes := by
  have small : bigEndianValue bytes < 2 ^ 32 := by
    have bound := bigEndianValue_lt bytes
    rw [size] at bound
    exact bound
  rw [UInt32.toNat_ofNat_of_lt' small]
  exact size ▸ bigEndian_bigEndianValue bytes

private theorem bigEndian_length_field (size : bytes.length = 8) :
    bigEndian 8 (UInt64.ofNat (bigEndianValue bytes)).toNat = bytes := by
  have small : bigEndianValue bytes < 2 ^ 64 := by
    have bound := bigEndianValue_lt bytes
    rw [size] at bound
    exact bound
  rw [UInt64.toNat_ofNat_of_lt' small]
  exact size ▸ bigEndian_bigEndianValue bytes

theorem decodeHeader_wire (header : Header) : decodeHeader header.wire = .ok header := by
  obtain ⟨four, eight⟩ := drop_wire header
  have whole : (bigEndian 8 header.length.toNat).take 8 = bigEndian 8 header.length.toNat :=
    List.take_of_length_le (Nat.le_of_eq (length_bigEndian _ _))
  simp only [decodeHeader, header.length_wire, Nat.lt_irrefl, if_false, four, eight, whole,
    List.take_left' (length_bigEndian _ _), parameter_bigEndian, length_field_bigEndian]
  rfl

theorem wire_of_decodeHeader (size : bytes.length = headerSize) (decoded : decodeHeader bytes = .ok header) :
    header.wire = bytes := by
  obtain ⟨h, s, type, control, rest, rfl⟩ : ∃ h s type control rest, bytes = h :: s :: type :: control :: rest := by
    match bytes, size with
    | h :: s :: type :: control :: rest, _ => exact ⟨h, s, type, control, rest, rfl⟩
  have twelve : rest.length = 12 := by simpa [headerSize] using size
  simp only [decodeHeader, size, Nat.lt_irrefl, if_false] at decoded
  split at decoded
  next => cases decoded
  next signed =>
    obtain ⟨rfl, rfl⟩ : h = prologue.1 ∧ s = prologue.2 := by simpa [not_or] using signed
    cases decoded
    have parameter : ((prologue.1 :: prologue.2 :: type :: control :: rest).drop 4).take 4 = rest.take 4 := rfl
    have length : ((prologue.1 :: prologue.2 :: type :: control :: rest).drop 8).take 8 = rest.drop 4 :=
      List.take_of_length_le (by simp [twelve])
    rw [Header.wire, parameter, length, bigEndian_parameter (by simp [twelve]),
      bigEndian_length_field (by simp [twelve]), List.append_assoc, List.take_append_drop]
    rfl

theorem readFull_append {front tail : Bytes} {source : Source} {wanted : Nat} (stream : source.flatten = front ++ tail)
    (size : wanted = front.length) : ∃ rest, readFull source wanted = (front, none, rest) ∧ rest.flatten = tail := by
  obtain ⟨taken, left⟩ := collect_append stream size
  refine ⟨(collect wanted source).2, ?_, left⟩
  simp only [readFull, taken, Nat.le_of_eq size, if_true]

variable {source rest : Source} {scratch : Slice}

theorem readFull_ok {wanted : Nat} (read : readFull source wanted = (bytes, none, rest)) :
    bytes.length = wanted ∧ source.flatten = bytes ++ rest.flatten := by
  obtain ⟨taken, left⟩ := collect_eq wanted source
  simp only [readFull] at read
  split at read
  next enough =>
    cases read
    rw [taken, left, List.take_append_drop]
    refine ⟨Nat.le_antisymm ?_ (taken ▸ enough), rfl⟩
    exact List.length_take_le _ _
  next => split at read <;> cases read

theorem readHeader_wire {tail : Bytes} {source : Source} (stream : source.flatten = header.wire ++ tail) :
    ∃ rest, readHeader source = (.ok header, rest) ∧ rest.flatten = tail := by
  obtain ⟨rest, read, left⟩ := readFull_append stream header.length_wire.symm
  exact ⟨rest, by rw [readHeader, read]; simp only [decodeHeader_wire], left⟩

theorem readHeader_ok (read : readHeader source = (.ok header, rest)) :
    source.flatten = header.wire ++ rest.flatten := by
  unfold readHeader at read
  split at read
  next => cases read
  next bytes rest' full =>
    obtain ⟨size, stream⟩ := readFull_ok full
    obtain ⟨decoded, rfl⟩ := Prod.mk.inj read
    rw [stream, wire_of_decodeHeader size decoded]

section Payload
variable {γ : Type} {consume : Bytes → γ → Option Err × γ} {remaining : UInt64} {source : Source} {scratch : Slice}
  (room : 0 < scratch.bytes.length) {holds : Bytes → γ → Prop} {state : γ}

theorem readPayloadLoop_done (none_left : remaining.toNat = 0) :
    readPayloadLoop consume source remaining scratch room state = ⟨none, state, scratch, source⟩ := by
  have done : ¬ 0 < remaining := fun more => by
    have positive : 0 < remaining.toNat := UInt64.lt_iff_toNat_lt.mp more
    omega
  rw [readPayloadLoop, dif_neg done]

section Round
variable {source rest : Source} {remaining : UInt64} {scratch : Slice} {state after : γ} {bytes : Bytes}
  (room : 0 < scratch.bytes.length) (more : 0 < remaining)
include more

theorem readPayloadLoop_ended {err : Err}
    (read : readFull source (chunkSize remaining scratch).toNat = (bytes, some err, rest)) :
    readPayloadLoop consume source remaining scratch room state = ⟨some err, state, scratch.fill bytes, rest⟩ := by
  rw [readPayloadLoop, dif_pos more]
  simp only [read]

variable (read : readFull source (chunkSize remaining scratch).toNat = (bytes, none, rest))
include read

theorem readPayloadLoop_refused {err : Err}
    (answered : consume ((scratch.fill bytes).bytes.take (chunkSize remaining scratch).toNat) state = (some err, after)) :
    readPayloadLoop consume source remaining scratch room state = ⟨some err, after, scratch.fill bytes, rest⟩ := by
  rw [readPayloadLoop, dif_pos more]
  simp only [read, answered]

theorem readPayloadLoop_accepted
    (answered : consume ((scratch.fill bytes).bytes.take (chunkSize remaining scratch).toNat) state = (none, after)) :
    readPayloadLoop consume source remaining scratch room state =
      readPayloadLoop consume rest (remaining - chunkSize remaining scratch) (scratch.fill bytes)
        (by rwa [Slice.length_fill]) after := by
  rw [readPayloadLoop, dif_pos more]
  simp only [read, answered]

end Round

theorem readPayloadLoop_round {state after : γ} (more : 0 < remaining.toNat) {front tail : Bytes}
    (stream : source.flatten = front ++ tail) (size : (chunkSize remaining scratch).toNat = front.length)
    (accepted : consume front state = (none, after)) :
    ∃ rest, rest.flatten = tail ∧
      readPayloadLoop consume source remaining scratch room state =
        readPayloadLoop consume rest (remaining - chunkSize remaining scratch) (scratch.fill front)
          (by rwa [Slice.length_fill]) after := by
  obtain ⟨rest, read, left⟩ := readFull_append stream size
  have within : front.length ≤ scratch.bytes.length := by
    rw [← size, toNat_chunkSize]
    exact Nat.min_le_right _ _
  have positive : 0 < remaining := UInt64.lt_iff_toNat_lt.mpr more
  refine ⟨rest, left, readPayloadLoop_accepted room positive read ?_⟩
  rw [size, scratch.take_fill within, accepted]

/-- A consumer that accepts every chunk is given the payload, whatever the chunks:
what it keeps of the bytes so far it keeps of the whole payload. -/
theorem readPayloadLoop_spec
    (accepts : ∀ done chunk state, holds done state → ∃ after, consume chunk state = (none, after) ∧
      holds (done ++ chunk) after)
    {payload tail : Bytes} (done : Bytes) (room : 0 < scratch.bytes.length)
    (stream : source.flatten = payload ++ tail) (size : remaining.toNat = payload.length) (start : holds done state) :
    let read := readPayloadLoop consume source remaining scratch room state
    read.err = none ∧ holds (done ++ payload) read.state ∧ read.source.flatten = tail ∧
      0 < read.scratch.bytes.length := by
  induction length : payload.length using Nat.strong_induction_on
    generalizing payload done source remaining scratch state with
  | _ count ih =>
    by_cases none_left : remaining.toNat = 0
    · obtain rfl : payload = [] := List.eq_nil_of_length_eq_zero (by omega)
      rw [readPayloadLoop_done room none_left]
      exact ⟨rfl, by simpa using start, by simpa using stream, room⟩
    · obtain ⟨after, accepted, kept⟩ := accepts done (payload.take (chunkSize remaining scratch).toNat) state start
      have chunk := toNat_chunkSize remaining scratch
      have smaller := toNat_sub_chunkSize remaining scratch
      have cut : source.flatten = payload.take (chunkSize remaining scratch).toNat ++
          (payload.drop (chunkSize remaining scratch).toNat ++ tail) := by
        rw [stream, ← List.append_assoc, List.take_append_drop]
      obtain ⟨rest, left, round⟩ := readPayloadLoop_round room (Nat.pos_of_ne_zero none_left) cut
        (by rw [List.length_take]; omega) accepted
      have refilled : 0 < (scratch.fill (payload.take (chunkSize remaining scratch).toNat)).bytes.length := by
        rwa [Slice.length_fill]
      have sized : (remaining - chunkSize remaining scratch).toNat =
          (payload.drop (chunkSize remaining scratch).toNat).length := by
        rw [List.length_drop]
        omega
      have next := ih (payload.drop (chunkSize remaining scratch).toNat).length (by omega) _ refilled left sized kept rfl
      rw [List.append_assoc, List.take_append_drop] at next
      rw [round]
      exact next

theorem readPayloadLoop_ok
    (accepts : ∀ done chunk state after, holds done state → consume chunk state = (none, after) →
      holds (done ++ chunk) after)
    (done : Bytes) (room : 0 < scratch.bytes.length) (start : holds done state)
    (read : (readPayloadLoop consume source remaining scratch room state).err = none) :
    ∃ payload, payload.length = remaining.toNat ∧
      holds (done ++ payload) (readPayloadLoop consume source remaining scratch room state).state ∧
      source.flatten = payload ++ (readPayloadLoop consume source remaining scratch room state).source.flatten := by
  induction length : remaining.toNat using Nat.strong_induction_on
    generalizing done source remaining scratch state with
  | _ count ih =>
    by_cases none_left : remaining.toNat = 0
    · rw [readPayloadLoop_done room none_left]
      exact ⟨[], by simpa using none_left.symm.trans length, by simpa using start, rfl⟩
    · have positive : 0 < remaining := UInt64.lt_iff_toNat_lt.mpr (Nat.pos_of_ne_zero none_left)
      have chunk := toNat_chunkSize remaining scratch
      have smaller := toNat_sub_chunkSize remaining scratch
      rcases full : readFull source (chunkSize remaining scratch).toNat with ⟨bytes, _ | err, rest⟩
      · obtain ⟨size, stream⟩ := readFull_ok full
        have filled : (scratch.fill bytes).bytes.take (chunkSize remaining scratch).toNat = bytes := by
          rw [← size]
          exact scratch.take_fill (by omega)
        rcases answered : consume bytes state with ⟨_ | err, after⟩
        · rw [readPayloadLoop_accepted room positive full (by rw [filled, answered])] at read ⊢
          obtain ⟨payload, sized, kept, later⟩ := ih _ (by omega) _ (by rwa [Slice.length_fill])
            (accepts done bytes state after start answered) read rfl
          refine ⟨bytes ++ payload, ?_, ?_, ?_⟩
          · rw [List.length_append]
            omega
          · rwa [← List.append_assoc]
          · rw [stream, List.append_assoc, ← later]
        · rw [readPayloadLoop_refused room positive full (by rw [filled, answered])] at read
          cases read
      · rw [readPayloadLoop_ended room positive full] at read
        cases read

end Payload

structure WriteCall where
  header : Header
  payload : Slice

namespace WriteCall

def sent (call : WriteCall) : Header := { call.header with length := call.payload.len }

def wire (call : WriteCall) : Bytes := call.sent.wire ++ call.payload.bytes

theorem wire_eq {call : WriteCall} (length : call.header.length = call.payload.len) :
    call.wire = call.header.wire ++ call.payload.bytes := by
  rw [wire, sent, ← length]

end WriteCall

structure Packet extends WriteCall where
  agrees : header.length = 0 ∨ header.length = payload.len

theorem exec_writeMessage (packet : Packet) (output : Output) :
    ∃ final, exec WriterOp.handler (writeMessage packet.header packet.payload) output = (some none, final) ∧
      final.out = output.out ++ packet.wire := by
  have agrees : ¬ (packet.header.length ≠ 0 ∧ packet.header.length ≠ packet.payload.len) := by
    rintro ⟨declared, differs⟩
    exact packet.agrees.elim declared differs
  simp only [writeMessage, if_neg agrees, writeHeader, exec_bind, exec_perform, WriterOp.handler_encode,
    WriterOp.handler_writeBuffer, andThen_some]
  by_cases empty : packet.payload.bytes.length = 0
  · simp only [WriteCall.wire, List.eq_nil_of_length_eq_zero empty, List.append_nil]
    exact ⟨_, rfl, rfl⟩
  · simp only [empty, if_false, exec_perform]
    exact ⟨_, rfl, List.append_assoc _ _ _⟩

def writeMessages : List WriteCall → WriterProgram (Option Err)
  | [] => return none
  | call :: rest => do
    match ← writeMessage call.header call.payload with
    | some err => return some err
    | none => writeMessages rest

/-- Alternate `ReadHeader` and `ReadPayload` for `count` messages, collecting the
chunks of each payload. -/
def readMessages : Nat → Slice → Source → Except Err (List (Header × Bytes)) × Source
  | 0, _, source => (.ok [], source)
  | count + 1, scratch, source =>
    match readHeader source with
    | (.error err, rest) => (.error err, rest)
    | (.ok header, rest) =>
      let read := readPayload (fun chunk payload => (none, payload ++ chunk)) rest header.length scratch []
      match read.err with
      | some err => (.error err, read.source)
      | none =>
        match readMessages count read.scratch read.source with
        | (.ok messages, last) => (.ok ((header, read.state) :: messages), last)
        | (.error err, last) => (.error err, last)

theorem exec_writeMessages (packets : List Packet) (output : Output) :
    ∃ final, exec WriterOp.handler (writeMessages (packets.map (·.toWriteCall))) output =
        (some none, final) ∧ final.out = output.out ++ (packets.map (·.wire)).flatten := by
  induction packets generalizing output with
  | nil => exact ⟨output, rfl, by simp⟩
  | cons packet rest ih =>
    obtain ⟨middle, wrote, first⟩ := exec_writeMessage packet output
    obtain ⟨final, later, second⟩ := ih middle
    refine ⟨final, ?_, by rw [second, first, List.map_cons, List.flatten_cons, List.append_assoc]⟩
    simp only [List.map_cons, writeMessages, exec_bind, wrote, andThen_some]
    exact later

/-- Reading back what was written, through any scratch buffer and in any pieces. -/
theorem readMessages_wire (packets : List Packet) (room : 0 < scratch.bytes.length) {tail : Bytes} {source : Source}
    (stream : source.flatten = (packets.map (·.wire)).flatten ++ tail) :
    ∃ rest, readMessages packets.length scratch source =
        (.ok (packets.map fun packet => (packet.sent, packet.payload.bytes)), rest) ∧ rest.flatten = tail := by
  induction packets generalizing scratch source with
  | nil => exact ⟨source, rfl, stream⟩
  | cons packet rest ih =>
    rw [List.map_cons, List.flatten_cons, WriteCall.wire, List.append_assoc, List.append_assoc] at stream
    obtain ⟨afterHeader, header, payloads⟩ := readHeader_wire stream
    have appends : ∀ done chunk state : Bytes, state = done →
        ∃ after, ((none : Option Err), state ++ chunk) = (none, after) ∧ after = done ++ chunk :=
      fun done chunk state same => ⟨_, rfl, by rw [same]⟩
    obtain ⟨accepted, collected, left, kept⟩ :=
      readPayloadLoop_spec appends [] room payloads packet.payload.toNat_len rfl
    obtain ⟨final, later, done⟩ := ih kept left
    refine ⟨final, ?_, done⟩
    simp only [List.length_cons, readMessages, header, readPayload, dif_pos room, List.map_cons]
    have length : packet.sent.length = packet.payload.len := rfl
    simp only [length, accepted, later, collected, List.nil_append]

theorem wire_of_readMessages {count : Nat} {messages : List (Header × Bytes)} (bound : source.flatten.length < 2 ^ 63)
    (read : readMessages count scratch source = (.ok messages, rest)) :
    ∃ packets : List Packet, messages = packets.map (fun packet => (packet.header, packet.payload.bytes)) ∧
      source.flatten = (packets.map (·.wire)).flatten ++ rest.flatten := by
  induction count generalizing scratch source messages with
  | zero =>
    cases read
    exact ⟨[], rfl, rfl⟩
  | succ count ih =>
    unfold readMessages at read
    split at read
    next => cases read
    next header afterHeader found =>
      have stream := readHeader_ok found
      simp only at read
      split at read
      next => cases read
      next clean =>
        unfold readPayload at clean read
        split at clean
        next room =>
          have appends : ∀ done chunk state after : Bytes, state = done →
              ((none : Option Err), state ++ chunk) = (none, after) → after = done ++ chunk := by
            rintro done chunk _ _ rfl ⟨⟩
            rfl
          obtain ⟨payload, size, collected, left⟩ :=
            readPayloadLoop_ok appends [] room rfl clean
          rw [stream, left] at bound
          simp only [List.length_append] at bound
          simp only [dif_pos room, collected, List.nil_append] at read
          split at read
          next later last remaining =>
            obtain ⟨⟨⟩, ⟨⟩⟩ := Prod.mk.inj read
            obtain ⟨packets, rfl, rest_eq⟩ := ih (by omega) remaining
            have length : header.length = (Slice.mk payload (by omega)).len :=
              UInt64.toNat_inj.mp (by rw [Slice.toNat_len]; exact size.symm)
            refine ⟨⟨⟨header, ⟨payload, by omega⟩⟩, .inr length⟩ :: packets, rfl, ?_⟩
            rw [List.map_cons, List.flatten_cons, WriteCall.wire_eq length, stream, left, rest_eq]
            simp only [List.append_assoc]
          next => cases read
        next => cases clean

/-- Encoding then decoding recovers every message and ends where the bytes end;
decoding then encoding gives the same bytes back; a length that disagrees with the
payload is refused before anything is written. -/
theorem codec_bijection :
    (∀ (packets : List Packet) (scratch : Slice) (output : Output), 0 < scratch.bytes.length →
      ∃ bytes final,
        exec WriterOp.handler (writeMessages (packets.map (·.toWriteCall))) output =
            (some none, final) ∧
          final.out = output.out ++ bytes ∧
          ∀ source : Source, source.flatten = bytes →
            ∃ rest, readMessages packets.length scratch source =
                (.ok (packets.map fun packet =>
                  ({ packet.header with length := packet.payload.len }, packet.payload.bytes)), rest) ∧
              rest.flatten = []) ∧
      (∀ (input : Slice) (source rest : Source) (scratch : Slice) (count : Nat) (messages : List (Header × Bytes))
        (output : Output), source.flatten = input.bytes →
        readMessages count scratch source = (.ok messages, rest) → rest.flatten = [] →
        ∃ written final, written.map (fun call => (call.header, call.payload.bytes)) = messages ∧
          exec WriterOp.handler (writeMessages written) output = (some none, final) ∧
          final.out = output.out ++ input.bytes) ∧
      ∀ (header : Header) (payload : Slice) (output : Output), header.length ≠ 0 → header.length ≠ payload.len →
        exec WriterOp.handler (writeMessage header payload) output =
          (some (some (Sentinel.payloadLength : Err)), output) := by
  refine ⟨fun packets scratch output room => ?_, fun input source rest scratch count messages output stream read ended => ?_,
    fun header payload output declared differs => ?_⟩
  · obtain ⟨final, wrote, out⟩ := exec_writeMessages packets output
    refine ⟨_, final, wrote, out, fun source stream => ?_⟩
    exact readMessages_wire packets room (by rw [stream, List.append_nil])
  · obtain ⟨packets, rfl, whole⟩ := wire_of_readMessages (stream ▸ input.fits) read
    obtain ⟨final, wrote, out⟩ := exec_writeMessages packets output
    refine ⟨_, final, ?_, wrote, ?_⟩
    · simp only [List.map_map]
      rfl
    · rw [out, ← stream, whole, ended, List.append_nil]
  · simp only [writeMessage, if_pos (And.intro declared differs)]
    rfl

end Hislip.Proofs.Codec
