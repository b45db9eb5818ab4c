import Hislip.Proofs.ReaderSync
import Hislip.Server.Channels
import Hislip.Server.Execution

/-! A connection from its first byte. `Serve` reads the first message itself and leaves
the others to the reader of the channel; the payload of AsyncInitialize is read by
neither, so the reader starts inside it. -/

namespace Hislip.Proofs.Connections
open Hislip.Server Hislip.Proofs.Codec Hislip.Proofs.ReaderSync Program

variable {limit : UInt64} {buffers : List (ReadBuffer limit)} {packets : List Packet}

def ended : Message := { header := { type := .initializeRequest }, err := some Sentinel.eof }

section Errors

variable {err : Err}

theorem readFull_err {source rest : Source} {wanted : Nat} {bytes : Bytes}
    (read : readFull source wanted = (bytes, some err, rest)) :
    (err = Sentinel.eof ∧ (wanted ≠ 0 → source.flatten = [])) ∨ err = Sentinel.unexpectedEOF := by
  obtain ⟨taken, -⟩ := collect_eq wanted source
  simp only [readFull] at read
  split at read
  next => cases read
  next =>
    split at read
    next empty =>
      cases read
      refine .inl ⟨rfl, fun positive => ?_⟩
      rw [taken, List.take_eq_nil_iff] at empty
      exact empty.resolve_left positive
    next =>
      cases read
      exact .inr rfl

theorem readHeader_err {source rest : Source} (read : readHeader source = (.error err, rest)) :
    err ≠ Sentinel.messageTooLarge ∧ (err = Sentinel.eof → source.flatten = []) := by
  unfold readHeader at read
  split at read
  next bytes found rest full =>
    cases read
    rcases readFull_err full with ⟨rfl, empty⟩ | rfl
    · exact ⟨by decide, fun _ => empty (by decide)⟩
    · exact ⟨by decide, fun same => absurd same (by decide)⟩
  next bytes rest full =>
    have failed : decodeHeader bytes = .error err := congrArg Prod.fst read
    simp only [decodeHeader] at failed
    split at failed
    next =>
      cases failed
      exact ⟨by decide, fun same => absurd same (by decide)⟩
    next =>
      split at failed
      next =>
        cases failed
        exact ⟨by decide, fun same => absurd same (by decide)⟩
      next => cases failed

variable {source : Source} {scratch : Slice}

theorem readPayloadLoop_err {remaining : UInt64} (room : 0 < scratch.bytes.length)
    (failed : (readPayloadLoop nilConsumer source remaining scratch room ()).err = some err) :
    err ≠ Sentinel.messageTooLarge := by
  induction length : remaining.toNat using Nat.strong_induction_on generalizing source remaining scratch with
  | _ count ih =>
    by_cases none_left : remaining.toNat = 0
    · rw [readPayloadLoop_done room none_left] at failed
      cases failed
    · have positive : 0 < remaining := UInt64.lt_iff_toNat_lt.mpr (Nat.pos_of_ne_zero none_left)
      have smaller := toNat_sub_chunkSize remaining scratch
      rw [readPayloadLoop, dif_pos positive] at failed
      simp only at failed
      split at failed
      next bytes found rest full =>
        cases failed
        rcases readFull_err full with ⟨rfl, -⟩ | rfl <;> decide
      next bytes rest full => exact ih _ (by omega) _ failed rfl

theorem discardPayload_err {length : UInt64} (failed : (discardPayload source length scratch).err = some err) :
    err ≠ Sentinel.messageTooLarge := by
  unfold discardPayload readPayload at failed
  split at failed
  next room => exact readPayloadLoop_err room failed
  next =>
    cases failed
    decide

theorem discardPayload_consumes {length : UInt64} (clean : (discardPayload source length scratch).err = none) :
    source.flatten.length = length.toNat + (discardPayload source length scratch).source.flatten.length := by
  unfold discardPayload readPayload at clean ⊢
  split at clean
  next room =>
    have ignores : ∀ (done chunk : Bytes) (state after : Unit), True → nilConsumer chunk state = (none, after) → True :=
      fun _ _ _ _ _ _ => trivial
    obtain ⟨payload, size, -, stream⟩ := readPayloadLoop_ok ignores [] room trivial clean
    rw [dif_pos room, stream, List.length_append, size]
  next => cases clean

theorem discardPayload_empty (source : Source) (scratch : Slice) :
    (discardPayload source 0 scratch).err ≠ some (.sentinel .eof) := by
  unfold discardPayload readPayload
  split
  next room =>
    rw [readPayloadLoop_done room rfl]
    exact (Option.some_ne_none _).symm
  next => exact fun same => absurd (Option.some.inj same) (by decide)

end Errors

section Consumption
variable {buf after : ReadBuffer limit} {source rest : Source} {message : Message}

theorem readOne_consumes (read : readOne source buf = (message, after, rest))
    (whole : message.err = none ∨ message.err = some (.sentinel .messageTooLarge)) :
    source.flatten.length = headerSize + message.header.length.toNat + rest.flatten.length := by
  unfold readOne at read
  split at read
  next err _ failed =>
    cases read
    rcases whole with none | same
    · cases none
    · exact absurd (Option.some.inj same) (readHeader_err failed).1
  next header left found =>
    have stream := congrArg List.length (readHeader_ok found)
    rw [List.length_append, Header.length_wire] at stream
    simp only at read
    split at read
    all_goals
      split at read
      next err failed =>
        cases read
        rcases whole with none | same
        · cases none
        · exact absurd (Option.some.inj same) (discardPayload_err failed)
      next clean =>
        cases read
        rw [stream, discardPayload_consumes clean, Nat.add_assoc]

theorem readOne_ended (read : readOne source buf = (ended, after, rest)) : source.flatten = [] := by
  unfold readOne at read
  split at read
  next err _ failed => exact (readHeader_err failed).2 (Option.some.inj (congrArg (·.1.err) read))
  next header left found =>
    simp only at read
    split at read
    all_goals
      split at read
      next err failed =>
        -- The header that is reported declares no payload, so there was nothing to fail at.
        have declared : header = ended.header := congrArg (·.1.header) read
        have reported : err = Sentinel.eof := Option.some.inj (congrArg (·.1.err) read)
        subst declared reported
        exact absurd failed (discardPayload_empty _ _)
      next => cases congrArg (·.1.err) read

end Consumption

section Runs

theorem delivered_header (packet : Packet) : (delivered limit packet).header = packet.sent := by
  unfold delivered
  split <;> rfl

theorem delivered_err (packet : Packet) :
    (delivered limit packet).err = none ∨ (delivered limit packet).err = some (.sentinel .messageTooLarge) := by
  unfold delivered
  split
  · exact .inl rfl
  · exact .inr rfl

variable {source : Source}

theorem readOne_nil (buf : ReadBuffer limit) (stream : source.flatten = []) :
    ∃ rest, readOne source buf = (ended, buf, rest) := by
  obtain ⟨taken, -⟩ := collect_eq headerSize source
  rw [stream, List.take_nil] at taken
  have short : ¬ headerSize ≤ ([] : Bytes).length := by decide
  refine ⟨(collect headerSize source).2, ?_⟩
  simp only [readOne, readHeader, readFull, taken, if_neg short, if_true]
  rfl

theorem run_stream (positive : 1 ≤ limit) (buffers : List (ReadBuffer limit)) (packets : List Packet)
    (stream : source.flatten = (packets.map (·.wire)).flatten) :
    run buffers source = (packets.map (delivered limit) ++ [ended]).take buffers.length := by
  induction buffers generalizing packets source with
  | nil => rfl
  | cons buf free ih =>
    cases packets with
    | nil =>
      obtain ⟨rest, read⟩ := readOne_nil buf stream
      simp only [run, read, List.map_nil, List.nil_append, List.length_cons, List.take_succ_cons, List.take_nil]
      rfl
    | cons packet rest =>
      rw [List.map_cons, List.flatten_cons] at stream
      obtain ⟨after, left, read, later⟩ := readOne_wire positive buf packet stream
      rw [run_cons read, ih rest later]
      rfl

theorem run_eq_cons {buf : ReadBuffer limit} {free : List (ReadBuffer limit)} {message : Message}
    {messages : List Message} (read : run (buf :: free) source = message :: messages) :
    ∃ after rest, readOne source buf = (message, after, rest) ∧
      (message.err = none ∨ message.err = some (.sentinel .messageTooLarge) → run free rest = messages) := by
  cases one : readOne source buf with
  | mk found left =>
    obtain ⟨after, rest⟩ := left
    simp only [run, one] at read
    split at read
    next clean =>
      cases read
      exact ⟨after, rest, rfl, fun _ => rfl⟩
    next err failed =>
      split at read
      next =>
        cases read
        exact ⟨after, rest, rfl, fun _ => rfl⟩
      next fatal =>
        cases read
        refine ⟨after, rest, rfl, fun goes => ?_⟩
        rcases goes with none | same
        · cases failed.symm.trans none
        · cases failed.symm.trans same
          exact absurd rfl fatal

/-- A run that delivers these messages and then the end has consumed their bytes and no
others. -/
theorem run_consumes (buffers : List (ReadBuffer limit)) (packets : List Packet)
    (read : run buffers source = packets.map (delivered limit) ++ [ended]) :
    source.flatten.length = (packets.map (·.wire)).flatten.length := by
  induction packets generalizing buffers source with
  | nil =>
    cases buffers with
    | nil => cases read
    | cons buf free =>
      obtain ⟨after, rest, one, -⟩ := run_eq_cons read
      rw [readOne_ended one]
      rfl
  | cons packet later ih =>
    cases buffers with
    | nil => cases read
    | cons buf free =>
      obtain ⟨after, rest, one, more⟩ := run_eq_cons read
      have consumed := readOne_consumes one (delivered_err packet)
      have remaining := ih free (more (delivered_err packet))
      have size : (delivered limit packet).header.length.toNat = packet.payload.bytes.length := by
        rw [delivered_header]
        exact packet.payload.toNat_len
      rw [List.map_cons, List.flatten_cons, List.length_append, length_wire, consumed, size, remaining]

end Runs

section Opening
variable {first : Packet} {later : Bytes} {source : Source}

theorem makeBytes_eq {length : UInt64} (fits : length.toNat < 2 ^ 63) :
    ∃ buf, makeBytes length = some buf ∧ buf.bytes.length = length.toNat := by
  have sized : (List.replicate length.toNat (0 : UInt8)).length < 2 ^ 63 := by rwa [List.length_replicate]
  exact ⟨⟨_, sized⟩, dif_pos sized, List.length_replicate⟩

theorem readSubAddress_wire (within : first.payload.len ≤ limit)
    (stream : source.flatten = first.payload.bytes ++ later) :
    ∃ rest, readSubAddress source first.sent limit = some (.ok first.payload.bytes, rest) ∧ rest.flatten = later := by
  have declared : first.sent.length = first.payload.len := rfl
  have size := first.payload.toNat_len
  have fits : checkLength first.payload.len limit = none := by simp [checkLength, within]
  simp only [readSubAddress, declared, fits]
  by_cases empty : first.payload.len = 0
  · have none_sent : first.payload.bytes = [] := List.eq_nil_of_length_eq_zero (by rw [← size, empty]; rfl)
    rw [if_pos empty, none_sent]
    exact ⟨source, rfl, by rw [stream, none_sent, List.nil_append]⟩
  · obtain ⟨buf, made, length⟩ := makeBytes_eq (size.trans_lt first.payload.fits)
    have room : 0 < buf.bytes.length := by
      rw [length]
      exact Nat.pos_of_ne_zero fun none => empty (UInt64.toNat_inj.mp none)
    obtain ⟨clean, left⟩ := discardPayload_drains room stream size
    obtain ⟨kept, filled⟩ := discardPayload_fills room stream size (by omega)
    rw [List.take_of_length_le (by omega)] at filled
    rw [if_neg empty, made]
    rw [discardPayload] at clean left filled
    simp only [Option.map_some, clean, filled]
    exact ⟨_, rfl, left⟩

theorem opening_sync (kind : first.header.type = .initializeRequest) (within : first.payload.len ≤ limit)
    (stream : source.flatten = first.wire ++ later) :
    ∃ rest, opening limit source = .sync first.sent (.ok first.payload.bytes) rest ∧ rest.flatten = later := by
  rw [WriteCall.wire, List.append_assoc] at stream
  obtain ⟨afterHeader, header, payloads⟩ := readHeader_wire stream
  obtain ⟨rest, read, left⟩ := readSubAddress_wire within payloads
  have same : first.sent.type = .initializeRequest := kind
  refine ⟨rest, ?_, left⟩
  simp only [opening, header, same, if_true, read]

theorem opening_async (kind : first.header.type = .asyncInitialize) (stream : source.flatten = first.wire ++ later) :
    ∃ rest, opening limit source = .async first.sent rest ∧ rest.flatten = first.payload.bytes ++ later := by
  rw [WriteCall.wire, List.append_assoc] at stream
  obtain ⟨rest, header, left⟩ := readHeader_wire stream
  have same : first.sent.type = .asyncInitialize := kind
  have other : MessageType.asyncInitialize ≠ .initializeRequest := by decide
  refine ⟨rest, ?_, left⟩
  simp only [opening, header, same, if_neg other, if_true]

end Opening

/-- A reader that starts here delivers the messages in their order, one for every buffer
it is given, and then the end; it never loses the framing. -/
structure Delivers (buffers : List (ReadBuffer limit)) (packets : List Packet) (rest : Source) : Prop where
  inOrder : ∀ count, run (buffers.take count) rest =
    (packets.map (delivered limit) ++ [ended]).take (buffers.take count).length
  framed : ∀ message ∈ run buffers rest, message.err ≠ some (.sentinel .invalidPrologue)

/-- The first message is handled by `Serve` and all others are left to the reader. -/
def Parsed (buffers : List (ReadBuffer limit)) (first : Packet) (later : List Packet) : Opening → Prop
  | .sync header subAddress rest =>
    header = first.sent ∧ subAddress = .ok first.payload.bytes ∧ Delivers buffers later rest
  | .async header rest => header = first.sent ∧ Delivers buffers later rest
  | _ => False

theorem delivers_stream (positive : 1 ≤ limit) (buffers : List (ReadBuffer limit)) {rest : Source}
    (stream : rest.flatten = (packets.map (·.wire)).flatten) : Delivers buffers packets rest := by
  refine ⟨fun count => run_stream positive _ packets stream, fun message member => ?_⟩
  rw [run_stream positive buffers packets stream] at member
  rcases List.mem_append.mp (List.mem_of_mem_take member) with one | last
  · obtain ⟨packet, -, rfl⟩ := List.mem_map.mp one
    have marked : (delivered limit packet).err = none ∨ _ := delivered_err packet
    rcases marked with clean | drained
    · rw [clean]
      exact (Option.some_ne_none _).symm
    · rw [drained]
      decide
  · obtain rfl := List.mem_singleton.mp last
    decide

/-- Bytes that belong to no message show by the end of the stream at the latest. -/
theorem not_delivers {rest : Source} {extra : Bytes} (enough : packets.length < buffers.length)
    (stream : rest.flatten = extra ++ (packets.map (·.wire)).flatten) (some_extra : extra ≠ []) :
    ¬ Delivers buffers packets rest := by
  intro delivers
  have whole := delivers.inOrder buffers.length
  rw [List.take_length, List.take_of_length_le (by simp; omega)] at whole
  have consumed := run_consumes buffers packets whole
  rw [stream, List.length_append] at consumed
  have longer := List.length_pos_iff.mpr some_extra
  omega

theorem not_parsed_async {first : Packet} {later : List Packet} {source : Source}
    (kind : first.header.type = .asyncInitialize) (loaded : first.payload.bytes ≠ [])
    (stream : source.flatten = written (first :: later)) (enough : later.length < buffers.length) :
    ¬ Parsed buffers first later (opening limit source) := by
  rw [written_eq, List.map_cons, List.flatten_cons] at stream
  obtain ⟨rest, opened, left⟩ : ∃ rest, opening limit source = .async first.sent rest ∧ _ := opening_async kind stream
  rw [opened]
  exact fun parsed => not_delivers enough left loaded parsed.2

/-- A connection is parsed from its first byte unless it begins with an AsyncInitialize
that carries a payload. -/
theorem connection_parsed_iff (profile : Profile) (source : Source) (first : Packet) (later : List Packet)
    (stream : source.flatten = written (first :: later))
    (opens : first.header.type = .initializeRequest ∧ first.payload.len ≤ profile.maxRxPayload ∨
      first.header.type = .asyncInitialize)
    (buffers : List (ReadBuffer profile.maxRxPayload)) (enough : later.length < buffers.length) :
    Parsed buffers first later (opening profile.maxRxPayload source) ↔
      first.header.type = .initializeRequest ∨ first.payload.bytes = [] := by
  have whole := stream
  rw [written_eq, List.map_cons, List.flatten_cons] at stream
  have positive : 1 ≤ profile.maxRxPayload := UInt64.le_trans (by decide) profile.maxRxPayload_ge
  rcases opens with ⟨kind, within⟩ | kind
  · obtain ⟨rest, opened, left⟩ := opening_sync kind within stream
    rw [opened]
    exact iff_of_true ⟨rfl, rfl, delivers_stream positive buffers left⟩ (.inl kind)
  · by_cases empty : first.payload.bytes = []
    · obtain ⟨rest, opened, left⟩ : ∃ rest, opening profile.maxRxPayload source = .async first.sent rest ∧ _ :=
        opening_async kind stream
      rw [empty, List.nil_append] at left
      rw [opened]
      exact iff_of_true ⟨rfl, delivers_stream positive buffers left⟩ (.inr empty)
    · have other : first.header.type ≠ .initializeRequest := by rw [kind]; decide
      exact iff_of_false (not_parsed_async kind empty whole enough) (not_or.mpr ⟨other, empty⟩)

theorem blank_fits : (List.replicate 8192 (0 : UInt8)).length < 2 ^ 63 := by
  rw [List.length_replicate]
  decide

theorem blank_sized : (⟨List.replicate 8192 0, blank_fits⟩ : Slice).len = Profile.standard.maxRxPayload := by
  rw [Slice.len, List.length_replicate]
  rfl

def blank : ReadBuffer Profile.standard.maxRxPayload := ⟨⟨List.replicate 8192 0, blank_fits⟩, blank_sized⟩

theorem one_fits : ([0] : Bytes).length < 2 ^ 63 := by decide

theorem none_fits : ([] : Bytes).length < 2 ^ 63 := by decide

def loadedOpening : Packet := ⟨⟨{ type := .asyncInitialize, parameter := 1 }, ⟨[0], one_fits⟩⟩, .inl rfl⟩

def statusQueryPacket : Packet := ⟨⟨{ type := .asyncStatusQuery }, ⟨[], none_fits⟩⟩, .inl rfl⟩

def emptyOpening : Packet := ⟨⟨{ type := .asyncInitialize, parameter := 1 }, ⟨[], none_fits⟩⟩, .inl rfl⟩

def subAddressed : Packet :=
  ⟨⟨{ type := .initializeRequest, parameter := 0x01000000 }, ⟨ascii "hislip0", by decide⟩⟩, .inl rfl⟩

def identify : Packet := ⟨⟨{ type := .dataEnd, parameter := 0xffffff00 }, ⟨ascii "*IDN?", by decide⟩⟩, .inl rfl⟩

def triggerPacket : Packet := ⟨⟨{ type := .trigger, parameter := 0xffffff02 }, ⟨[], none_fits⟩⟩, .inl rfl⟩

/-- A synchronous connection with a sub-address and then two messages, and an asynchronous one
with a status query. -/
theorem connections_parsed :
    Parsed [blank, blank, blank] subAddressed [identify, triggerPacket]
        (opening Profile.standard.maxRxPayload [written [subAddressed, identify, triggerPacket]]) ∧
      Parsed [blank, blank] emptyOpening [statusQueryPacket]
        (opening Profile.standard.maxRxPayload [written [emptyOpening, statusQueryPacket]]) := by
  have opens : subAddressed.payload.len ≤ Profile.standard.maxRxPayload := by decide
  exact ⟨(connection_parsed_iff .standard _ _ _ (List.append_nil _) (.inl ⟨rfl, opens⟩) _ (by decide)).mpr (.inl rfl),
    (connection_parsed_iff .standard _ _ _ (List.append_nil _) (.inr rfl) _ (by decide)).mpr (.inr rfl)⟩

def taking : Handler ServerOp ServerOp.Reply (ServerWorld Unit (List ReadResult)) :=
  serverHandler .standard alwaysReadPolicy ⟨scripted, fun _ state => (none, state)⟩

def halfOpen : ServerWorld Unit (List ReadResult) :=
  (exec taking (ServerProgram.initializeRequest .standard
    { type := .initializeRequest, parameter := 0x01000000 } [] 0) ⟨{}, [], []⟩).2

/-- AsyncInitialize with a payload and then AsyncStatusQuery: the session is paired, and its
asynchronous channel ends by an invalid prologue. -/
theorem payload_read_as_header :
    let served := exec taking (ServerProgram.serve .standard [written [loadedOpening, statusQueryPacket]] 1 0
      [blank, blank] []) halfOpen
    served.1 = some (some (.sentinel .invalidPrologue)) ∧ served.2.registry.made.map (·.state) = [.ready] ∧
      ¬ Parsed [blank, blank] loadedOpening [statusQueryPacket]
        (opening Profile.standard.maxRxPayload [written [loadedOpening, statusQueryPacket]]) :=
  ⟨by decide +kernel, by decide +kernel,
    not_parsed_async rfl (List.cons_ne_nil _ _) (List.append_nil _) (by decide)⟩

end Hislip.Proofs.Connections
