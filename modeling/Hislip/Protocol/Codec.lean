import Hislip.ByteStream
import Hislip.Program
import Hislip.Protocol.Constants

/-! The wire codec: headers, payloads read in chunks through a scratch buffer, and
messages written through a header buffer that the caller owns. -/

namespace Hislip

structure Slice where
  bytes : Bytes
  fits : bytes.length < 2 ^ 63

namespace Slice

def len (slice : Slice) : UInt64 := UInt64.ofNat slice.bytes.length

@[simp] theorem toNat_len (slice : Slice) : slice.len.toNat = slice.bytes.length :=
  UInt64.toNat_ofNat_of_lt' (Nat.lt_trans slice.fits (by decide))

def fill (slice : Slice) (front : Bytes) : Slice where
  bytes := (front ++ slice.bytes.drop front.length).take slice.bytes.length
  fits := Nat.lt_of_le_of_lt (List.length_take_le _ _) slice.fits

@[simp] theorem length_fill (slice : Slice) (front : Bytes) : (slice.fill front).bytes.length = slice.bytes.length := by
  simp only [fill, List.length_take, List.length_append, List.length_drop]
  omega

theorem take_fill (slice : Slice) {front : Bytes} (within : front.length ≤ slice.bytes.length) :
    (slice.fill front).bytes.take front.length = front := by
  simp only [fill, List.take_take, Nat.min_eq_left within, List.take_left']

end Slice

/-- The bytes that are still to arrive, in the pieces successive reads return. -/
abbrev Source : Type := List Bytes

/-- `io.ReadFull`: the bytes put into the buffer, the error and the source left. -/
def readFull (source : Source) (wanted : Nat) : Bytes × Option Err × Source :=
  let (bytes, rest) := collect wanted source
  if wanted ≤ bytes.length then (bytes, none, rest)
  else if bytes = [] then (bytes, some Sentinel.eof, rest)
  else (bytes, some Sentinel.unexpectedEOF, rest)

def headerSize : Nat := 16

def prologue : UInt8 × UInt8 := (0x48, 0x53)

def decodeHeader (bytes : Bytes) : Except Err Header :=
  if bytes.length < headerSize then .error Sentinel.shortBuffer
  else if bytes.getD 0 0 ≠ prologue.1 ∨ bytes.getD 1 0 ≠ prologue.2 then .error Sentinel.invalidPrologue
  else .ok
    { type := ⟨bytes.getD 2 0⟩
      control := bytes.getD 3 0
      parameter := UInt32.ofNat (bigEndianValue ((bytes.drop 4).take 4))
      length := UInt64.ofNat (bigEndianValue ((bytes.drop 8).take 8)) }

def Header.wire (header : Header) : Bytes :=
  [prologue.1, prologue.2, header.type.code, header.control] ++ bigEndian 4 header.parameter.toNat ++
    bigEndian 8 header.length.toNat

variable (header : Header)

@[simp] theorem Header.length_wire : header.wire.length = headerSize := by
  simp [Header.wire, headerSize]

def Header.encode (header : Header) (buf : Bytes) : Except Err Bytes :=
  if buf.length < headerSize then .error Sentinel.shortBuffer
  else .ok (header.wire ++ buf.drop headerSize)

def readHeader (source : Source) : Except Err Header × Source :=
  match readFull source headerSize with
  | (_, some err, rest) => (.error err, rest)
  | (bytes, none, rest) => (decodeHeader bytes, rest)

/-- What `ReadPayload` returned and left behind; `state` is the consumer's. -/
structure PayloadRead (γ : Type) where
  err : Option Err
  state : γ
  scratch : Slice
  source : Source

section ReadPayload
variable {γ : Type}

def chunkSize (remaining : UInt64) (scratch : Slice) : UInt64 := min remaining scratch.len

@[simp] theorem toNat_chunkSize (remaining : UInt64) (scratch : Slice) :
    (chunkSize remaining scratch).toNat = min remaining.toNat scratch.bytes.length := by
  rw [← scratch.toNat_len, Nat.min_def]
  change (if remaining ≤ scratch.len then remaining else scratch.len).toNat = _
  rw [apply_ite UInt64.toNat]
  rfl

theorem toNat_sub_chunkSize (remaining : UInt64) (scratch : Slice) :
    (remaining - chunkSize remaining scratch).toNat = remaining.toNat - min remaining.toNat scratch.bytes.length := by
  rw [UInt64.toNat_sub_of_le, toNat_chunkSize]
  rw [UInt64.le_iff_toNat_le, toNat_chunkSize]
  exact Nat.min_le_left _ _

def nilConsumer : Bytes → γ → Option Err × γ := fun _ state => (none, state)

def readPayloadLoop (consume : Bytes → γ → Option Err × γ) (source : Source) (remaining : UInt64) (scratch : Slice)
    (room : 0 < scratch.bytes.length) (state : γ) : PayloadRead γ :=
  if more : 0 < remaining then
    let chunk := chunkSize remaining scratch
    match readFull source chunk.toNat with
    | (bytes, some err, rest) => ⟨some err, state, scratch.fill bytes, rest⟩
    | (bytes, none, rest) =>
      match consume ((scratch.fill bytes).bytes.take chunk.toNat) state with
      | (some err, state) => ⟨some err, state, scratch.fill bytes, rest⟩
      | (none, state) =>
        readPayloadLoop consume rest (remaining - chunk) (scratch.fill bytes)
          (by rwa [Slice.length_fill]) state
  else ⟨none, state, scratch, source⟩
termination_by remaining.toNat
decreasing_by
  have positive : 0 < remaining.toNat := UInt64.lt_iff_toNat_lt.mp more
  have smaller := toNat_sub_chunkSize remaining scratch
  omega

def readPayload (consume : Bytes → γ → Option Err × γ) (source : Source) (length : UInt64) (scratch : Slice)
    (state : γ) : PayloadRead γ :=
  if room : 0 < scratch.bytes.length then readPayloadLoop consume source length scratch room state
  else ⟨some Sentinel.shortBuffer, state, scratch, source⟩

end ReadPayload

def discardPayload (source : Source) (length : UInt64) (scratch : Slice) : PayloadRead Unit :=
  readPayload nilConsumer source length scratch ()

/-- The steps of a message write: encode into the header buffer, write that
buffer, write the payload. -/
inductive WriterOp where
  | encode (header : Header)
  | writeBuffer
  | write (payload : Bytes)
  deriving DecidableEq, Repr

abbrev WriterOp.Reply (_ : WriterOp) : Type := Option Err

abbrev WriterProgram : Type → Type := Program WriterOp WriterOp.Reply

def writeHeader (header : Header) : WriterProgram (Option Err) := do
  match ← Program.perform (WriterOp.encode header) with
  | some err => return some err
  | none => Program.perform WriterOp.writeBuffer

def writeMessage (header : Header) (payload : Slice) : WriterProgram (Option Err) := do
  if header.length ≠ 0 ∧ header.length ≠ payload.len then return some Sentinel.payloadLength
  else
    match ← writeHeader { header with length := payload.len } with
    | some err => return some err
    | none =>
      if payload.bytes.length = 0 then return none
      else Program.perform (WriterOp.write payload.bytes)

/-- A header buffer and the stream behind it, which accepts every write. -/
structure Output where
  buf : Bytes
  sized : buf.length = headerSize
  out : Bytes

theorem emptyBuffer_sized : (List.replicate headerSize (0 : UInt8)).length = headerSize := List.length_replicate

theorem Header.encode_eq {buf : Bytes} (sized : buf.length = headerSize) : header.encode buf = .ok header.wire := by
  simp [Header.encode, sized, List.drop_of_length_le (Nat.le_of_eq sized)]

def WriterOp.apply : (op : WriterOp) → Output → op.Reply × Output
  | .encode header, output =>
    match found : header.encode output.buf with
    | .error err => (some err, output)
    | .ok buf =>
      (none, { output with
        buf
        sized := by
          rw [header.encode_eq output.sized, Except.ok.injEq] at found
          rw [← found, header.length_wire] })
  | .writeBuffer, output => (none, { output with out := output.out ++ output.buf })
  | .write payload, output => (none, { output with out := output.out ++ payload })

theorem WriterOp.apply_encode (output : Output) :
    (WriterOp.encode header).apply output =
      (none, { output with buf := header.wire, sized := header.length_wire }) := by
  have encoded := header.encode_eq output.sized
  simp only [WriterOp.apply]
  split
  next err found => cases found.symm.trans encoded
  next buf found => cases found.symm.trans encoded; rfl

def WriterOp.handler : Handler WriterOp WriterOp.Reply Output :=
  fun op output => (some (op.apply output).1, (op.apply output).2)

@[simp] theorem WriterOp.handler_encode (output : Output) :
    WriterOp.handler (.encode header) output =
      (some none, { output with buf := header.wire, sized := header.length_wire }) := by
  rw [WriterOp.handler, WriterOp.apply_encode]

@[simp] theorem WriterOp.handler_writeBuffer (output : Output) :
    WriterOp.handler .writeBuffer output = (some none, { output with out := output.out ++ output.buf }) := rfl

@[simp] theorem WriterOp.handler_write (payload : Bytes) (output : Output) :
    WriterOp.handler (.write payload) output = (some none, { output with out := output.out ++ payload }) := rfl

end Hislip
