import Hislip.Protocol.Codec

/-! The reader of one channel: it decodes a header, reads the payload into a buffer
it was handed, and drains what does not fit. -/

namespace Hislip.Server

/-- One message from a reader. A message with an error has been drained already. -/
structure Message where
  header : Header
  payload : Bytes := []
  err : Option Err := none
  deriving DecidableEq, Repr

/-- A payload buffer of a reader with the given limit, with whatever an earlier
message left in it. -/
structure ReadBuffer (limit : UInt64) where
  slice : Slice
  sized : slice.len = limit

namespace ReadBuffer
variable {limit : UInt64}

def cut (buf : ReadBuffer limit) (size : Nat) : Slice where
  bytes := buf.slice.bytes.take size
  fits := Nat.lt_of_le_of_lt (List.length_take_le' _ _) buf.slice.fits

def refill (buf : ReadBuffer limit) (scratch : Slice) : ReadBuffer limit where
  slice := buf.slice.fill scratch.bytes
  sized := by
    rw [Slice.len, Slice.length_fill]
    exact buf.sized

end ReadBuffer

section
variable {limit : UInt64}

/-- `readOne`: the message, its buffer and the source left. A message that is too
large for the buffer is drained through it. -/
def readOne (source : Source) (buf : ReadBuffer limit) : Message × ReadBuffer limit × Source :=
  match readHeader source with
  | (.error err, rest) => ({ header := { type := .initializeRequest }, err := some err }, buf, rest)
  | (.ok header, rest) =>
    if buf.slice.len < header.length then
      let read := discardPayload rest header.length buf.slice
      match read.err with
      | some err => ({ header, err := some err }, buf.refill read.scratch, read.source)
      | none => ({ header, err := some Sentinel.messageTooLarge }, buf.refill read.scratch, read.source)
    else
      let size := header.length.toNat
      let read := discardPayload rest header.length (buf.cut (max size 1))
      let buf := buf.refill read.scratch
      match read.err with
      | some err => ({ header, err := some err }, buf, read.source)
      | none => ({ header, payload := buf.slice.bytes.take size }, buf, read.source)

/-- A malformed header means that synchronisation is lost; an oversized payload
was drained. -/
def recoverable (err : Err) : Bool := err = Sentinel.messageTooLarge

/-- `run`: the messages delivered, given the buffers that `free` yields in turn. It
goes no further when the pool stays empty or the reader is stopped. -/
def run : List (ReadBuffer limit) → Source → List Message
  | [], _ => []
  | buf :: free, source =>
    let (message, _, rest) := readOne source buf
    match message.err with
    | none => message :: run free rest
    | some err => if recoverable err then message :: run free rest else [message]

end

end Hislip.Server
