import Mathlib.Logic.Function.Basic
import Hislip.Server.Reader

/-! The reader of one channel beside its consumer: the channels `free` and `msgs` between
the two, the payload buffers, and the goroutine of `run` at each of its channel
operations. -/

namespace Hislip.Server

def readAheadSlots : Nat := 2

/-- A `message` as it is passed on. Its payload is no copy: it is the first `size` bytes
of the buffer. -/
structure Envelope where
  header : Header
  size : Nat
  buf : Nat
  err : Option Err
  deriving DecidableEq, Repr

/-- Where `run` stands: at the select that takes a buffer, inside `readOne`, at the select
that passes the message on, or at its end, where `msgs` is closed. -/
inductive RunPoint where
  | idle
  | reading (buf : Nat)
  | offering (msg : Envelope)
  | returned
  deriving DecidableEq, Repr

structure Reader (limit : UInt64) where
  stream : Source
  memory : Nat → ReadBuffer limit
  free : List Nat
  msgs : List Envelope := []
  done : Bool := false
  point : RunPoint := .idle

section
variable {limit : UInt64}

def newReader (stream : Source) (made : ReadBuffer limit) : Reader limit where
  stream
  memory := fun _ => made
  free := List.range readAheadSlots

/-- The message as one sees it who looks at the payload now. -/
def Envelope.contents (msg : Envelope) (memory : Nat → ReadBuffer limit) : Message where
  header := msg.header
  payload := (memory msg.buf).slice.bytes.take msg.size
  err := msg.err

namespace Reader

def receiveFree (reader : Reader limit) : Option (Reader limit) :=
  match reader.point, reader.free with
  | .idle, buf :: free => some { reader with free, point := .reading buf }
  | _, _ => none

def receiveDone (reader : Reader limit) : Option (Reader limit) :=
  match reader.done, reader.point with
  | true, .idle | true, .offering _ => some { reader with point := .returned }
  | _, _ => none

def fill (reader : Reader limit) (partly : ReadBuffer limit) : Option (Reader limit) :=
  match reader.point with
  | .reading buf => some { reader with memory := Function.update reader.memory buf partly }
  | _ => none

def returnOne (reader : Reader limit) : Option (Message × Reader limit) :=
  match reader.point with
  | .reading buf =>
    let read := readOne reader.stream (reader.memory buf)
    some (read.1,
      { reader with
        stream := read.2.2
        memory := Function.update reader.memory buf read.2.1
        point := .offering ⟨read.1.header, read.1.payload.length, buf, read.1.err⟩ })
  | _ => none

/-- `run` sends to `msgs`, which holds one message, and returns after an error that is
not recoverable. -/
def sendMsg (reader : Reader limit) : Option (Reader limit) :=
  match reader.point with
  | .offering msg =>
    if reader.msgs.length < 1 then
      some { reader with
        msgs := reader.msgs ++ [msg]
        point := if msg.err.all recoverable then .idle else .returned }
    else none
  | _ => none

def next (reader : Reader limit) : Option (Envelope × Reader limit) :=
  match reader.msgs with
  | msg :: msgs => some (msg, { reader with msgs })
  | [] => none

/-- `release`, and whether the buffer found room in `free`. Without room it is dropped. -/
def release (reader : Reader limit) (buf : Nat) : Bool × Reader limit :=
  if reader.free.length < readAheadSlots then (true, { reader with free := reader.free ++ [buf] }) else (false, reader)

def stop (reader : Reader limit) : Reader limit := { reader with done := true }

end Reader

end

end Hislip.Server
