import Hislip.Protocol.Constants

/-! The two trackers of Synchronized Mode: RMT-expected, and the status byte with
its service request latch. -/

namespace Hislip.Server

inductive Interrupted where
  | notInterrupted | rmtMismatch | inputQueued
  deriving DecidableEq, Repr

/-- Response message terminator tracking; the zero value expects none. -/
structure RMT where
  expected : Bool := false
  deriving DecidableEq, Repr

inductive RMTOp where
  | sentDataEnd
  | receivedSyncMessage (rmtDelivered : Bool)
  | receivedStatusQuery (rmtDelivered : Bool)
  deriving DecidableEq, Repr

namespace RMTOp

/-- A mismatch clears the expectation too, so that one mistake gives one error. -/
def apply : RMTOp → RMT → Interrupted × RMT
  | .sentDataEnd, _ => (.notInterrupted, ⟨true⟩)
  | .receivedSyncMessage rmtDelivered, rmt =>
    (if rmt.expected != rmtDelivered then .rmtMismatch else .notInterrupted, ⟨false⟩)
  | .receivedStatusQuery rmtDelivered, rmt => (.notInterrupted, if rmtDelivered then ⟨false⟩ else rmt)

end RMTOp

def statusMAV : UInt8 := 16
def statusRQS : UInt8 := 64

structure Status where
  lastReceived : MessageID := 0
  responsePending : Bool := false
  srqLatched : Bool := false
  srqStatus : UInt8 := 0
  started : Bool := false
  deriving DecidableEq, Repr

namespace Status

def reset (_ : Status) : Status := { lastReceived := MessageID.statusQueryInitialMessageID, started := true }

def newStatus : Status := ({} : Status).reset

def receivedSyncMessage (status : Status) (id : MessageID) : Status :=
  { (if status.started then status else status.reset) with lastReceived := id }

/-- `LastReceived`: the session-start value when no status has been started. -/
def lastReceivedID (status : Status) : MessageID :=
  if status.started then status.lastReceived else MessageID.statusQueryInitialMessageID

def latchServiceRequest (status : Status) (byte : UInt8) : Bool × Status :=
  if status.srqLatched then (false, status)
  else (true, { status with srqLatched := true, srqStatus := byte })

def takeServiceRequest (status : Status) : Bool × Status :=
  (status.srqLatched, { status with srqLatched := false, srqStatus := 0 })

def mav (status : Status) (queryID : MessageID) (rmtDelivered : Bool) : Bool :=
  if queryID != status.lastReceivedID then false
  else if rmtDelivered then false
  -- `LastReceived` has reset a tracker that was never started.
  else status.started && status.responsePending

def byte (status : Status) (device : UInt8) (queryID : MessageID) (rmtDelivered : Bool) : UInt8 :=
  if status.mav queryID rmtDelivered then device ||| statusMAV else device &&& ~~~statusMAV

end Status

end Hislip.Server
