import Hislip.Server.Operations

/-! The synchronous data path: writing messages, receiving program messages,
streaming responses, and triggers. -/

namespace Hislip.Server
open Act

/-- `MessageWriter.Write`: the type must be legal on the writer's channel, and a
length that disagrees with the payload is refused. -/
def MessageWriter.write (writer : MessageWriter) (header : Header) (payload : Bytes) : Act (Option Err) :=
  if ¬ header.type.legalOn writer.channel then return some Sentinel.wrongChannel
  else if header.length ≠ 0 ∧ header.length ≠ UInt64.ofNat payload.length then
    return some Sentinel.payloadLength
  else environment (.send writer.channel { header with length := UInt64.ofNat payload.length } payload)

theorem MessageWriter.write_eq {writer : MessageWriter} {header : Header} {payload : Bytes}
    (legal : header.type.legalOn writer.channel)
    (agrees : header.length = 0 ∨ header.length = UInt64.ofNat payload.length) :
    writer.write header payload =
      environment (.send writer.channel { header with length := UInt64.ofNat payload.length } payload) := by
  have accepted : ¬ (header.length ≠ 0 ∧ header.length ≠ UInt64.ofNat payload.length) := by
    rintro ⟨declared, differs⟩
    exact agrees.elim declared differs
  simp only [MessageWriter.write, legal, not_true_eq_false, if_false, if_neg accepted]

def MessageWriter.writeError (writer : MessageWriter) (code : ErrorCode) (description : Bytes) : Act (Option Err) :=
  writer.write { type := .error, control := code } description

def MessageWriter.writeFatalError (writer : MessageWriter) (code : FatalErrorCode) (description : Bytes) :
    Act (Option Err) :=
  writer.write { type := .fatalError, control := code } description

def requireReady : Act (Option Err) := do
  match ← session .state with
  | .ready | .clearing => return none
  | .closed => return some Sentinel.invalidSession
  | .pairing => return some Sentinel.sessionNotReady

/-- `Session.Operation`: a context for a bus operation, registered so that a Device
Clear can cancel it. -/
def operation : Act Nat := do
  let number ← Program.perform (Op.shared .withCancel)
  session (.register number)
  return number

/-- The release function `Session.Operation` returns. It empties the slot whoever
is registered there. -/
def releaseOperation (number : Nat) : Act Unit := do
  session .unregister
  Program.perform (Op.shared (.cancel number))

def abortOperation : Act Unit := do
  match ← session .abort with
  | some number => Program.perform (Op.shared (.cancel number))
  | none => return ()

inductive ResponseOutcome where
  | complete | truncated | absent | interrupted
  deriving DecidableEq, Repr

/-- The predicate of the interrupted check: the reader's queue, or constantly
false for a session without a reader. -/
inductive InputQueued where
  | never | reader
  deriving DecidableEq, Repr

def InputQueued.ask : InputQueued → Act Bool
  | .never => return false
  | .reader => environment .pending

def syncPending : Act InputQueued := do
  if ← session .syncPending then return .reader else return .never

structure Response where
  sync : Option MessageWriter
  async : Option MessageWriter
  messageID : MessageID
  scratch : Nat
  inputQueued : Option InputQueued
  deriving DecidableEq, Repr

structure CheckedResponse where
  sync : MessageWriter
  async : MessageWriter
  messageID : MessageID
  scratch : Nat
  inputQueued : InputQueued
  deriving DecidableEq, Repr

def Response.validate (response : Response) : Act (Except Err CheckedResponse) := do
  match response.sync, response.async with
  | some sync, some async =>
    if response.scratch = 0 then return .error Sentinel.shortBuffer
    else if UInt64.ofNat response.scratch > (← session .maxTx) then return .error Sentinel.messageTooLarge
    else
      match response.inputQueued with
      | some inputQueued => return .ok ⟨sync, async, response.messageID, response.scratch, inputQueued⟩
      | none => return .error Sentinel.inputQueuedRequired
  | _, _ => return .error Sentinel.invalidConfig

/-- `ReceiveData`: the RMT check and the MessageID come before the transaction, and
the transaction before the device. -/
def receiveData (header : Header) (payload : Bytes) : Act (Interrupted × Option Err) := do
  let last := header.type = .dataEnd
  if header.type ≠ .data ∧ ¬ last then return (.notInterrupted, some Sentinel.unknownMessageType)
  else
    let interrupted ← session (.rmt (.receivedSyncMessage header.rmtDelivered))
    session (.receivedSyncMessage header.messageID)
    match ← tx (if last then .completeInput header.messageID else .beginInput) with
    | some err => return (interrupted, some err)
    | none => return (interrupted, ← environment (.write .server payload last))

/-- The DataEnd that completes a response. RMT-expected is raised only once it is
on the wire. -/
def terminate (response : CheckedResponse) (final : Bytes) : Act (Option Err) := do
  let header : Header :=
    { type := .dataEnd, parameter := response.messageID, length := UInt64.ofNat final.length }
  match ← response.sync.write header final with
  | some err => return some err
  | none =>
    let _ ← session (.rmt .sentDataEnd)
    session (.setLastTx response.messageID)
    tx .complete

def completeAbsentResponse (response : CheckedResponse) : Act (ResponseOutcome × Option Err) := do
  match ← response.sync.writeError ErrorCode.responseTimeout (ascii "no response from instrument") with
  | some err => return (.absent, some err)
  | none =>
    match ← tx .beginResponse with
    | some err => return (.absent, some err)
    | none => return (.absent, ← terminate response [])

/-- The exit of the response loop when a read fails after bytes were delivered. No
transition stands before the terminator here. -/
def completeTruncatedResponse (response : CheckedResponse) : Act (ResponseOutcome × Option Err) := do
  match ← response.sync.writeError ErrorCode.responseTimeout (ascii "response truncated") with
  | some err => return (.truncated, some err)
  | none => return (.truncated, ← terminate response [])

def sendInterrupted (response : CheckedResponse) : Act (Option Err) := do
  match ← tx .interrupt with
  | some err => return some err
  | none =>
    session (.setResponsePending false)
    match ← response.async.write { type := .asyncInterrupted, parameter := response.messageID } [] with
    | some err => return some err
    | none =>
      match ← response.sync.write { type := .interrupted, parameter := response.messageID } [] with
      | some err => return some err
      | none => tx .complete

/-- The exit of the response loop when the device offers the terminator. -/
def offerTerminator (response : CheckedResponse) (final : Bytes) : Act (ResponseOutcome × Option Err) := do
  if ← response.inputQueued.ask then return (.interrupted, ← sendInterrupted response)
  else
    match ← tx .beginResponse with
    | some err => return (.absent, some err)
    | none => return (.complete, ← terminate response final)

/-- The bytes of one read: an intermediate chunk is sent, a final one is left to
the terminator. Gives the number of bytes sent. -/
def sendChunk (response : CheckedResponse) (result : ReadResult) :
    Act (Except (ResponseOutcome × Err) Nat) := do
  if result.data.length = 0 then return .ok 0
  else
    match ← tx .beginResponse with
    | some err => return .error (.absent, err)
    | none =>
      if ¬ result.last ∨ result.err.isSome then
        let header : Header :=
          { type := .data, parameter := response.messageID, length := UInt64.ofNat result.data.length }
        match ← response.sync.write header result.data with
        | some err => return .error (.truncated, err)
        | none => return .ok result.data.length
      else return .ok 0

/-- The response loop, unrolled at most `fuel` times. `delivered` counts the bytes sent in
64 bits. -/
def responseLoop (ctx : Ctx) (response : CheckedResponse) : Nat → UInt64 → Act (ResponseOutcome × Option Err)
  | 0, _ => exhausted
  | fuel + 1, delivered => do
    let result ← environment (.read ctx response.scratch)
    match ← sendChunk response result with
    | .error (outcome, err) => return (outcome, some err)
    | .ok sent =>
      match result.err with
      | some _ =>
        if delivered + UInt64.ofNat sent = 0 then completeAbsentResponse response
        else completeTruncatedResponse response
      | none =>
        if result.last then offerTerminator response result.data
        else responseLoop ctx response fuel (delivered + UInt64.ofNat sent)

def sendResponse (ctx : Ctx) (response : Response) (fuel : Nat) : Act (ResponseOutcome × Option Err) := do
  match ← response.validate with
  | .error err => return (.absent, some err)
  | .ok response =>
    match ← tx .expectResponse with
    | some err => return (.absent, some err)
    | none =>
      session (.setResponsePending true)
      let result ← responseLoop ctx response fuel 0
      session (.setResponsePending false)
      return result

/-- `Trigger`: an end of message in its own right, answered by nothing. -/
def trigger (header : Header) : Act (Interrupted × Option Err) := do
  if header.type ≠ .trigger then return (.notInterrupted, some Sentinel.unknownMessageType)
  else
    match ← requireReady with
    | some err => return (.notInterrupted, some err)
    | none =>
      let interrupted ← session (.rmt (.receivedSyncMessage header.rmtDelivered))
      session (.receivedSyncMessage header.messageID)
      match ← tx (.completeInput header.messageID) with
      | some err => return (interrupted, some err)
      | none =>
        match ← environment (.trigger .server) with
        | some err => return (interrupted, some err)
        | none => return (interrupted, ← tx .complete)

end Hislip.Server
