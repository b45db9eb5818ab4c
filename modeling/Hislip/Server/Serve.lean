import Hislip.Server.Async
import Hislip.Server.Reader

/-! Dispatch and the two channel loops: what each loop does with one message. -/

namespace Hislip.Server
open Act

inductive Class where
  | noBus | preemptAbandon | preemptResume | boundary | syncOrdered | lifecycle | undefined
  deriving DecidableEq, Repr

def classOf (type : MessageType) : Class :=
  if type = .asyncLock ∨ type = .asyncLockInfo ∨ type = .asyncMaximumMessageSize then .noBus
  else if type = .asyncDeviceClear then .preemptAbandon
  else if type = .asyncStatusQuery then .preemptResume
  else if type = .asyncRemoteLocalControl then .boundary
  else if type = .data ∨ type = .dataEnd ∨ type = .trigger then .syncOrdered
  else if type = .initializeRequest ∨ type = .asyncInitialize ∨ type = .deviceClearComplete ∨
      type = .error ∨ type = .fatalError then .lifecycle
  else if type.vendorSpecific then .syncOrdered
  else .undefined

def accept (header : Header) (channel : Channel) : Act (Except Err Class) := do
  if header.type.reserved then return .error Sentinel.reservedMessageType
  else if ¬ header.type.defined ∧ ¬ header.type.vendorSpecific then return .error Sentinel.unknownMessageType
  else if ¬ header.type.legalOn channel then return .error Sentinel.wrongChannel
  else if (← session .version).less header.type.minVersion then return .error Sentinel.protocolVersion
  else if classOf header.type = .undefined then return .error Sentinel.unknownMessageType
  else
    match checkLength header.length (← session .maxRx) with
    | some err => return .error err
    | none =>
      if classOf header.type = .lifecycle then return .ok (classOf header.type)
      else
        match ← requireReady with
        | some err => return .error err
        | none => return .ok (classOf header.type)

/-- A write through a writer that the loop takes to be installed: without one the
loop panics and goes no further. -/
def writeVia (writer : Option MessageWriter) (header : Header) (payload : Bytes) : Act (Option Err) :=
  match writer with
  | some writer => writer.write header payload
  | none => exhausted

def reportReadError (writer : Option MessageWriter) (err : Err) : Act (Option Err) := do
  if err.is .messageTooLarge then
    count .oversizedMessages
    count .nonFatalErrors
    match writer with
    | some writer => writer.writeError ErrorCode.messageTooLarge (ascii "message too large")
    | none => return none
  else return some err

/-- The common end of `reportAcceptError` and `reportOperationError`: a fatal error
ends the loop, any other is written with `code` and the loop goes on. -/
def reportError (writer : Option MessageWriter) (err : Err) (code : ErrorCode → ErrorCode) : Act (Option Err) := do
  match wireErrorFor err with
  | .fatal fatal =>
    count .fatalErrors
    match writer with
    | some writer =>
      let _ ← writer.writeFatalError fatal err.text
      return some err
    | none => return some err
  | .nonFatal nonFatal =>
    count .nonFatalErrors
    match writer with
    | some writer => writer.writeError (code nonFatal) err.text
    | none => return none

def reportAcceptError (writer : Option MessageWriter) (err : Err) : Act (Option Err) := do
  if err.is .wrongChannel then count .wrongChannel
  reportError writer err id

/-- A failure without a code of its own is reported as a handshake timeout. -/
def reportOperationError (writer : Option MessageWriter) (err : Err) : Act (Option Err) :=
  reportError writer err fun code => if code = ErrorCode.unidentified then ErrorCode.handshakeTimeout else code

def countInterrupted : Interrupted → Act Unit
  | .notInterrupted => return ()
  | .rmtMismatch => count .silentInterrupted
  | .inputQueued => count .interruptedSent

def countOutcome : ResponseOutcome → Act Unit
  | .complete => return ()
  | .absent => count .queriesWithoutAnswer
  | .truncated => count .truncatedResponses
  | .interrupted => count .interruptedSent

def responseScratch (buffer : Nat) (limit : UInt64) : Nat :=
  if limit = 0 ∨ limit.toNat ≥ buffer then buffer else limit.toNat

/-- The program message is complete: answer it when the policy expects that. -/
def answerProgramMessage (config : Config) (header : Header) (writer : Option MessageWriter) (fuel : Nat) :
    Act (Option Err) := do
  if (← session .disposition) ≠ .responseExpected then tx .complete
  else
    let number ← operation
    let async ← session .asyncWriter
    let limit ← session .maxTx
    let inputQueued ← syncPending
    let (outcome, err) ← sendResponse (.operation number)
      { sync := writer
        async
        messageID := header.messageID
        scratch := responseScratch config.maxTxPayload.toNat limit
        inputQueued := some inputQueued } fuel
    countOutcome outcome
    let result ← match err with
      | some err => reportOperationError writer err
      | none => pure none
    releaseOperation number
    return result

def handleData (config : Config) (message : Message) (writer : Option MessageWriter) (fuel : Nat) :
    Act (Option Err) := do
  let (interrupted, err) ← receiveData message.header message.payload
  countInterrupted interrupted
  match err with
  | some err => reportOperationError writer err
  | none =>
    if message.payload.length ≠ 0 then session (.feed message.payload)
    if message.header.type ≠ .dataEnd then return none
    else answerProgramMessage config message.header writer fuel

def handleTrigger (message : Message) (writer : Option MessageWriter) : Act (Option Err) := do
  let (interrupted, err) ← trigger message.header
  countInterrupted interrupted
  match err with
  | some err => reportOperationError writer err
  | none =>
    count .triggers
    return none

def handleDeviceClearComplete (config : Config) (message : Message) (writer : Option MessageWriter) :
    Act (Option Err) := do
  let (ack, clearErr) ← completeDeviceClear config message.header
  match ← writeVia writer ack [] with
  | some err => return some err
  | none =>
    count .deviceClears
    match clearErr with
    | some err => reportOperationError writer err
    | none => return none

/-- `handleSync`: one message of the synchronous channel. `fuel` bounds the reads
of a response; the result is the error that ends the loop. -/
def handleSync (config : Config) (message : Message) (fuel : Nat) : Act (Option Err) := do
  let writer ← session .syncWriter
  match message.err with
  | some err => reportReadError writer err
  | none =>
    if ← discardDuringClear message.header then return none
    else
      match ← accept message.header .synchronous with
      | .error err => reportAcceptError writer err
      | .ok found =>
        if message.header.type = .data ∨ message.header.type = .dataEnd then
          handleData config message writer fuel
        else if message.header.type = .trigger then handleTrigger message writer
        else if message.header.type = .deviceClearComplete then
          handleDeviceClearComplete config message writer
        else if message.header.type = .fatalError then
          count .fatalErrors
          return some Sentinel.clientFatal
        else if message.header.type = .error then
          count .nonFatalErrors
          return none
        else if message.header.type = .initializeRequest then
          let _ ← writeVia writer { type := .fatalError, control := FatalErrorCode.invalidInitSequence }
            (ascii "already initialized")
          return some Sentinel.invalidInitSequence
        else if found = .syncOrdered ∧ message.header.type.vendorSpecific then
          count .nonFatalErrors
          writeVia writer { type := .error, control := ErrorCode.unrecognizedVendorMsg }
            (ascii "vendor extension not enabled")
        else
          count .nonFatalErrors
          writeVia writer { type := .error, control := ErrorCode.unrecognizedMessageType }
            (ascii "unsupported message")

def decodeMaxSize (payload : Bytes) : UInt64 :=
  if payload.length < 8 then 0
  else (payload.take 8).foldl (fun value byte => value <<< 8 ||| byte.toUInt64) 0

def putUint64 (value : UInt64) : Bytes :=
  ([56, 48, 40, 32, 24, 16, 8, 0] : List UInt64).map fun shift => (value >>> shift).toUInt8

/-- Send what an asynchronous operation answered, or report its error. -/
def answerAsync (writer : MessageWriter) (answer : Except Err Header) : Act (Option Err) :=
  match answer with
  | .error err => reportOperationError (some writer) err
  | .ok header => writer.write header []

/-- `handleAsync`: one message of the asynchronous channel. `fuel` bounds the
retries of a lock request. -/
def handleAsync (config : Config) (message : Message) (fuel : Nat) : Act (Option Err) := do
  match ← session .asyncWriter with
  | none => return some Sentinel.sessionNotReady
  | some writer =>
    match message.err with
    | some err => reportReadError (some writer) err
    | none =>
      match ← accept message.header .asynchronous with
      | .error err => reportAcceptError (some writer) err
      | .ok _ =>
        if message.header.type = .asyncDeviceClear then
          answerAsync writer (← beginDeviceClear config)
        else if message.header.type = .asyncStatusQuery then
          let answer ← statusQuery message.header
          count .serialPolls
          answerAsync writer answer
        else if message.header.type = .asyncLock then
          answerAsync writer (← lock message.header message.payload fuel)
        else if message.header.type = .asyncLockInfo then
          answerAsync writer (← lockInfo message.header)
        else if message.header.type = .asyncRemoteLocalControl then
          answerAsync writer (← remoteLocal message.header)
        else if message.header.type = .asyncMaximumMessageSize then
          let (header, agreed) ← maximumMessageSize config (decodeMaxSize message.payload)
          writer.write header (putUint64 agreed)
        else if message.header.type = .asyncInitialize then
          let _ ← writer.write { type := .fatalError, control := FatalErrorCode.invalidInitSequence } []
          return some Sentinel.invalidInitSequence
        else if message.header.type = .fatalError then
          count .fatalErrors
          return some Sentinel.clientFatal
        else if message.header.type = .error then
          count .nonFatalErrors
          return none
        else
          count .nonFatalErrors
          writer.writeError ErrorCode.unrecognizedMessageType (ascii "unsupported message")

end Hislip.Server
