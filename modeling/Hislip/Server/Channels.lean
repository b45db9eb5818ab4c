import Hislip.Server.Registry

/-! The two channels of a session, from the first message of a connection to the end of
its loop. Only the synchronous channel takes the session down. -/

namespace Hislip

/-- The field `FatalCode`, which a non-fatal error leaves at zero. -/
def WireError.fatalCode : WireError → FatalErrorCode
  | .fatal code => code
  | .nonFatal _ => FatalErrorCode.unidentified

namespace Server

/-- What a loop finds when it turns to its reader: a message, or the end, be it of the
stream or of the server's context. -/
inductive Turn where
  | message (message : Message)
  | ending (err : Option Err)

namespace ServerProgram

def write (writer : MessageWriter) (header : Header) (payload : Bytes) : ServerProgram (Option Err) :=
  ofLoop 0 (writer.write header payload)

def takeTurn (handle : Message → ServerProgram (Option Err)) : Turn → ServerProgram (Option (Option Err))
  | .ending err => return some err
  | .message message => do
    match ← handle message with
    | none => return none
    | some err => return some (some err)

def syncTurn (config : Config) (session fuel : Nat) : Turn → ServerProgram (Option (Option Err)) :=
  takeTurn fun message => ofLoop session (handleSync config message fuel)

def asyncTurn (config : Config) (session fuel : Nat) : Turn → ServerProgram (Option (Option Err)) :=
  takeTurn fun message => ofLoop session (handleAsync config message fuel)

/-- A loop that takes its turns as they come, and waits for ever after the last of
them. -/
def runLoop (turn : Turn → ServerProgram (Option (Option Err))) : List Turn → ServerProgram (Option Err)
  | [] => ofLoop 0 Act.exhausted
  | next :: rest => do
    match ← turn next with
    | some result => return result
    | none => runLoop turn rest

def runSync (config : Config) (session fuel : Nat) (turns : List Turn) : ServerProgram (Option Err) := do
  let _ ← perform (.session session .maxRx)
  perform (.session session .setSyncPending)
  runLoop (syncTurn config session fuel) turns

def runAsync (config : Config) (session fuel : Nat) (turns : List Turn) : ServerProgram (Option Err) := do
  let _ ← perform (.session session .maxRx)
  runLoop (asyncTurn config session fuel) turns

/-- The end of `serveSyncChannel`: the loop, and the removal that is deferred until it
has returned. -/
def attendSync (config : Config) (session fuel : Nat) (turns : List Turn) : ServerProgram (Option Err) := do
  let result ← runSync config session fuel turns
  let _ ← removeSession session
  return result

/-- The sub-address is what `readSubAddress` made of the payload. -/
def serveSyncChannel (profile : Profile) (header : Header) (subAddress : Except Err Bytes) (stream : Stream)
    (fuel : Nat) (turns : List Turn) : ServerProgram (Option Err) := do
  match subAddress with
  | .error err =>
    let _ ← write ⟨.synchronous⟩ { type := .fatalError, control := FatalErrorCode.poorlyFormedHeader }
      (ascii "bad sub-address")
    let _ ← perform (.closeStream stream)
    return some err
  | .ok subAddress =>
    match ← initializeRequest profile header subAddress stream with
    | .error err =>
      let _ ← write ⟨.synchronous⟩ { type := .fatalError, control := (wireErrorFor err).fatalCode } err.text
      let _ ← perform (.closeStream stream)
      if err.is .maxClients then perform (.count .sessionsRefused)
      perform (.count .fatalErrors)
      return some err
    | .ok (session, response) =>
      match ← write ⟨.synchronous⟩ response [] with
      | some err =>
        let _ ← removeSession session
        return some err
      | none =>
        perform (.count .sessionsOpened)
        perform (.session session (.setSyncWriter ⟨.synchronous⟩))
        attendSync profile.toConfig session fuel turns

/-- A refused connection gets its FatalError through a synchronous writer. When the
response cannot be written, the session stays as it is. -/
def serveAsyncChannel (profile : Profile) (header : Header) (stream : Stream) (fuel : Nat) (turns : List Turn) :
    ServerProgram (Option Err) := do
  match ← asyncInitialize profile header stream with
  | .error err =>
    let _ ← write ⟨.synchronous⟩ { type := .fatalError, control := (wireErrorFor err).fatalCode } err.text
    let _ ← perform (.closeStream stream)
    perform (.count .fatalErrors)
    return some err
  | .ok (session, response) =>
    match ← write ⟨.asynchronous⟩ response [] with
    | some err => return some err
    | none =>
      perform (.session session (.setAsyncWriter ⟨.asynchronous⟩))
      runAsync profile.toConfig session fuel turns

end ServerProgram

/-- `make([]byte, length)`; a length that no slice can have is a panic. -/
def makeBytes (length : UInt64) : Option Slice :=
  if fits : (List.replicate length.toNat (0 : UInt8)).length < 2 ^ 63 then some ⟨_, fits⟩ else none

/-- `readSubAddress`: the payload of Initialize and the source left. -/
def readSubAddress (source : Source) (header : Header) (limit : UInt64) : Option (Except Err Bytes × Source) :=
  match checkLength header.length limit with
  | some err => some (.error err, source)
  | none =>
    if header.length = 0 then some (.ok [], source)
    else
      (makeBytes header.length).map fun buf =>
        let read := readPayload nilConsumer source header.length buf ()
        match read.err with
        | some err => (.error err, read.source)
        | none => (.ok read.scratch.bytes, read.source)

/-- What `Serve` makes of the first message of a connection, with what is left of the
stream. The sub-address is read here; a payload of AsyncInitialize stays where it is. -/
inductive Opening where
  | failed (err : Err)
  | sync (header : Header) (subAddress : Except Err Bytes) (rest : Source)
  | async (header : Header) (rest : Source)
  | refused
  | panics

def opening (limit : UInt64) (source : Source) : Opening :=
  match readHeader source with
  | (.error err, _) => .failed err
  | (.ok header, rest) =>
    if header.type = .initializeRequest then
      match readSubAddress rest header limit with
      | none => .panics
      | some (subAddress, rest) => .sync header subAddress rest
    else if header.type = .asyncInitialize then .async header rest
    else .refused

/-- The messages that the reader of a channel delivers, with the buffers it is given in
turn, and what the loop finds after them. -/
def readerTurns {limit : UInt64} (buffers : List (ReadBuffer limit)) (rest : Source) (closing : List Turn) :
    List Turn :=
  (run buffers rest).map .message ++ closing

/-- `Serve`. The reader's limit is the session's receive limit, which is that of the
profile. -/
def ServerProgram.serve (profile : Profile) (source : Source) (stream : Stream) (fuel : Nat)
    (buffers : List (ReadBuffer profile.maxRxPayload)) (closing : List Turn) : ServerProgram (Option Err) :=
  match opening profile.maxRxPayload source with
  | .failed err => do
    let _ ← perform (.closeStream stream)
    return some err
  | .sync header subAddress rest =>
    serveSyncChannel profile header subAddress stream fuel (readerTurns buffers rest closing)
  | .async header rest => serveAsyncChannel profile header stream fuel (readerTurns buffers rest closing)
  | .refused => do
    let _ ← write ⟨.synchronous⟩ { type := .fatalError, control := FatalErrorCode.invalidInitSequence }
      (ascii "expected Initialize or AsyncInitialize")
    let _ ← perform (.closeStream stream)
    perform (.count .fatalErrors)
    return some Sentinel.invalidInitSequence
  | .panics => ofLoop 0 Act.exhausted

structure Surroundings (δ : Type) where
  environment : Environment δ
  close : Stream → δ → Option Err × δ

structure ServerEvent where
  operation : ServerOp
  reply : operation.Reply

structure ServerWorld (σ δ : Type) where
  registry : Registry σ
  environment : δ
  trace : List ServerEvent := []

variable {σ δ : Type} {surroundings : Surroundings δ} {policy : ResponsePolicy σ} {profile : Profile}

namespace Surroundings

def outside (surroundings : Surroundings δ) (world : ServerWorld σ δ) : Outside
  | .takeAll => some (world.registry.sessions.entries.map (·.2))
  | .closeStream stream => some (surroundings.close stream world.environment).1
  | .environment op => (surroundings.environment op world.environment).1
  | _ => none

def after (surroundings : Surroundings δ) : ServerOp → δ → δ
  | .closeStream stream, state => (surroundings.close stream state).2
  | .environment op, state => (surroundings.environment op state).2
  | _, state => state

end Surroundings

/-- Run the operations of one handler of the server with nothing in between. -/
def serverHandler (profile : Profile) (policy : ResponsePolicy σ) (surroundings : Surroundings δ) :
    Handler ServerOp ServerOp.Reply (ServerWorld σ δ) := fun op world =>
  match op.apply profile policy (surroundings.outside world) world.registry with
  | none => (none, world)
  | some (reply, registry) =>
    (some reply,
      { registry
        environment := surroundings.after op world.environment
        trace := world.trace ++ [⟨op, reply⟩] })

theorem perform_yields {op : ServerOp} {world : ServerWorld σ δ} {reply : op.Reply} {registry : Registry σ}
    (applied : op.apply profile policy (surroundings.outside world) world.registry = some (reply, registry)) :
    Program.Yields (serverHandler profile policy surroundings) (ServerProgram.perform op) world fun answer after =>
      answer = reply ∧ after.registry = registry ∧ after.trace = world.trace ++ [⟨op, reply⟩] := by
  refine ⟨reply, ⟨registry, surroundings.after op world.environment, world.trace ++ [⟨op, reply⟩]⟩, ?_, rfl, rfl, rfl⟩
  refine (Program.exec_perform ..).trans ?_
  unfold serverHandler
  rw [applied]

end Server

end Hislip
