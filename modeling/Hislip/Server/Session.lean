import Hislip.Server.Config
import Hislip.Server.Policy
import Hislip.Server.Status
import Hislip.Server.Transaction
import Hislip.Server.Writer

/-! One session and its methods. Each method is one critical section on the
session, so it is one operation here: concurrent loops interleave operations and
never parts of them. -/

namespace Hislip.Server

inductive State where
  | pairing | ready | clearing | closed
  deriving DecidableEq, Repr

abbrev Stream : Type := Nat

/-- `opCancel` is the number of the registered operation context. No session has
a version below 1.0 or a transmit limit below a header's size. -/
structure Session (σ : Type) where
  id : UInt16
  version : Version
  overlap : Bool := false
  state : State := .pairing
  sync : Option Stream
  async : Option Stream := none
  rmt : RMT := {}
  status : Status := .newStatus
  lastTx : MessageID := MessageID.noMessageID
  maxRx : UInt64
  maxTx : UInt64
  opCancel : Option Nat := none
  tx : Transaction := {}
  syncW : Option MessageWriter := none
  asyncW : Option MessageWriter := none
  pending : Bool := false
  policy : Option σ := none
  current : version.less .version10 = false
  transmits : 16 ≤ maxTx

namespace Session
variable {σ : Type}

/-- `newSession`, with the policy that `allocateSession` installs. -/
def new (profile : Profile) (policy : ResponsePolicy σ) (id : UInt16) (version : Version)
    (current : version.less .version10 = false) (stream : Stream) : Session σ where
  id
  version
  sync := some stream
  maxRx := profile.maxRxPayload
  maxTx := profile.maxTxPayload
  policy := some policy.fresh
  current
  transmits := profile.maxTxPayload_ge

def attachAsync (session : Session σ) (stream : Stream) : Option Err × Session σ :=
  if session.state ≠ .pairing then (some Sentinel.invalidSession, session)
  else if session.async ≠ none then (some Sentinel.invalidSession, session)
  else (none, { session with async := some stream, state := .ready })

/-- A freshly paired session: both channels are attached and both loops have
installed their writers and the reader's predicate. -/
def paired (profile : Profile) (policy : ResponsePolicy σ) (id : UInt16) (version : Version)
    (current : version.less .version10 = false) (sync async : Stream) : Session σ :=
  { ((new profile policy id version current sync).attachAsync async).2 with
    syncW := some ⟨.synchronous⟩
    asyncW := some ⟨.asynchronous⟩
    pending := true }

def beginClear (session : Session σ) : Session σ :=
  if session.state = .ready then { session with state := .clearing } else session

/-- `completeClear` resets the trackers; the policy is not among them. -/
def completeClear (session : Session σ) (overlap : Bool) : Session σ :=
  { session with
    overlap
    rmt := {}
    status := session.status.reset
    lastTx := MessageID.noMessageID
    state := if session.state = .clearing then .ready else session.state }

/-- `close` before it cancels and closes what it found: the streams and the
operation it took out of the session. -/
def close (session : Session σ) : (List Stream × Option Nat) × Session σ :=
  ((session.sync.toList ++ session.async.toList, session.opCancel),
    { session with sync := none, async := none, state := .closed, opCancel := none })

end Session

inductive SessionOp where
  | id | state | version | maxRx | maxTx | syncWriter | asyncWriter | syncPending
  | setSyncWriter (writer : MessageWriter)
  | setAsyncWriter (writer : MessageWriter)
  | setSyncPending
  | setMaxTx (limit : { limit : UInt64 // 256 ≤ limit })
  | setLastTx (id : MessageID)
  | feed (chunk : Bytes)
  | disposition
  | rmt (op : RMTOp)
  | tx (op : TxOp)
  | receivedSyncMessage (id : MessageID)
  | setResponsePending (pending : Bool)
  | statusByte (device : UInt8) (queryID : MessageID) (rmtDelivered : Bool)
  | takeServiceRequest
  | latchServiceRequest (byte : UInt8)
  | attachAsync (stream : Stream)
  | beginClear
  | completeClear (overlap : Bool)
  | register (operation : Nat)
  | unregister
  | abort
  | close
  deriving DecidableEq, Repr

namespace SessionOp

abbrev Reply : SessionOp → Type
  | .id => UInt16
  | .state => State
  | .version => Version
  | .maxRx | .maxTx => UInt64
  | .syncWriter | .asyncWriter => Option MessageWriter
  | .syncPending | .takeServiceRequest | .latchServiceRequest _ => Bool
  | .disposition => Disposition
  | .rmt _ => Interrupted
  | .tx _ | .attachAsync _ => Option Err
  | .statusByte _ _ _ => UInt8
  | .abort => Option Nat
  | .close => List Stream × Option Nat
  | .setSyncWriter _ | .setAsyncWriter _ | .setSyncPending | .setMaxTx _ | .setLastTx _ | .feed _
  | .receivedSyncMessage _ | .setResponsePending _ | .beginClear | .completeClear _ | .register _
  | .unregister => Unit

variable {σ : Type}

def apply (policy : ResponsePolicy σ) : (op : SessionOp) → Session σ → op.Reply × Session σ
  | .id, session => (session.id, session)
  | .state, session => (session.state, session)
  | .version, session => (session.version, session)
  | .maxRx, session => (session.maxRx, session)
  | .maxTx, session => (session.maxTx, session)
  | .syncWriter, session => (session.syncW, session)
  | .asyncWriter, session => (session.asyncW, session)
  | .syncPending, session => (session.pending, session)
  | .setSyncWriter writer, session => ((), { session with syncW := some writer })
  | .setAsyncWriter writer, session => ((), { session with asyncW := some writer })
  | .setSyncPending, session => ((), { session with pending := true })
  | .setMaxTx limit, session =>
    ((), { session with maxTx := limit.1, transmits := UInt64.le_trans (by decide) limit.2 })
  | .setLastTx last, session => ((), { session with lastTx := last })
  | .feed chunk, session => ((), { session with policy := session.policy.map (policy.feed · chunk) })
  | .disposition, session =>
    match session.policy with
    | none => (.noResponseExpected, session)
    | some scanned => (policy.disposition scanned, { session with policy := some (policy.reset scanned) })
  | .rmt op, session => ((op.apply session.rmt).1, { session with rmt := (op.apply session.rmt).2 })
  | .tx op, session => ((op.apply session.tx).1, { session with tx := (op.apply session.tx).2 })
  | .receivedSyncMessage received, session =>
    ((), { session with status := session.status.receivedSyncMessage received })
  | .setResponsePending pending, session =>
    ((), { session with status := { session.status with responsePending := pending } })
  | .statusByte device queryID rmtDelivered, session =>
    (session.status.byte device queryID rmtDelivered, session)
  | .takeServiceRequest, session =>
    (session.status.takeServiceRequest.1, { session with status := session.status.takeServiceRequest.2 })
  | .latchServiceRequest byte, session =>
    ((session.status.latchServiceRequest byte).1,
      { session with status := (session.status.latchServiceRequest byte).2 })
  | .attachAsync stream, session => session.attachAsync stream
  | .beginClear, session => ((), session.beginClear)
  | .completeClear overlap, session => ((), session.completeClear overlap)
  | .register operation, session => ((), { session with opCancel := some operation })
  | .unregister, session => ((), { session with opCancel := none })
  | .abort, session => (session.opCancel, { session with opCancel := none })
  | .close, session => session.close

/-- What no operation changes, or only its setter. -/
structure Keeps (op : SessionOp) (session later : Session σ) : Prop where
  id : later.id = session.id
  maxRx : later.maxRx = session.maxRx
  maxTx : (∀ limit, op ≠ .setMaxTx limit) → later.maxTx = session.maxTx
  syncW : later.syncW = session.syncW ∨ ∃ writer, op = .setSyncWriter writer ∧ later.syncW = some writer
  asyncW : later.asyncW = session.asyncW ∨ ∃ writer, op = .setAsyncWriter writer ∧ later.asyncW = some writer

theorem apply_keeps (policy : ResponsePolicy σ) (op : SessionOp) (session : Session σ) :
    Keeps op session (op.apply policy session).2 := by
  cases op with
  | setSyncWriter writer => exact ⟨rfl, rfl, fun _ => rfl, .inr ⟨writer, rfl, rfl⟩, .inl rfl⟩
  | setAsyncWriter writer => exact ⟨rfl, rfl, fun _ => rfl, .inl rfl, .inr ⟨writer, rfl, rfl⟩⟩
  | setMaxTx limit => exact ⟨rfl, rfl, fun other => absurd rfl (other limit), .inl rfl, .inl rfl⟩
  | beginClear =>
    simp only [apply, Session.beginClear]
    split <;> exact ⟨rfl, rfl, fun _ => rfl, .inl rfl, .inl rfl⟩
  | disposition =>
    simp only [apply]
    split <;> exact ⟨rfl, rfl, fun _ => rfl, .inl rfl, .inl rfl⟩
  | attachAsync stream =>
    simp only [apply, Session.attachAsync]
    repeat' split
    all_goals exact ⟨rfl, rfl, fun _ => rfl, .inl rfl, .inl rfl⟩
  | _ => exact ⟨rfl, rfl, fun _ => rfl, .inl rfl, .inl rfl⟩

theorem Keeps.writers {op : SessionOp} {session later : Session σ} (keeps : Keeps op session later) :
    (session.syncW ≠ none → later.syncW ≠ none) ∧ (session.asyncW ≠ none → later.asyncW ≠ none) := by
  constructor
  · obtain same | ⟨writer, -, now⟩ := keeps.syncW
    · exact fun had => same ▸ had
    · exact fun _ => now ▸ Option.some_ne_none writer
  · obtain same | ⟨writer, -, now⟩ := keeps.asyncW
    · exact fun had => same ▸ had
    · exact fun _ => now ▸ Option.some_ne_none writer

end SessionOp

end Hislip.Server
