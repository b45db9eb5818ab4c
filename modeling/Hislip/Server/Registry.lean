import Hislip.Protocol.Version
import Hislip.Server.Serve

/-! The server's registry of sessions: allocation, initialization of the two
channels, and teardown. Sessions are numbered in the order they are made, and a
handler holds the number of its session for as long as it runs. -/

namespace Hislip

namespace Server

abbrev SessionVersion : Type := { version : Version // version.less .version10 = false }

/-- The sessions of the server: `sessions` has the registered ones by identifier,
`made` every one ever made, whether or not it is still registered. -/
structure Registry (σ : Type) where
  sessions : AList (fun _ : UInt16 => Nat) := ∅
  nextID : UInt16 := 1
  made : List (Session σ) := []
  locks : LockManager := {}
  contexts : Nat := 0
  cancelled : List Nat := []
  counters : Counter → Nat := fun _ => 0

/-- The critical sections of the server and of its sessions, and calls to the
outside. `releaseAll` reads the session's identifier, which never changes. -/
inductive ServerOp where
  | allocateSession (version : SessionVersion) (stream : Stream)
  | lookup (id : UInt16)
  | unregister (session : Nat)
  | takeAll
  | releaseAll (session : Nat)
  | session (session : Nat) (op : SessionOp)
  | locks (op : LockOp)
  | withCancel
  | cancel (operation : Nat)
  | count (counter : Counter)
  | closeStream (stream : Stream)
  | environment (op : EnvironmentOp)

namespace ServerOp

abbrev Reply : ServerOp → Type
  | .allocateSession _ _ => Except Err (Nat × UInt16)
  | .lookup _ => Option Nat
  | .takeAll => List Nat
  | .session _ op => op.Reply
  | .locks op => op.Reply
  | .withCancel => Nat
  | .closeStream _ => Option Err
  | .environment op => op.Reply
  | .unregister _ | .releaseAll _ | .cancel _ | .count _ => Unit

/-- An operation of a loop is one on the session that the loop serves. -/
def ofLoop (session : Nat) : Op → ServerOp
  | .shared (.session op) => .session session op
  | .shared (.locks op) => .locks op
  | .shared .withCancel => .withCancel
  | .shared (.cancel operation) => .cancel operation
  | .shared (.count counter) => .count counter
  | .environment op => .environment op

def loopReply (session : Nat) : (op : Op) → (ofLoop session op).Reply → op.Reply
  | .shared (.session _), reply => reply
  | .shared (.locks _), reply => reply
  | .shared .withCancel, reply => reply
  | .shared (.cancel _), reply => reply
  | .shared (.count _), reply => reply
  | .environment _, reply => reply

end ServerOp

namespace Registry
variable {σ : Type}

/-- `allocateIDLocked`, with `tries` identifiers left to look at. -/
def allocateID (sessions : AList (fun _ : UInt16 => Nat)) (nextID : UInt16) : Nat → Option UInt16 × UInt16
  | 0 => (none, nextID)
  | tries + 1 =>
    let next := if nextID + 1 = 0 then 1 else nextID + 1
    if (sessions.lookup nextID).isNone ∧ nextID ≠ 0 then (some nextID, next)
    else allocateID sessions next tries

def allocateSession (profile : Profile) (policy : ResponsePolicy σ) (registry : Registry σ) (version : SessionVersion)
    (stream : Stream) : Except Err (Nat × UInt16) × Registry σ :=
  if profile.maxSessions ≤ registry.sessions.entries.length then (.error Sentinel.maxClients, registry)
  else
    match allocateID registry.sessions registry.nextID 65536 with
    | (none, nextID) => (.error Sentinel.maxClients, { registry with nextID })
    | (some id, nextID) =>
      (.ok (registry.made.length, id),
        { registry with
          nextID
          sessions := registry.sessions.insert id registry.made.length
          made := registry.made ++ [.new profile policy id version.1 version.2 stream] })

end Registry

/-- What the outside replies to each operation, if it replies at all. -/
abbrev Outside : Type := (op : ServerOp) → Option op.Reply

/-- One operation of a handler. An operation on a session that was never made is
a dereference of a nil pointer, a wait ends by a change only when its channel is
closed, and the outside chooses in which order a map is walked. -/
def ServerOp.apply {σ : Type} (profile : Profile) (policy : ResponsePolicy σ) (outside : Outside) :
    (op : ServerOp) → Registry σ → Option (op.Reply × Registry σ)
  | .allocateSession version stream, registry => some (registry.allocateSession profile policy version stream)
  | .lookup id, registry => some (registry.sessions.lookup id, registry)
  | .unregister number, registry =>
    registry.made[number]?.map fun found => ((), { registry with sessions := registry.sessions.erase found.id })
  | .takeAll, registry =>
    (outside .takeAll).bind fun all =>
      if all.Perm (registry.sessions.entries.map (·.2)) then some (all, { registry with sessions := ∅ }) else none
  | .releaseAll number, registry =>
    registry.made[number]?.map fun found => ((), { registry with locks := registry.locks.releaseAll found.id })
  | .session number op, registry =>
    registry.made[number]?.map fun found =>
      ((op.apply policy found).1, { registry with made := registry.made.set number (op.apply policy found).2 })
  | .locks op, registry => some ((op.apply registry.locks).1, { registry with locks := (op.apply registry.locks).2 })
  | .withCancel, registry => some (registry.contexts, { registry with contexts := registry.contexts + 1 })
  | .cancel operation, registry => some ((), { registry with cancelled := operation :: registry.cancelled })
  | .count counter, registry =>
    some ((), { registry with
      counters := Function.update registry.counters counter (registry.counters counter + 1) })
  | .closeStream stream, registry => (outside (.closeStream stream)).map fun reply => (reply, registry)
  | .environment (.select channel), registry =>
    if outside (.environment (.select channel)) = some .changed ∧ channel ∉ registry.locks.closed then none
    else (outside (.environment (.select channel))).map fun reply => (reply, registry)
  | .environment op, registry => (outside (.environment op)).map fun reply => (reply, registry)

abbrev ServerProgram : Type → Type := Program ServerOp ServerOp.Reply

namespace ServerProgram

def perform (op : ServerOp) : ServerProgram op.Reply := Program.perform op

/-- What a loop does, done on the server for the session that the loop serves. -/
def ofLoop {α : Type} (session : Nat) (program : Act α) : ServerProgram α :=
  program.translate (ServerOp.ofLoop session) (ServerOp.loopReply session)

def initializeRequest (profile : Profile) (header : Header) (subAddress : Bytes) (stream : Stream) :
    ServerProgram (Except Err (Nat × Header)) := do
  if header.type ≠ .initializeRequest then return .error Sentinel.invalidInitSequence
  else if ¬ header.type.legalOn .synchronous then return .error Sentinel.wrongChannel
  else if ¬ profile.acceptsSubAddress subAddress then return .error Sentinel.invalidSubAddress
  else if current : (Version.fromParameter header.parameter).less .version10 = false then
    let negotiated := (Version.fromParameter header.parameter).negotiate profile.maxVersion
    match ← perform (.allocateSession ⟨negotiated, Version.negotiate_current current profile.maxVersion_ge⟩ stream) with
    | .error err => return .error err
    | .ok (session, id) =>
      return .ok (session,
        { type := .initializeResponse
          control := profile.preferOverlapBit
          parameter := negotiated.upperWord ||| id.toUInt32 })
  else return .error Sentinel.protocolVersion

/-- `AsyncInitialize`: the session is named by the parameter, and the response
carries the vendor ID instead. -/
def asyncInitialize (profile : Profile) (header : Header) (stream : Stream) :
    ServerProgram (Except Err (Nat × Header)) := do
  if header.type ≠ .asyncInitialize then return .error Sentinel.invalidInitSequence
  else if ¬ header.type.legalOn .asynchronous then return .error Sentinel.wrongChannel
  else
    match ← perform (.lookup header.parameter.toUInt16) with
    | none => return .error Sentinel.invalidSession
    | some session =>
      match ← perform (.session session (.attachAsync stream)) with
      | some err => return .error err
      | none =>
        return .ok (session,
          { type := .asyncInitializeResponse
            parameter := profile.vendorID.1.toUInt32 <<< 8 ||| profile.vendorID.2.toUInt32 })

def closeStreams : List Stream → Option Err → ServerProgram (Option Err)
  | [], first => return first
  | stream :: rest, first => do
    let err ← perform (.closeStream stream)
    closeStreams rest (first <|> err)

def close (session : Nat) : ServerProgram (Option Err) := do
  let (streams, operation) ← perform (.session session .close)
  match operation with
  | some operation =>
    perform (.cancel operation)
    closeStreams streams none
  | none => closeStreams streams none

def removeSession (session : Nat) : ServerProgram (Option Err) := do
  perform (.releaseAll session)
  perform (.unregister session)
  close session

def closeEach : List Nat → Option Err → ServerProgram (Option Err)
  | [], first => return first
  | session :: rest, first => do
    perform (.releaseAll session)
    let err ← close session
    closeEach rest (first <|> err)

def closeAll : ServerProgram (Option Err) := do
  let all ← perform .takeAll
  closeEach all none

end ServerProgram

def Registry.view {σ : Type} (registry : Registry σ) (session : Nat) : Option (Shared σ) :=
  registry.made[session]?.map fun found =>
    { session := found
      locks := registry.locks
      contexts := registry.contexts
      cancelled := registry.cancelled
      counters := registry.counters }

theorem apply_ofLoop {σ : Type} (profile : Profile) (policy : ResponsePolicy σ) (outside : Outside) (op : SharedOp)
    {registry : Registry σ} {session : Nat} {shared : Shared σ} (sees : registry.view session = some shared) :
    ∃ reply after, (ServerOp.ofLoop session (.shared op)).apply profile policy outside registry = some (reply, after) ∧
      ServerOp.loopReply session (.shared op) reply = (op.apply policy shared).1 ∧
      after.view session = some (op.apply policy shared).2 := by
  obtain ⟨found, held, rfl⟩ := Option.map_eq_some_iff.mp sees
  have bound : session < registry.made.length := (List.getElem?_eq_some_iff.mp held).1
  cases op with
  | session op =>
    refine ⟨(op.apply policy found).1,
      { registry with made := registry.made.set session (op.apply policy found).2 }, ?_, rfl, ?_⟩
    · simp only [ServerOp.ofLoop, ServerOp.apply, held, Option.map_some]
    · simp [Registry.view, bound, SharedOp.apply]
  | locks op => exact ⟨_, _, rfl, rfl, by simp only [Registry.view, held, Option.map_some]; rfl⟩
  | withCancel => exact ⟨_, _, rfl, rfl, by simp only [Registry.view, held, Option.map_some]; rfl⟩
  | cancel operation => exact ⟨_, _, rfl, rfl, by simp only [Registry.view, held, Option.map_some]; rfl⟩
  | count counter => exact ⟨_, _, rfl, rfl, by simp only [Registry.view, held, Option.map_some]; rfl⟩

section Effects
variable {σ : Type} {profile : Profile} {policy : ResponsePolicy σ} {outside : Outside}

theorem environment_unchanged {op : EnvironmentOp} {before after : Registry σ} {reply : op.Reply}
    (applied : (ServerOp.environment op).apply profile policy outside before = some (reply, after)) :
    after = before := by
  have unchanged : ∀ answer : Option op.Reply, answer.map (fun reply => (reply, before)) = some (reply, after) →
      after = before := by
    rintro (_ | answer) same
    · cases same
    · exact (congrArg Prod.snd (Option.some_inj.mp same)).symm
  cases op with
  | select channel =>
    simp only [ServerOp.apply] at applied
    split at applied
    · cases applied
    · exact unchanged _ applied
  | _ => exact unchanged _ applied

theorem apply_cases {op : ServerOp} {reply : op.Reply} {before after : Registry σ}
    (applied : op.apply profile policy outside before = some (reply, after)) :
    (after.made = before.made ∧
        ∀ id number, after.sessions.lookup id = some number → before.sessions.lookup id = some number) ∨
      (∃ number inner found, op = .session number inner ∧ before.made[number]? = some found ∧
        after.made = before.made.set number (inner.apply policy found).2 ∧ after.sessions = before.sessions) ∨
      ∃ version stream id, op = .allocateSession version stream ∧
        after.made = before.made ++ [.new profile policy id version.1 version.2 stream] ∧
        after.sessions = before.sessions.insert id before.made.length := by
  cases op with
  | allocateSession version stream =>
    obtain rfl := congrArg Prod.snd (Option.some_inj.mp applied)
    unfold Registry.allocateSession
    split
    next => exact .inl ⟨rfl, fun _ _ found => found⟩
    next =>
      split
      next => exact .inl ⟨rfl, fun _ _ found => found⟩
      next id _ _ => exact .inr (.inr ⟨version, stream, id, rfl, rfl, rfl⟩)
  | session number inner =>
    obtain ⟨found, standing, same⟩ := Option.map_eq_some_iff.mp applied
    cases same
    exact .inr (.inl ⟨number, inner, found, rfl, standing, rfl, rfl⟩)
  | takeAll =>
    obtain ⟨all, -, same⟩ := Option.bind_eq_some_iff.mp applied
    split at same
    next =>
      cases same
      exact .inl ⟨rfl, fun id _ found => by rw [AList.lookup_empty] at found; cases found⟩
    next => cases same
  | environment op =>
    obtain rfl := environment_unchanged applied
    exact .inl ⟨rfl, fun _ _ found => found⟩
  | unregister number =>
    obtain ⟨found, -, same⟩ := Option.map_eq_some_iff.mp applied
    cases same
    refine .inl ⟨rfl, fun id number present => ?_⟩
    by_cases gone : id = found.id
    · rw [gone, AList.lookup_erase] at present
      cases present
    · exact (AList.lookup_erase_ne gone).symm.trans present
  | releaseAll number | closeStream stream =>
    obtain ⟨_, -, same⟩ := Option.map_eq_some_iff.mp applied
    cases same
    exact .inl ⟨rfl, fun _ _ found => found⟩
  | _ => cases applied; exact .inl ⟨rfl, fun _ _ found => found⟩

end Effects

end Server

end Hislip
