import Hislip.Threads
import Hislip.Proofs.Teardown
import Hislip.Proofs.LockLifetime

/-! Any number of clients that initialize their sessions at the same time. Each knows
its session only by the identifier in the response it got, and identifiers are given
away again once a session is gone. -/

namespace Hislip.Proofs.Handshake
open Hislip.Server Hislip.Threads Transition Program Footprint Teardown LockLifetime

structure Client where
  version : Version
  vendorID : UInt8 × UInt8
  subAddress : Bytes
  sync : Stream
  async : Stream

/-- How a handshake ended. The client does not see the number of its session. -/
inductive Outcome where
  | rejected (err : Err)
  | unpaired (session : Nat) (err : Err)
  | paired (session : Nat) (version : Version)
  | served

def handshake (profile : Profile) (client : Client) : ServerProgram Outcome := do
  let request : Header :=
    { type := .initializeRequest
      parameter := encodeInitializeParameter client.version client.vendorID
      length := UInt64.ofNat client.subAddress.length }
  match ← ServerProgram.initializeRequest profile request client.subAddress client.sync with
  | .error err => return .rejected err
  | .ok (own, response) =>
    let (version, id) := decodeInitializeResponseParameter response.parameter
    match ← ServerProgram.asyncInitialize profile { type := .asyncInitialize, parameter := id.toUInt32 } client.async with
    | .error err => return .unpaired own err
    | .ok (session, _) => return .paired session version

/-- What the server does meanwhile, for these clients and of its own. -/
inductive Work where
  | handshake (client : Client)
  | handleSync (session : Nat) (message : Message) (fuel : Nat)
  | handleAsync (session : Nat) (message : Message) (fuel : Nat)
  | removeSession (session : Nat)
  | closeAll

def Work.program (profile : Profile) : Work → ServerProgram Outcome
  | .handshake client => Handshake.handshake profile client
  | .handleSync session message fuel =>
    ServerProgram.ofLoop session (Server.handleSync profile.toConfig message fuel) >>= fun _ => return .served
  | .handleAsync session message fuel =>
    ServerProgram.ofLoop session (Server.handleAsync profile.toConfig message fuel) >>= fun _ => return .served
  | .removeSession session => ServerProgram.removeSession session >>= fun _ => return .served
  | .closeAll => ServerProgram.closeAll >>= fun _ => return .served

variable {σ : Type}

abbrev Clients (σ : Type) : Type := Pool Work (Registry σ) ServerOp.Reply Outcome

def Clients.step (profile : Profile) (policy : ResponsePolicy σ) : Clients σ → Move Work Outside → Option (Clients σ) :=
  Pool.step (fun op outside registry => op.apply profile policy outside registry) (Work.program profile)

def Work.client : Work → Option Client
  | .handshake client => some client
  | _ => none

def seeking : Work × ServerProgram Outcome → Option Client
  | (work, .request (.lookup _) _) => work.client
  | _ => none

def Registered (registry : Registry σ) (stream : Stream) : Prop :=
  ∃ entry ∈ registry.sessions.entries, registry.made[entry.2]?.bind (·.sync) = some stream

/-- A client comes with a connection of its own, and the server looks its session up
while that is still registered. -/
def InTime (clients : Clients σ) : Move Work Outside → Prop
  | .start work => ∀ client ∈ work.client,
      (∀ thread ∈ clients.threads, ∀ other ∈ thread.1.client, other.sync ≠ client.sync) ∧
        ∀ session ∈ clients.shared.made, session.sync ≠ some client.sync
  | .advance thread _ =>
    ∀ running ∈ clients.threads[thread]?, ∀ client ∈ seeking running, Registered clients.shared client.sync

instance (registry : Registry σ) (stream : Stream) : Decidable (Registered registry stream) :=
  inferInstanceAs (Decidable (∃ entry ∈ _, _))

instance (clients : Clients σ) : (move : Move Work Outside) → Decidable (InTime clients move)
  | .start _ => inferInstanceAs (Decidable (∀ client ∈ _, _))
  | .advance _ _ => inferInstanceAs (Decidable (∀ running ∈ _, _))

/-- What a finished handshake has come to. A closed session has no streams any more. -/
def Agrees (profile : Profile) (registry : Registry σ) (client : Client) : Outcome → Prop
  | .rejected _ | .served => True
  | .unpaired number _ => ∃ session, registry.made[number]? = some session ∧ session.state = .closed
  | .paired number version => ∃ session, registry.made[number]? = some session ∧
      (session.state = .closed ∨ session.sync = some client.sync ∧ session.async = some client.async) ∧
      version = session.version ∧ session.version.rank = min client.version.rank profile.maxVersion.rank ∧
      Version.version10.rank ≤ session.version.rank

def Agreement (profile : Profile) (clients : Clients σ) : Prop :=
  ∀ client outcome, (Work.handshake client, Program.pure outcome) ∈ clients.threads →
    Agrees profile clients.shared client outcome

section Stages

/-- How far a handler has come: it serves the sessions there are, or it makes one. -/
inductive Stage where
  | serving
  | starting (client : Client)
  | waiting (client : Client) (own : Nat) (id : UInt16)
  | joining (client : Client) (own : Nat)
  | joined (client : Client) (own : Nat)
  | lost (client : Client) (own : Nat)
  | ended

def agreed (profile : Profile) (client : Client) : Version := client.version.negotiate profile.maxVersion

/-- The look-up finds the client's own session: this is for the run to provide. -/
def stages (profile : Profile) : Discipline ServerOp ServerOp.Reply Stage where
  allowed
    | .serving, op => opens op = false
    | .starting client, op => ∃ version, op = .allocateSession version client.sync ∧ version.1 = agreed profile client
    | .waiting _ _ id, op => op = .lookup id
    | .joining client own, op => op = .session own (.attachAsync client.async)
    | _, _ => False
  possible
    | .waiting _ own _, .lookup _, reply => reply = some own
    | _, _, _ => True
  advance
    | .serving, _, _ => .serving
    | .starting client, .allocateSession _ _, .ok (own, id) => .waiting client own id
    | .waiting client own _, .lookup _, some _ => .joining client own
    | .joining client own, .session _ (.attachAsync _), none => .joined client own
    | .joining client own, .session _ (.attachAsync _), some _ => .lost client own
    | _, _, _ => .ended

def Ends (profile : Profile) : Outcome → Stage → Prop
  | .unpaired number _, stage => ∃ client, stage = .lost client number
  | .paired number version, stage => ∃ client, stage = .joined client number ∧ version = agreed profile client
  | _, _ => True

theorem serving_follows {profile : Profile} {α : Type} {program : ServerProgram α} (avoids : Avoids opens program) :
    Follows (stages profile) (Ends profile) (program >>= fun _ => Pure.pure .served) .serving := by
  induction program with
  | pure value => trivial
  | request op next ih => exact ⟨avoids.1, fun reply _ => ih reply (avoids.2 reply trivial)⟩

def Joins (client : Client) (own : Nat) : Except Err (Nat × Header) → Stage → Prop
  | .error _, stage => stage = .lost client own
  | .ok (session, _), stage => session = own ∧ stage = .joined client own

variable (profile : Profile) (client : Client)

theorem asyncInitialize_follows (own : Nat) (id : UInt16) :
    Follows (stages profile) (Joins client own)
      (ServerProgram.asyncInitialize profile { type := .asyncInitialize, parameter := id.toUInt32 } client.async)
      (.waiting client own id) := by
  refine ⟨congrArg ServerOp.lookup (by simp), fun reply found => ?_⟩
  obtain rfl : reply = some own := found
  exact ⟨rfl, fun
    | none => fun _ => ⟨rfl, rfl⟩
    | some _ => fun _ => rfl⟩

def Opens (profile : Profile) (client : Client) : Except Err (Nat × Header) → Stage → Prop
  | .error _, _ => True
  | .ok (own, response), stage => ∃ id, stage = .waiting client own id ∧
      decodeInitializeResponseParameter response.parameter = (agreed profile client, id)

theorem initializeRequest_follows (length : UInt64) :
    Follows (stages profile) (Opens profile client)
      (ServerProgram.initializeRequest profile
        { type := .initializeRequest, parameter := encodeInitializeParameter client.version client.vendorID, length }
        client.subAddress client.sync)
      (.starting client) := by
  have decoded : Version.fromParameter (encodeInitializeParameter client.version client.vendorID) = client.version :=
    congrArg Prod.fst (decodeInitializeParameter_encode client.version client.vendorID)
  unfold ServerProgram.initializeRequest
  simp only
  rw [if_neg (by decide), if_neg (by decide)]
  split
  next => trivial
  next =>
    split
    next current =>
      refine ⟨⟨_, rfl, congrArg (Version.negotiate · profile.maxVersion) decoded⟩, fun
        | .error _ => fun _ => trivial
        | .ok (own, id) => fun _ => ⟨id, rfl, ?_⟩⟩
      simp only [decoded]
      exact decodeInitializeResponseParameter_encode _ id
    next => trivial

theorem handshake_follows : Follows (stages profile) (Ends profile) (handshake profile client) (.starting client) := by
  refine Follows.bind (initializeRequest_follows profile client _) fun result stage reached => ?_
  cases result with
  | error err => trivial
  | ok result =>
    obtain ⟨id, rfl, decoded⟩ := reached
    simp only [decoded]
    refine Follows.bind (asyncInitialize_follows profile client result.1 id) fun answer stage reached => ?_
    cases answer with
    | error err => exact ⟨client, reached⟩
    | ok answer => exact ⟨client, reached.1 ▸ reached.2, rfl⟩

def Work.stage : Work → Stage
  | .handshake client => .starting client
  | _ => .serving

theorem work_follows (work : Work) : Follows (stages profile) (Ends profile) (work.program profile) work.stage := by
  cases work with
  | handshake client => exact handshake_follows profile client
  | handleSync session message fuel => exact serving_follows (ofLoop_opens session (handleSync_lasting ..))
  | handleAsync session message fuel =>
    exact serving_follows (ofLoop_opens session (handleAsync_lasting ..))
  | removeSession session => exact serving_follows (removeSession_takesDown session).opens
  | closeAll => exact serving_follows closeAll_takesDown.opens

end Stages

section Sessions
variable {profile : Profile} {policy : ResponsePolicy σ} {session : Session σ}

structure Aside (session later : Session σ) : Prop where
  id : later.id = session.id
  version : later.version = session.version
  closed : session.state = .closed → later.state = .closed
  streams : later.state = .closed ∨
    later.sync = session.sync ∧ later.async = session.async ∧ (session.state = .pairing → later.state = .pairing)

theorem Aside.refl (session : Session σ) : Aside session session :=
  ⟨rfl, rfl, fun closed => closed, .inr ⟨rfl, rfl, fun pairing => pairing⟩⟩

theorem apply_aside {op : SessionOp} (other : ∀ stream, op ≠ .attachAsync stream) (session : Session σ) :
    Aside session (op.apply policy session).2 := by
  cases op with
  | attachAsync stream => exact absurd rfl (other stream)
  | close => exact ⟨rfl, rfl, fun _ => rfl, .inl rfl⟩
  | beginClear =>
    simp only [SessionOp.apply, Session.beginClear]
    split
    next ready =>
      refine ⟨rfl, rfl, fun closed => ?_, .inr ⟨rfl, rfl, fun pairing => ?_⟩⟩
      · cases ready.symm.trans closed
      · cases ready.symm.trans pairing
    next => exact .refl session
  | completeClear overlap =>
    simp only [SessionOp.apply, Session.completeClear]
    refine ⟨rfl, rfl, fun closed => ?_, .inr ⟨rfl, rfl, fun pairing => ?_⟩⟩
    · simp [closed]
    · simp [pairing]
  | disposition =>
    simp only [SessionOp.apply]
    cases session.policy <;> exact ⟨rfl, rfl, fun closed => closed, .inr ⟨rfl, rfl, fun pairing => pairing⟩⟩
  | _ => exact ⟨rfl, rfl, fun closed => closed, .inr ⟨rfl, rfl, fun pairing => pairing⟩⟩

theorem attachAsync_refused (unready : session.state ≠ .pairing) (stream : Stream) :
    ∃ err, session.attachAsync stream = (some err, session) :=
  ⟨_, if_pos unready⟩

theorem apply_sync {op : SessionOp} {stream : Stream} (holds : (op.apply policy session).2.sync = some stream) :
    session.sync = some stream := by
  by_cases attaches : ∃ other, op = .attachAsync other
  · obtain ⟨other, rfl⟩ := attaches
    revert holds
    simp only [SessionOp.apply, Session.attachAsync]
    repeat' split
    all_goals exact fun same => same
  · cases op with
    | close => cases holds
    | attachAsync other => exact absurd ⟨other, rfl⟩ attaches
    | beginClear =>
      revert holds
      simp only [SessionOp.apply, Session.beginClear]
      split <;> exact fun same => same
    | disposition =>
      revert holds
      simp only [SessionOp.apply]
      cases session.policy <;> exact fun same => same
    | _ => exact holds

end Sessions

section Backing
variable {profile : Profile} {policy : ResponsePolicy σ} {before after : Registry σ} {op : ServerOp}
  {outside : Outside} {reply : op.Reply} {session later : Session σ} {registry : Registry σ}

/-- A session made for the client that waits for its second stream, or is gone. -/
def Awaits (profile : Profile) (client : Client) (session : Session σ) : Prop :=
  session.version = agreed profile client ∧
    (session.state = .closed ∨ session.state = .pairing ∧ session.sync = some client.sync ∧ session.async = none)

def Holds (profile : Profile) (client : Client) (session : Session σ) : Prop :=
  session.version = agreed profile client ∧
    (session.state = .closed ∨ session.sync = some client.sync ∧ session.async = some client.async)

/-- The client's own session, which no other shares its stream with. -/
structure Owns (client : Client) (own : Nat) (property : Session σ → Prop) (registry : Registry σ) : Prop where
  only : ∀ (number : Nat) session, registry.made[number]? = some session → session.sync = some client.sync →
    number = own
  session : ∃ session, registry.made[own]? = some session ∧ property session

def Backed (profile : Profile) (work : Work) : Stage → Registry σ → Prop
  | .starting client, registry => work = .handshake client ∧ ∀ session ∈ registry.made, session.sync ≠ some client.sync
  | .waiting client own id, registry =>
    work = .handshake client ∧ Owns client own (fun session => session.id = id ∧ Awaits profile client session) registry
  | .joining client own, registry => work = .handshake client ∧ Owns client own (Awaits profile client) registry
  | .joined client own, registry => work = .handshake client ∧ Owns client own (Holds profile client) registry
  | .lost client own, registry => work = .handshake client ∧ Owns client own (·.state = .closed) registry
  | .serving, _ | .ended, _ => True

def Stage.client : Stage → Option Client
  | .starting client | .waiting client _ _ | .joining client _ | .joined client _ | .lost client _ => some client
  | .serving | .ended => none

def Apart (stage other : Stage) : Prop := ∀ client ∈ stage.client, ∀ second ∈ other.client, client.sync ≠ second.sync

def Named (registry : Registry σ) : Prop :=
  ∀ id number, registry.sessions.lookup id = some number → ∃ session, registry.made[number]? = some session ∧
    session.id = id

theorem Aside.awaits {client : Client} (aside : Aside session later) (awaits : Awaits profile client session) :
    Awaits profile client later := by
  refine ⟨aside.version.trans awaits.1, ?_⟩
  obtain closed | ⟨pairing, sync, async⟩ := awaits.2
  · exact .inl (aside.closed closed)
  · exact aside.streams.imp_right fun ⟨first, second, waits⟩ => ⟨waits pairing, first.trans sync, second.trans async⟩

theorem Aside.holds {client : Client} (aside : Aside session later) (holds : Holds profile client session) :
    Holds profile client later := by
  refine ⟨aside.version.trans holds.1, ?_⟩
  obtain closed | ⟨sync, async⟩ := holds.2
  · exact .inl (aside.closed closed)
  · exact aside.streams.imp_right fun ⟨first, second, _⟩ => ⟨first.trans sync, second.trans async⟩

theorem Named.apply (named : Named before) (applied : op.apply profile policy outside before = some (reply, after)) :
    Named after := by
  intro id number present
  obtain ⟨made, fewer⟩ | ⟨other, inner, found, -, here, made, sessions⟩ | ⟨version, stream, fresh, -, made, sessions⟩ :=
    apply_cases applied
  · rw [made]
    exact named id number (fewer id number present)
  · rw [sessions] at present
    obtain ⟨session, standing, same⟩ := named id number present
    rw [made]
    by_cases equal : other = number
    · subst equal
      rw [here, Option.some_inj] at standing
      subst standing
      exact ⟨_, List.getElem?_set_self (List.getElem?_eq_some_iff.mp here).1, (apply_id policy inner found).trans same⟩
    · exact ⟨session, (List.getElem?_set_ne equal).trans standing, same⟩
  · rw [sessions] at present
    rw [made]
    by_cases equal : id = fresh
    · subst equal
      rw [AList.lookup_insert, Option.some_inj] at present
      subst present
      exact ⟨_, List.getElem?_concat_length, rfl⟩
    · rw [AList.lookup_insert_ne equal] at present
      obtain ⟨session, standing, same⟩ := named id number present
      exact ⟨session, by rw [List.getElem?_append_left (List.getElem?_eq_some_iff.mp standing).1, standing], same⟩

/-- The operation leaves the client's stream and session to the client. -/
structure Considerate (client : Client) (op : ServerOp) (registry : Registry σ) : Prop where
  allocates : ∀ version stream, op = .allocateSession version stream → stream ≠ client.sync
  attaches : ∀ number stream found, op = .session number (.attachAsync stream) → registry.made[number]? = some found →
    found.sync = some client.sync → found.state ≠ .pairing

theorem considerate_of_apart {work : Work} {stage : Stage} {client : Client}
    (allowed : (stages profile).allowed stage op) (backed : Backed profile work stage registry)
    (apart : ∀ other ∈ stage.client, other.sync ≠ client.sync) : Considerate client op registry := by
  cases stage with
  | serving =>
    have other : opens op = false := allowed
    constructor
    · intro version stream same
      exact absurd (same ▸ other) Bool.noConfusion
    · intro number stream found same
      exact absurd (same ▸ other) Bool.noConfusion
  | starting client =>
    obtain ⟨version, rfl, -⟩ := allowed
    exact ⟨fun _ _ same => by cases same; exact apart _ rfl, fun _ _ _ => nofun⟩
  | waiting _ _ id =>
    obtain rfl := allowed
    exact ⟨fun _ _ => nofun, fun _ _ _ => nofun⟩
  | joining other own =>
    obtain rfl := allowed
    refine ⟨fun _ _ => nofun, fun number stream found same standing holds pairing => ?_⟩
    cases same
    obtain ⟨session, held, -, closed | ⟨-, sync, -⟩⟩ := backed.2.session
    · rw [standing, Option.some_inj] at held
      exact absurd ((held ▸ pairing).symm.trans closed) nofun
    · rw [standing, Option.some_inj] at held
      subst held
      exact apart other rfl (Option.some_inj.mp (sync.symm.trans holds))
  | joined _ _ | lost _ _ | ended => exact allowed.elim

theorem Considerate.aside {client : Client} {number : Nat} {op : SessionOp} {found : Session σ}
    (considerate : Considerate client (.session number op) registry) (standing : registry.made[number]? = some found)
    (held : found.state = .closed ∨ found.sync = some client.sync) : Aside found (op.apply policy found).2 := by
  by_cases attaches : ∃ stream, op = .attachAsync stream
  · obtain ⟨stream, rfl⟩ := attaches
    have unready : found.state ≠ .pairing := by
      obtain closed | sync := held
      · rw [closed]
        nofun
      · exact considerate.attaches number stream found rfl standing sync
    obtain ⟨err, refused⟩ := attachAsync_refused unready stream
    simp only [SessionOp.apply, refused]
    exact .refl found
  · exact apply_aside (fun stream same => attaches ⟨stream, same⟩) found

theorem Owns.keep {client : Client} {own : Nat} {property : Session σ → Prop} (owns : Owns client own property before)
    (aside : ∀ session later, Aside session later → property session → property later)
    (held : ∀ session, property session → session.state = .closed ∨ session.sync = some client.sync)
    (considerate : Considerate client op before)
    (applied : op.apply profile policy outside before = some (reply, after)) : Owns client own property after := by
  obtain ⟨only, session, standing, holds⟩ := owns
  obtain ⟨same, -⟩ | ⟨number, inner, found, rfl, here, same, -⟩ | ⟨version, stream, id, rfl, same, -⟩ :=
    apply_cases applied
  · exact ⟨by rw [same]; exact only, session, by rw [same]; exact standing, holds⟩
  · have bound := (List.getElem?_eq_some_iff.mp here).1
    constructor
    · intro other later found_ sync
      rw [same] at found_
      by_cases equal : number = other
      · subst equal
        rw [List.getElem?_set_self bound, Option.some_inj] at found_
        subst found_
        exact only number found here (apply_sync sync)
      · rw [List.getElem?_set_ne equal] at found_
        exact only other later found_ sync
    · rw [same]
      by_cases equal : number = own
      · subst equal
        rw [here, Option.some_inj] at standing
        subst standing
        exact ⟨_, List.getElem?_set_self bound, aside _ _ (considerate.aside here (held _ holds)) holds⟩
      · exact ⟨session, (List.getElem?_set_ne equal).trans standing, holds⟩
  · have bound := (List.getElem?_eq_some_iff.mp standing).1
    constructor
    · intro number later found sync
      rw [same, List.getElem?_append] at found
      split at found
      next => exact only number later found sync
      next =>
        obtain rfl := List.mem_singleton.mp (List.mem_of_getElem? found)
        exact absurd (Option.some_inj.mp sync) (considerate.allocates version stream rfl)
    · exact ⟨session, by rw [same, List.getElem?_append_left bound]; exact standing, holds⟩

theorem Backed.keep {work : Work} {stage : Stage} (backed : Backed profile work stage before)
    (considerate : ∀ client ∈ stage.client, Considerate client op before)
    (applied : op.apply profile policy outside before = some (reply, after)) : Backed profile work stage after := by
  cases stage with
  | starting client =>
    refine ⟨backed.1, fun session member sync => ?_⟩
    obtain ⟨same, -⟩ | ⟨number, inner, found, rfl, here, same, -⟩ | ⟨version, stream, id, rfl, same, -⟩ :=
      apply_cases applied
    · exact backed.2 session (same ▸ member) sync
    · rw [same] at member
      obtain earlier | rfl := List.mem_or_eq_of_mem_set member
      · exact backed.2 session earlier sync
      · exact backed.2 found (List.mem_of_getElem? here) (apply_sync sync)
    · rw [same] at member
      obtain earlier | last := List.mem_append.mp member
      · exact backed.2 session earlier sync
      · obtain rfl := List.mem_singleton.mp last
        exact (considerate client rfl).allocates version stream rfl (Option.some_inj.mp sync)
  | waiting client own id =>
    refine ⟨backed.1, backed.2.keep (fun _ _ aside holds => ⟨aside.id.trans holds.1, aside.awaits holds.2⟩) ?_
      (considerate client rfl) applied⟩
    exact fun _ holds => holds.2.2.imp_right fun waits => waits.2.1
  | joining client own =>
    refine ⟨backed.1, backed.2.keep (fun _ _ aside holds => aside.awaits holds) ?_ (considerate client rfl) applied⟩
    exact fun _ holds => holds.2.imp_right fun waits => waits.2.1
  | joined client own =>
    refine ⟨backed.1, backed.2.keep (fun _ _ aside holds => aside.holds holds) ?_ (considerate client rfl) applied⟩
    exact fun _ holds => holds.2.imp_right fun streams => streams.1
  | lost client own =>
    exact ⟨backed.1, backed.2.keep (fun _ _ aside closed => aside.closed closed) (fun _ => .inl)
      (considerate client rfl) applied⟩
  | serving | ended => trivial

end Backing

section Runs
variable {profile : Profile} {policy : ResponsePolicy σ} {before after : Registry σ} {work : Work} {outside : Outside}

theorem advance_client {stage : Stage} {op : ServerOp} {reply : op.Reply} {client : Client}
    (member : client ∈ ((stages profile).advance stage op reply).client) : client ∈ stage.client := by
  revert member
  simp only [stages]
  split <;> first | exact fun member => member | nofun

theorem starting_advance {client : Client} {version : SessionVersion} {reply : Except Err (Nat × UInt16)}
    (backed : Backed profile work (.starting client) before) (negotiated : version.1 = agreed profile client)
    (applied : (ServerOp.allocateSession version client.sync).apply profile policy outside before = some (reply, after)) :
    Backed profile work
      ((stages profile).advance (.starting client) (.allocateSession version client.sync) reply) after := by
  obtain rfl := congrArg Prod.fst (Option.some_inj.mp applied)
  obtain rfl := congrArg Prod.snd (Option.some_inj.mp applied)
  unfold Registry.allocateSession
  split
  next => trivial
  next =>
    split
    next => trivial
    next id nextID found =>
      refine ⟨backed.1, fun number session here sync => ?_, _, List.getElem?_concat_length, rfl, negotiated,
        .inr ⟨rfl, rfl, rfl⟩⟩
      simp only [List.getElem?_append] at here
      split at here
      next => exact absurd sync (backed.2 session (List.mem_of_getElem? here))
      next outside =>
        have bound := (List.getElem?_eq_some_iff.mp here).1
        simp only [List.length_singleton] at bound
        omega

/-- The registered session that holds the client's stream is the client's own, and it
is found under the identifier that the client was told. -/
theorem lookup_own {client : Client} {own : Nat} {id : UInt16} {registry : Registry σ}
    (backed : Backed profile work (.waiting client own id) registry) (named : Named registry)
    (registered : Registered registry client.sync) : registry.sessions.lookup id = some own := by
  obtain ⟨⟨key, number⟩, present, held⟩ := registered
  obtain ⟨session, here, sync⟩ := Option.bind_eq_some_iff.mp held
  rw [← AList.mem_lookup_iff, Option.mem_def] at present
  obtain rfl := backed.2.only number session here sync
  obtain ⟨found, standing, identified, -⟩ := backed.2.session
  obtain ⟨same, again, rfl⟩ := named key number present
  rw [here, Option.some_inj] at standing again
  rw [← identified, ← standing, again]
  exact present

theorem joining_advance {client : Client} {own : Nat} {reply : Option Err}
    (backed : Backed profile work (.joining client own) before)
    (applied : (ServerOp.session own (.attachAsync client.async)).apply profile policy outside before =
      some (reply, after)) :
    Backed profile work
      ((stages profile).advance (.joining client own) (.session own (.attachAsync client.async)) reply) after := by
  obtain ⟨task, only, session, standing, negotiated, waits⟩ := backed
  obtain ⟨found, here, same⟩ := Option.map_eq_some_iff.mp applied
  rw [standing, Option.some_inj] at here
  subst here
  have bound := (List.getElem?_eq_some_iff.mp standing).1
  have alone : ∀ later : Session σ, later.sync = session.sync → ∀ (number : Nat) other,
      (before.made.set own later)[number]? = some other → other.sync = some client.sync → number = own := by
    intro later unchanged number other here sync
    by_cases equal : own = number
    · exact equal.symm
    · exact only number other ((List.getElem?_set_ne equal).symm.trans here) sync
  obtain closed | ⟨pairing, sync, async⟩ := waits
  · obtain ⟨err, refused⟩ := attachAsync_refused (show session.state ≠ .pairing by rw [closed]; nofun) client.async
    simp only [SessionOp.apply, refused] at same
    cases same
    exact ⟨task, alone session rfl, session, List.getElem?_set_self bound, closed⟩
  · have accepted : session.attachAsync client.async =
        (none, { session with async := some client.async, state := .ready }) := by
      simp [Session.attachAsync, pairing, async]
    simp only [SessionOp.apply, accepted] at same
    cases same
    exact ⟨task, alone _ rfl, _, List.getElem?_set_self bound, negotiated, .inr ⟨sync, rfl⟩⟩

/-- Every handshake goes through its stages on the client's own session. -/
abbrev OnCourse (profile : Profile) (clients : Clients σ) : Prop :=
  Guarded (stages profile) (Ends profile) (Backed profile) Apart Named clients

theorem own_advance {stage : Stage} {op : ServerOp} {reply : op.Reply} (backed : Backed profile work stage before)
    (named : Named before)
    (inTime : ∀ client id, work = .handshake client → op = .lookup id → Registered before client.sync)
    (allowed : (stages profile).allowed stage op)
    (applied : op.apply profile policy outside before = some (reply, after)) :
    (stages profile).possible stage op reply ∧ Backed profile work ((stages profile).advance stage op reply) after := by
  cases stage with
  | serving => exact ⟨trivial, trivial⟩
  | starting client =>
    obtain ⟨version, rfl, negotiated⟩ := allowed
    exact ⟨trivial, starting_advance backed negotiated applied⟩
  | waiting client own id =>
    obtain rfl := allowed
    have found := lookup_own backed named (inTime client id backed.1 rfl)
    cases applied
    refine ⟨found, ?_⟩
    rw [found]
    obtain ⟨session, standing, -, awaits⟩ := backed.2.session
    exact ⟨backed.1, backed.2.only, session, standing, awaits⟩
  | joining client own =>
    obtain rfl := allowed
    exact ⟨trivial, joining_advance backed applied⟩
  | joined _ _ | lost _ _ | ended => exact allowed.elim

theorem OnCourse.step {clients after : Clients σ} {move : Move Work Outside} (course : OnCourse profile clients)
    (inTime : InTime clients move) (moved : clients.step profile policy move = some after) :
    OnCourse profile after := by
  cases move with
  | start work =>
    cases moved
    cases work with
    | handshake client =>
      obtain ⟨own, unheld⟩ := inTime client rfl
      refine course.start (work_follows profile (.handshake client)) ⟨rfl, unheld⟩ fun other member stage backed => ?_
      have differ : ∀ second ∈ stage.client, second.sync ≠ client.sync := by
        intro second present
        refine own other member second ?_
        cases stage <;> cases present <;> rw [backed.1] <;> rfl
      exact ⟨fun _ same second present => by cases same; exact (differ second present).symm,
        fun second present _ same => by cases same; exact differ second present⟩
    | handleSync _ _ _ | handleAsync _ _ _ | removeSession _ | closeAll =>
      exact course.start (work_follows profile _) trivial fun _ _ _ _ => ⟨fun _ => nofun, fun _ _ _ => nofun⟩
  | advance thread outside =>
    obtain ⟨work, op, next, reply, registry, running, applied, rfl⟩ := step_advance moved
    have intime : ∀ client id, work = .handshake client → op = .lookup id → Registered clients.shared client.sync := by
      rintro client id rfl rfl
      exact inTime _ running client rfl
    refine course.advance running fun stage backed allowed => ?_
    obtain ⟨possible, later⟩ := own_advance backed course.shared intime allowed applied
    refine ⟨course.shared.apply applied, possible, later, fun other _ rest apart back standing => ⟨?_, ?_, ?_⟩⟩
    · exact standing.keep (fun client present =>
        considerate_of_apart allowed backed fun first member => apart first member client present) applied
    · exact fun client member second present => apart client (advance_client member) second present
    · exact fun second present client member => back second present client (advance_client member)

theorem OnCourse.agreement {clients : Clients σ} (course : OnCourse profile clients) : Agreement profile clients := by
  intro client outcome member
  obtain ⟨index, found⟩ := List.mem_iff_getElem?.mp member
  obtain ⟨stage, ends, backed⟩ := course.running found
  cases outcome with
  | rejected err => trivial
  | served => trivial
  | unpaired number err =>
    obtain ⟨other, rfl⟩ : ∃ other, stage = .lost other number := ends
    exact backed.2.session
  | paired number version =>
    obtain ⟨other, rfl, rfl⟩ : ∃ other, stage = .joined other number ∧ version = agreed profile other := ends
    obtain ⟨session, standing, negotiated, streams⟩ := backed.2.session
    obtain rfl : client = other := Work.handshake.inj backed.1
    refine ⟨session, standing, streams, negotiated.symm, ?_, ?_⟩
    · rw [negotiated]
      exact Version.rank_negotiate client.version profile.maxVersion
    · refine not_lt.mp fun lower => ?_
      rw [← Version.less_iff, session.current] at lower
      cases lower

/-- Whatever else the server does: a client whose session is looked up in time either
finds its session closed, or its asynchronous stream joins its synchronous one, and
both sides have agreed on the lower of their highest versions. -/
theorem handshakes_agree (profile : Profile) (policy : ResponsePolicy σ) (moves : List (Move Work Outside))
    (inTime : Throughout (Clients.step profile policy) InTime moves { shared := {} }) :
    Always (Clients.step profile policy) (Agreement profile) moves { shared := {} } := by
  have start : OnCourse profile ({ shared := {} } : Clients σ) :=
    guarded_empty (fun id _ found => absurd ((AList.lookup_empty id).symm.trans found) nofun) .ended
  exact always_of_invariant (fun _ (course : OnCourse profile _) => course.agreement)
    (fun _ _ _ course inTime moved => OnCourse.step course inTime moved) start inTime

def silent : Outside := fun _ => none

def crossing : List (Move Work Outside) :=
  [.start (.handshake ⟨⟨1, 0⟩, (65, 66), [], 0, 1⟩), .start (.handshake ⟨⟨2, 0⟩, (67, 68), [], 2, 3⟩),
    .advance 1 silent, .advance 0 silent, .advance 0 silent, .advance 1 silent, .advance 1 silent, .advance 0 silent]

theorem handshakes_agree_crossing :
    Throughout (Clients.step Profile.forTwo scpiQueryPolicy) InTime crossing { shared := {} } ∧
      ∃ clients, finish (Clients.step Profile.forTwo scpiQueryPolicy) crossing { shared := {} } = some clients ∧
        Agreement Profile.forTwo clients ∧
        clients.threads.map Prod.snd = [.pure (.paired 1 ⟨1, 0⟩), .pure (.paired 0 ⟨2, 0⟩)] :=
  ⟨by decide +kernel, _, rfl, (handshakes_agree .forTwo scpiQueryPolicy crossing (by decide +kernel)).finish rfl, rfl⟩

end Runs

end Hislip.Proofs.Handshake
