import Hislip.Proofs.Contexts
import Hislip.Proofs.Occupancy

/-! No call acts for another client. The contexts that a call cancels were made for a session
that it serves or closes, and the locks that it asks for and gives back are those of its
session. -/

namespace Hislip.Proofs.Isolation
open Hislip.Server Hislip.Threads Transition Program Footprint Serving
open Contexts (Grasp names grasping handleSync_heeds handleAsync_heeds makes Made)
open Occupancy (opener joiner sweeper next_steps or_kept opens_fresh joins_fresh takes_fresh works works_own Opened Joined
  Took opener_iff joiner_iff sweeper_iff)
open LockLifetime (apply_moves)
open LockTable (Consistent)

section Reach
variable {profile : Profile} {entry : Entry profile Grasp} {place : Place} {op : ServerOp} {session : Nat}

/-- The session is the one that the call handles the messages of, or has handled. -/
def Serves (place : Place) (session : Nat) : Prop := opener place = some session ∨ joiner place = some session

/-- The same with the sessions that the call closes for the host. -/
def Cares (place : Place) (session : Nat) : Prop :=
  opener place = some session ∨ joiner place = some session ∨ ∃ all, sweeper place = some all ∧ session ∈ all

theorem Serves.cares (serves : Serves place session) : Cares place session := serves.imp id .inl

theorem serves_looping (loops : place.looping = some session) : Serves place session := by
  cases place with
  | serving _ => exact .inl loops
  | attending _ => exact .inr loops
  | _ => cases loops

theorem opener_next (allowed : (conduct (grasping true)).allowed entry.2.1 op) (reply : op.Reply)
    (opened : opener entry.place = some session) : opener (entry.place.next op reply) = some session := by
  refine (next_steps allowed reply).opener.trans (or_kept (fun fresh new => ?_) opened)
  obtain ⟨stream, same⟩ := opens_fresh allowed new
  rw [same]
  rfl

theorem joiner_next (allowed : (conduct (grasping true)).allowed entry.2.1 op) (reply : op.Reply)
    (joined : joiner entry.place = some session) : joiner (entry.place.next op reply) = some session :=
  (next_steps allowed reply).joiner.trans (or_kept (fun _ => joins_fresh allowed) joined)

theorem Serves.next (serves : Serves entry.place session) (allowed : (conduct (grasping true)).allowed entry.2.1 op)
    (reply : op.Reply) : Serves (entry.after (grasping true) op reply).place session :=
  serves.imp (opener_next allowed reply) (joiner_next allowed reply)

theorem Cares.next (cares : Cares entry.place session) (allowed : (conduct (grasping true)).allowed entry.2.1 op)
    (reply : op.Reply) : Cares (entry.after (grasping true) op reply).place session := by
  refine cares.imp (opener_next allowed reply) (Or.imp (joiner_next allowed reply) ?_)
  rintro ⟨all, swept, inside⟩
  exact ⟨all, (next_steps allowed reply).sweeper.trans (or_kept (fun _ => takes_fresh allowed) swept), inside⟩

/-- The context that a call took out of a session to cancel it. -/
def cancels : Place → Option Nat
  | .closed _ operation _ | .swept _ _ operation _ => operation
  | _ => none

/-- The call has the context in its hands or has cancelled it. -/
def Reaches (entry : Entry profile Grasp) (number : Nat) : Prop :=
  number ∈ entry.2.1.2.contexts ∨ cancels entry.place = some number ∨
    ∃ event ∈ entry.past, event.operation = .cancel number

/-- The identifier that a loop names to the lock manager. The `ReleaseAll` of a teardown goes by
the session and is not among these. -/
def asks : ServerOp → Option UInt16
  | .locks op => names op
  | _ => none

/-- The call knows the identifier or has named it to the lock manager. -/
def Knows (entry : Entry profile Grasp) (id : UInt16) : Prop :=
  id ∈ entry.2.1.2.ids ∨ ∃ event ∈ entry.past, asks event.operation = some id

def takesOut : (op : ServerOp) → op.Reply → Option Nat
  | .session _ .abort, found => found
  | .session _ .close, (_, found) => found
  | _, _ => none

def reads : (op : ServerOp) → op.Reply → Option UInt16
  | .session _ .id, id => some id
  | _, _ => none

theorem cancels_next {number : Nat} {reply : op.Reply} {next : Place} (step : place.Step op reply next)
    (now : cancels next = some number) :
    cancels place = some number ∨ ∃ session, works op = some session ∧ takesOut op reply = some number := by
  cases step with
  | closesOne | closesNext => exact .inr ⟨_, rfl, now⟩
  | _ => cases now

/-- A call comes to a context by making it or by taking it out of a session. -/
theorem reaches_next {number : Nat} (allowed : (conduct (grasping true)).allowed entry.2.1 op) (reply : op.Reply)
    (now : Reaches (entry.after (grasping true) op reply) number) :
    Reaches entry number ∨ (∃ session, Serves entry.place session ∧ makes op reply = some number) ∨
      ∃ session, works op = some session ∧ takesOut op reply = some number := by
  obtain ⟨call, ⟨place, grasp⟩, past⟩ := entry
  simp only [Entry.after] at now
  rcases now with held | cancels | ⟨event, performed, cancelled⟩
  · rcases advance_cases allowed reply with ⟨session, loops, -, same⟩ | ⟨next, -, same⟩
    · rw [same] at held
      cases op with
      | withCancel =>
        rcases List.mem_cons.mp held with new | old
        · exact .inr (.inl ⟨session, serves_looping loops, congrArg some new.symm⟩)
        · exact .inl (.inl old)
      | session other op =>
        cases op with
        | abort =>
          cases reply with
          | none => exact .inl (.inl held)
          | some found =>
            rcases List.mem_cons.mp held with new | old
            · exact .inr (.inr ⟨other, rfl, congrArg some new.symm⟩)
            · exact .inl (.inl old)
        | _ => exact .inl (.inl held)
      | _ => exact .inl (.inl held)
    · rw [same] at held
      exact .inl (.inl held)
  · rcases advance_cases allowed reply with ⟨session, -, -, same⟩ | ⟨next, step, same⟩
    · rw [same] at cancels
      exact .inl (.inr (.inl cancels))
    · rw [same] at cancels
      exact (cancels_next step cancels).imp (fun old => .inr (.inl old)) .inr
  · rcases List.mem_append.mp performed with old | new
    · exact .inl (.inr (.inr ⟨event, old, cancelled⟩))
    · obtain rfl := List.mem_singleton.mp new
      obtain rfl : op = .cancel number := cancelled
      rcases advance_cases allowed reply with ⟨_, -, ⟨-, _, performs, -, permitted⟩, -⟩ | ⟨next, step, -⟩
      · cases performs
        exact .inl (.inl permitted)
      · cases step <;> exact .inl (.inr (.inl rfl))

theorem knows_next {id : UInt16} (allowed : (conduct (grasping true)).allowed entry.2.1 op) (reply : op.Reply)
    (now : Knows (entry.after (grasping true) op reply) id) :
    Knows entry id ∨ ∃ session, Serves entry.place session ∧ works op = some session ∧ reads op reply = some id := by
  obtain ⟨call, ⟨place, grasp⟩, past⟩ := entry
  simp only [Entry.after] at now
  rcases now with known | ⟨event, performed, named⟩
  · rcases advance_cases allowed reply with ⟨session, loops, handles, same⟩ | ⟨next, -, same⟩
    · rw [same] at known
      cases op with
      | session other op =>
        obtain rfl : other = session := handles.1
        cases op with
        | id =>
          rcases List.mem_cons.mp known with new | old
          · exact .inr ⟨other, serves_looping loops, rfl, congrArg some new.symm⟩
          · exact .inl (.inl old)
        | abort => cases reply <;> exact .inl (.inl known)
        | _ => exact .inl (.inl known)
      | _ => exact .inl (.inl known)
    · rw [same] at known
      exact .inl (.inl known)
  · rcases List.mem_append.mp performed with old | new
    · exact .inl (.inr ⟨event, old, named⟩)
    · obtain rfl := List.mem_singleton.mp new
      rcases advance_cases allowed reply with ⟨_, -, ⟨-, _, performs, -, permitted⟩, -⟩ | ⟨next, step, -⟩
      · cases op with
        | locks op =>
          cases performs
          exact .inl (.inl (permitted id named))
        | _ => cases named
      · cases step <;> cases named

end Reach

section Registry
variable {σ : Type} {profile : Profile} {policy : ResponsePolicy σ} {outside : Outside} {op : ServerOp}
  {reply : op.Reply} {before after : Registry σ} {number : Nat} {session : Nat}

def Registered (registry : Registry σ) (session number : Nat) : Prop :=
  registry.made[session]?.bind (·.opCancel) = some number

theorem takesOut_registered (applied : op.apply profile policy outside before = some (reply, after))
    (worked : works op = some session) (taken : takesOut op reply = some number) :
    Registered before session number := by
  cases op with
  | session own op =>
    obtain ⟨found, held, same⟩ := Option.map_eq_some_iff.mp applied
    cases op with
    | abort | close =>
      cases worked
      cases same
      rw [Registered, held]
      exact taken
    | _ => cases taken
  | _ => cases taken

theorem reads_id {id : UInt16} (applied : op.apply profile policy outside before = some (reply, after))
    (worked : works op = some session) (read : reads op reply = some id) :
    before.made[session]?.map (·.id) = some id := by
  cases op with
  | session own op =>
    obtain ⟨found, held, same⟩ := Option.map_eq_some_iff.mp applied
    cases op with
    | id =>
      cases worked
      cases same
      rw [held]
      exact read
    | _ => cases read
  | _ => cases read

theorem apply_operation (policy : ResponsePolicy σ) {op : SessionOp} {session : Session σ}
    (now : (op.apply policy session).2.opCancel = some number) :
    session.opCancel = some number ∨ op = .register number := by
  cases op with
  | register operation =>
    obtain rfl : operation = number := Option.some.inj now
    exact .inr rfl
  | unregister | abort | close => cases now
  | attachAsync _ | beginClear | disposition =>
    simp only [SessionOp.apply, Session.attachAsync, Session.beginClear] at now
    repeat' split at now
    all_goals exact .inl now
  | _ => exact .inl now

section
variable (applied : op.apply profile policy outside before = some (reply, after))
include applied

theorem registered_back (now : Registered after session number) :
    Registered before session number ∨ op = .session session (.register number) := by
  obtain ⟨found, held, registered⟩ := Option.bind_eq_some_iff.mp now
  rcases session_back applied held with old | ⟨inner, earlier, rfl, standing, rfl⟩ | ⟨_, _, _, -, -, -, rfl⟩
  · exact .inl (by rw [Registered, old]; exact registered)
  · rcases apply_operation policy registered with kept | rfl
    · exact .inl (by rw [Registered, standing]; exact kept)
    · exact .inr rfl
  · cases registered

theorem id_kept {id : UInt16} (known : before.made[session]?.map (·.id) = some id) :
    after.made[session]?.map (·.id) = some id := by
  rw [← List.getElem?_map] at known ⊢
  exact LockLifetime.apply_identifier applied known

theorem held_back {id : UInt16} (consistent : Consistent before.locks) (held : after.locks.held id = true) :
    before.locks.held id = true ∨ asks op = some id := by
  rcases (apply_moves applied).held consistent id held with ⟨lockString, rfl, -⟩ | ⟨earlier, -⟩
  · exact .inr rfl
  · exact .inl earlier

end

end Registry

section Accounts
variable {σ : Type} {profile : Profile} {policy : ResponsePolicy σ} {registry after : Registry σ} {op : ServerOp}
  {outside : Outside} {reply : op.Reply} {phases : List (Entry profile Grasp)} {index : Nat} {entry : Entry profile Grasp}

def Maker (phases : List (Entry profile Grasp)) (session number : Nat) : Prop :=
  ∃ entry ∈ phases, Serves entry.place session ∧ ∃ event ∈ entry.past, makes event.operation event.reply = some number

/-- The identifier is that of a session that the call serves. -/
def Identified (registry : Registry σ) (entry : Entry profile Grasp) (id : UInt16) : Prop :=
  ∃ session, Serves entry.place session ∧ registry.made[session]?.map (·.id) = some id

structure Account (registry : Registry σ) (phases : List (Entry profile Grasp)) : Prop where
  registered : ∀ session number, Registered registry session number → Maker phases session number
  reached : ∀ entry ∈ phases, ∀ number, Reaches entry number → ∃ session, Cares entry.place session ∧ Maker phases session number
  known : ∀ entry ∈ phases, ∀ id, Knows entry id → Identified registry entry id
  consistent : Consistent registry.locks
  locked : ∀ id, registry.locks.held id = true → ∃ entry ∈ phases, Identified registry entry id

theorem Account.start (account : Account registry phases) (call : Call profile.maxRxPayload) :
    Account registry (phases ++ [(call, (begin (fun _ => ({} : Grasp)) call, []))]) := by
  refine ⟨fun session number registered => exists_concat (account.registered session number registered) _, ?_, ?_,
    account.consistent, fun id held => exists_concat (account.locked id held) _⟩
  · refine forall_concat (fun entry member number reaches => ?_) fun number reaches => ?_
    · obtain ⟨session, cares, maker⟩ := account.reached entry member number reaches
      exact ⟨session, cares, exists_concat maker _⟩
    · rcases reaches with impossible | impossible | ⟨_, impossible, -⟩
      · cases impossible
      · cases call <;> cases impossible
      · cases impossible
  · refine forall_concat account.known fun id knows => ?_
    rcases knows with impossible | ⟨_, impossible, -⟩ <;> cases impossible

theorem cares_looping {place : Place} {session other : Nat} (loops : place.looping = some session)
    (cares : Cares place other) : other = session := by
  cases place with
  | serving own =>
    rcases cares with opened | joined | ⟨_, swept, -⟩
    · exact Option.some.inj (opened.symm.trans loops)
    · cases joined
    · cases swept
  | attending own =>
    rcases cares with opened | joined | ⟨_, swept, -⟩
    · cases opened
    · exact Option.some.inj (joined.symm.trans loops)
    · cases swept
  | _ => cases loops

variable (account : Account registry phases) (listed : phases[index]? = some entry)
  (allowed : (conduct (grasping true)).allowed entry.2.1 op)
  (applied : op.apply profile policy outside registry = some (reply, after))
include listed allowed

theorem Maker.next {session number : Nat} (maker : Maker phases session number) (reply : op.Reply) :
    Maker (phases.set index (entry.after (grasping true) op reply)) session number := by
  refine exists_set listed maker (fun _ => id) fun ⟨serves, event, performed, made⟩ => ?_
  exact ⟨serves.next allowed reply, event, List.mem_append_left _ performed, made⟩

include account applied

theorem Account.registered_next {session number : Nat} (registered : Registered after session number) :
    Maker phases session number := by
  obtain ⟨call, ⟨place, grasp⟩, past⟩ := entry
  rcases registered_back applied registered with earlier | rfl
  · exact account.registered session number earlier
  · rcases advance_cases allowed reply with ⟨own, loops, ⟨same, _, performs, -, permitted⟩, -⟩ | ⟨_, impossible, -⟩
    · obtain rfl : session = own := same
      cases performs
      obtain ⟨other, cares, maker⟩ := account.reached _ (List.mem_of_getElem? listed) number (.inl permitted)
      rwa [cares_looping loops cares] at maker
    · cases impossible

theorem Account.reached_next {number : Nat} (reaches : Reaches (entry.after (grasping true) op reply) number) :
    ∃ session, Cares (entry.after (grasping true) op reply).place session ∧
      Maker (phases.set index (entry.after (grasping true) op reply)) session number := by
  rcases reaches_next allowed reply reaches with earlier | ⟨session, serves, made⟩ | ⟨session, worked, taken⟩
  · obtain ⟨session, cares, maker⟩ := account.reached _ (List.mem_of_getElem? listed) number earlier
    exact ⟨session, cares.next allowed reply, maker.next listed allowed reply⟩
  · have now := serves.next allowed reply
    refine ⟨session, now.cares, exists_set_new listed ⟨now, ⟨op, reply⟩, ?_, made⟩⟩
    exact List.mem_append_right _ (List.mem_singleton_self _)
  · have cares : Cares entry.place session := works_own allowed reply worked
    have maker := account.registered session number (takesOut_registered applied worked taken)
    exact ⟨session, cares.next allowed reply, maker.next listed allowed reply⟩

theorem Account.advance : Account after (phases.set index (entry.after (grasping true) op reply)) := by
  have stays (entry : Entry profile Grasp) {id : UInt16} (identified : Identified registry entry id) :
      Identified after entry id := by
    obtain ⟨session, serves, same⟩ := identified
    exact ⟨session, serves, id_kept applied same⟩
  have moves {id : UInt16} (identified : Identified registry entry id) :
      Identified after (entry.after (grasping true) op reply) id := by
    obtain ⟨session, serves, same⟩ := identified
    exact ⟨session, serves.next allowed reply, id_kept applied same⟩
  have known : ∀ id, Knows (entry.after (grasping true) op reply) id →
      Identified after (entry.after (grasping true) op reply) id := by
    intro id knows
    rcases knows_next allowed reply knows with earlier | ⟨session, serves, worked, read⟩
    · exact moves (account.known _ (List.mem_of_getElem? listed) id earlier)
    · exact moves ⟨session, serves, reads_id applied worked read⟩
  refine ⟨fun session number registered => ?_, ?_, ?_, (apply_moves applied).consistent account.consistent,
    fun id held => ?_⟩
  · exact (account.registered_next listed allowed applied registered).next listed allowed reply
  · refine forall_set account.reached (fun entry reached number reaches => ?_) fun number reaches => ?_
    · obtain ⟨session, cares, maker⟩ := reached number reaches
      exact ⟨session, cares, maker.next listed allowed reply⟩
    · exact account.reached_next listed allowed applied reaches
  · exact forall_set account.known (fun entry known id knows => stays entry (known id knows)) known
  · rcases held_back applied account.consistent held with earlier | asked
    · exact exists_set listed (account.locked id earlier) (fun entry => stays entry) moves
    · refine exists_set_new listed (known id (.inr ⟨⟨op, reply⟩, ?_, asked⟩))
      exact List.mem_append_right _ (List.mem_singleton_self _)

end Accounts

section Runs
variable {σ : Type} {profile : Profile}

theorem grasping_rules (profile : Profile) :
    Rules profile (grasping true) (fun _ _ => True) (fun _ _ => True) fun _ _ => True where
  sync message _ grasp fuel _ :=
    (handleSync_heeds _ message fuel grasp).mono fun result _ _ => by cases result <;> trivial
  async message _ grasp fuel _ :=
    (handleAsync_heeds true _ message fuel grasp).mono fun result _ _ => by cases result <;> trivial
  ending _ _ _ _ := trivial
  waits _ _ _ := trivial

abbrev Accounted (calls : Calls profile σ) : Prop :=
  Recorded (grasping true) (fun _ _ => True) (fun _ => ({} : Grasp)) Account calls

theorem always_accounted (policy : ResponsePolicy σ) (moves : List (Move (Call profile.maxRxPayload) Outside)) :
    Always (Calls.step policy) Accounted moves ({ shared := {} } : Calls profile σ) := by
  have opens : Account ({} : Registry σ) ([] : List (Entry profile Grasp)) := by
    refine ⟨fun _ _ registered => ?_, fun _ => nofun, fun _ => nofun, LockTable.consistent_zero, fun _ held => ?_⟩
    · cases registered
    · cases held
  refine always_recorded (grasping_rules profile) ⟨fun _ _ _ _ _ _ _ _ _ => trivial, fun _ _ _ _ _ _ _ _ => trivial⟩
    opens (fun _ _ call account => account.start call) ?_ moves
  intro registry phases index entry op outside reply after account listed allowed applied
  refine ⟨fun _ => ?_, account.advance listed allowed applied⟩
  cases op <;> trivial

def Served (thread : Thread (Call profile.maxRxPayload) ServerOp.Reply (Option Err)) (session : Nat) : Prop :=
  Opened thread session ∨ Joined thread session

variable {calls : Calls profile σ} {thread : Thread (Call profile.maxRxPayload) ServerOp.Reply (Option Err)} {session : Nat}

theorem serves_past (kept : (conduct (grasping true)).Kept (begin (fun _ => {}) thread.task) thread.past)
    (serves : Serves (thread.phase (conduct (grasping true)) (begin fun _ => {})).1 session) : Served thread session :=
  serves.imp (opener_iff kept).mp (joiner_iff kept).mp

theorem cares_past (kept : (conduct (grasping true)).Kept (begin (fun _ => {}) thread.task) thread.past)
    (cares : Cares (thread.phase (conduct (grasping true)) (begin fun _ => {})).1 session) :
    Served thread session ∨ Took thread session := by
  rcases cares with opened | joined | ⟨all, taken, inside⟩
  · exact .inl (.inl ((opener_iff kept).mp opened))
  · exact .inl (.inr ((joiner_iff kept).mp joined))
  · obtain ⟨event, performed, taking⟩ := (sweeper_iff kept).mp taken
    exact .inr ⟨event, performed, all, taking, inside⟩

/-- A call cancels only contexts that were made for a session that it serves, or that it took
from the registry to close it. -/
theorem operations_private (profile : Profile) (policy : ResponsePolicy σ)
    (moves : List (Move (Call profile.maxRxPayload) Outside)) :
    Always (Calls.step policy)
      (fun calls =>
        ∀ thread ∈ calls.threads, ∀ event ∈ thread.past, ∀ number, event.operation = .cancel number →
          ∃ session, (Served thread session ∨ Took thread session) ∧
            ∃ maker ∈ calls.threads, Served maker session ∧ Made maker number)
      moves ({ shared := {} } : Calls profile σ) := by
  refine (always_accounted policy moves).mono fun calls accounted thread member event performed number cancelled => ?_
  obtain ⟨session, cares, entry, other, serves, made⟩ := accounted.account.reached _ (mem_entries.mpr ⟨thread, member, rfl⟩)
    number (.inr (.inr ⟨event, performed, cancelled⟩))
  obtain ⟨maker, present, rfl⟩ := mem_entries.mp other
  exact ⟨session, cares_past (accounted.threads thread member).kept.both.1 cares, maker, present,
    serves_past (accounted.threads maker present).kept.both.1 serves, made⟩

/-- A loop names to the lock manager only the identifier of a session that its call serves, and
whatever identifier a lock is held under is that of a session served. -/
theorem locks_private (profile : Profile) (policy : ResponsePolicy σ)
    (moves : List (Move (Call profile.maxRxPayload) Outside)) :
    Always (Calls.step policy)
      (fun calls =>
        (∀ thread ∈ calls.threads, ∀ event ∈ thread.past, ∀ id, asks event.operation = some id →
          ∃ session, Served thread session ∧ calls.shared.made[session]?.map (·.id) = some id) ∧
        ∀ id, calls.shared.locks.held id = true →
          ∃ thread ∈ calls.threads, ∃ session, Served thread session ∧
            calls.shared.made[session]?.map (·.id) = some id)
      moves ({ shared := {} } : Calls profile σ) := by
  refine (always_accounted policy moves).mono fun calls accounted => ⟨?_, fun id held => ?_⟩
  · intro thread member event performed id asked
    obtain ⟨session, serves, same⟩ := accounted.account.known _ (mem_entries.mpr ⟨thread, member, rfl⟩) id
      (.inr ⟨event, performed, asked⟩)
    exact ⟨session, serves_past (accounted.threads thread member).kept.both.1 serves, same⟩
  · obtain ⟨entry, listed, session, serves, same⟩ := accounted.account.locked id held
    obtain ⟨thread, member, rfl⟩ := mem_entries.mp listed
    exact ⟨thread, member, session, serves_past (accounted.threads thread member).kept.both.1 serves, same⟩

end Runs

end Hislip.Proofs.Isolation
