import Hislip.Chronicle
import Hislip.Server.Registry
import Hislip.Proofs.LockTable
import Hislip.Proofs.Teardown

/-! Any number of sessions that are initialized, served and torn down at the same
time. A session's locks are released once, by its teardown, and a lock request
does not look at the session again before it is granted. -/

namespace Hislip.Proofs.LockLifetime
open Hislip.Server Hislip.Threads Transition Program Footprint Teardown
open LockTable (Consistent)

inductive Task where
  | initializeRequest (header : Header) (subAddress : Bytes) (stream : Stream)
  | asyncInitialize (header : Header) (stream : Stream)
  | lock (session : Nat) (header : Header) (lockString : Bytes) (fuel : Nat)
  | handleSync (session : Nat) (message : Message) (fuel : Nat)
  | handleAsync (session : Nat) (message : Message) (fuel : Nat)
  | removeSession (session : Nat)
  | closeAll

def ignore {α : Type} (program : ServerProgram α) : ServerProgram Unit := program >>= fun _ => Pure.pure ()

def Task.program (profile : Profile) : Task → ServerProgram Unit
  | .initializeRequest header subAddress stream =>
    ignore (ServerProgram.initializeRequest profile header subAddress stream)
  | .asyncInitialize header stream => ignore (ServerProgram.asyncInitialize profile header stream)
  | .lock session header lockString fuel => ignore (.ofLoop session (Server.lock header lockString fuel))
  | .handleSync session message fuel => ignore (.ofLoop session (Server.handleSync profile.toConfig message fuel))
  | .handleAsync session message fuel => ignore (.ofLoop session (Server.handleAsync profile.toConfig message fuel))
  | .removeSession session => ignore (ServerProgram.removeSession session)
  | .closeAll => ignore ServerProgram.closeAll

abbrev System (τ σ α : Type) : Type := Chronicle τ (Registry σ) ServerOp.Reply α

abbrev ServerSystem (σ : Type) : Type := System Task σ Unit

def ServerSystem.step {σ : Type} (profile : Profile) (policy : ResponsePolicy σ) :
    ServerSystem σ → Move Task Outside → Option (ServerSystem σ) :=
  Chronicle.step (fun op outside => op.apply profile policy outside) (Task.program profile)

def releases : ServerOp → List Nat
  | .releaseAll session => [session]
  | _ => []

theorem mem_releases {op : ServerOp} {session : Nat} : session ∈ releases op ↔ op = .releaseAll session := by
  unfold releases
  split
  next other => simp [eq_comm]
  next op other => simpa using other session

/-- The identifier under which the next operation of a call is granted a lock. -/
def grants {α : Type} (manager : LockManager) : ServerProgram α → List UInt16
  | .request (.locks (.tryRequest id lockString)) _ =>
    if (manager.tryRequest id lockString).1 = .granted then [id] else []
  | _ => []

/-- The identifier is that of the session, and of no session made after it. -/
def Current (identifiers : List UInt16) (session : Nat) (id : UInt16) : Prop :=
  identifiers[session]? = some id ∧ id ∉ identifiers.drop (session + 1)

instance (identifiers : List UInt16) (session : Nat) (id : UInt16) : Decidable (Current identifiers session id) :=
  inferInstanceAs (Decidable (_ ∧ _))

/-- The session that has the identifier now still has its teardown ahead. -/
def Live (identifiers : List UInt16) (released : List Nat) (id : UInt16) : Prop :=
  ∃ number < identifiers.length, Current identifiers number id ∧ number ∉ released

instance (identifiers : List UInt16) (released : List Nat) (id : UInt16) : Decidable (Live identifiers released id) :=
  inferInstanceAs (Decidable (∃ number < _, _))

namespace System
variable {τ σ α : Type} (system : System τ σ α)

def identifiers : List UInt16 := system.shared.made.map (·.id)

def released : List Nat := system.threads.flatMap fun thread => thread.past.flatMap fun event => releases event.operation

/-- No closed session holds a lock, unless its identifier was given away again. -/
def NoLockOutlives : Prop :=
  ∀ number session, system.shared.made[number]? = some session → session.state = .closed →
    Current system.identifiers number session.id → system.shared.locks.held session.id = false

/-- A lock is granted only under the identifier of a session that is live then. -/
def GrantsToLive : Move τ Outside → Prop
  | .start _ => True
  | .advance thread _ => ∀ running ∈ system.threads[thread]?, ∀ id ∈ grants system.shared.locks running.rest,
      Live system.identifiers system.released id

instance : (move : Move τ Outside) → Decidable (system.GrantsToLive move)
  | .start _ => isTrue trivial
  | .advance _ _ =>
    have (program : ServerProgram α) :
        Decidable (∀ id ∈ grants system.shared.locks program, Live system.identifiers system.released id) :=
      List.decidableBAll (p := Live system.identifiers system.released) _
    inferInstanceAs (Decidable (∀ running ∈ _, ∀ id ∈ grants _ _, _))

theorem mem_released {number : Nat} : number ∈ system.released ↔ system.Did fun event =>
    event.operation = .releaseAll number := by
  simp only [released, List.mem_flatMap, mem_releases, Chronicle.Did]

end System

section Moves
variable {σ : Type} {profile : Profile} {policy : ResponsePolicy σ} {outside : Outside} {before after : Registry σ}
  {op : ServerOp} {number : Nat} {found : Session σ} {reply : op.Reply}

theorem apply_id (policy : ResponsePolicy σ) (op : SessionOp) (session : Session σ) :
    (op.apply policy session).2.id = session.id := (op.apply_keeps policy session).id

theorem apply_state {policy : ResponsePolicy σ} {op : SessionOp} {session : Session σ}
    (closed : (op.apply policy session).2.state = .closed) : session.state = .closed ∨ op = .close := by
  cases op
  any_goals first | exact .inl closed | exact .inr rfl
  all_goals
    revert closed
    simp only [SessionOp.apply, Session.attachAsync, Session.beginClear, Session.completeClear]
    repeat' split
    all_goals first | exact .inl | rintro ⟨⟩

/-- What one operation can do to the sessions and to the holders of locks. -/
structure Moves (op : ServerOp) (before after : Registry σ) : Prop where
  identifiers : after.made.map (·.id) = before.made.map (·.id) ∨
    ∃ id, after.made.map (·.id) = before.made.map (·.id) ++ [id]
  closed : ∀ (number : Nat) (session : Session σ), after.made[number]? = some session → session.state = .closed →
    op = .session number .close ∨ ∃ earlier, before.made[number]? = some earlier ∧ earlier.state = .closed
  releases : ∀ number, op = .releaseAll number → number < before.made.length
  consistent : Consistent before.locks → Consistent after.locks
  held : Consistent before.locks → ∀ id, after.locks.held id = true →
    (∃ lockString, op = .locks (.tryRequest id lockString) ∧ (before.locks.tryRequest id lockString).1 = .granted) ∨
      (before.locks.held id = true ∧
        ∀ number, op = .releaseAll number → (before.made.map (·.id))[number]? ≠ some id)

theorem Moves.quiet (other : ∀ number, op ≠ .releaseAll number) (made : after.made = before.made)
    (locks : after.locks = before.locks) : Moves op before after where
  identifiers := .inl (by rw [made])
  closed _ session found closed := .inr ⟨session, made ▸ found, closed⟩
  releases number same := absurd same (other number)
  consistent right := locks ▸ right
  held _ _ held := .inr ⟨locks ▸ held, fun number same => absurd same (other number)⟩

theorem allocateSession_moves (before : Registry σ) (version : SessionVersion) (stream : Stream) :
    Moves (.allocateSession version stream) before (before.allocateSession profile policy version stream).2 := by
  have other : ∀ number, ServerOp.allocateSession version stream ≠ .releaseAll number := fun _ => ServerOp.noConfusion
  unfold Registry.allocateSession
  split
  · exact .quiet other rfl rfl
  split
  · exact .quiet other rfl rfl
  · refine ⟨.inr ⟨_, List.map_append⟩, fun number session found closed => .inr ?_,
      fun number same => absurd same (other number), fun right => right, fun _ id held =>
        .inr ⟨held, fun number same => absurd same (other number)⟩⟩
    rw [List.getElem?_append] at found
    split at found
    next => exact ⟨session, found, closed⟩
    next =>
      obtain rfl := List.mem_singleton.mp (List.mem_of_getElem? found)
      cases closed

theorem session_moves {before : Registry σ} (op : SessionOp) (standing : before.made[number]? = some found) :
    Moves (.session number op) before
      { before with made := before.made.set number (op.apply policy found).2 } := by
  refine ⟨.inl ?_, fun other session held closed => ?_, fun _ => nofun, fun right => right,
    fun _ id held => .inr ⟨held, fun _ => nofun⟩⟩
  · obtain ⟨bound, rfl⟩ := List.getElem?_eq_some_iff.mp standing
    simp only [List.map_set, apply_id]
    rw [← List.getElem_map (fun session : Session σ => session.id) (h := by simpa using bound), List.set_getElem_self]
  · by_cases same : number = other
    · subst same
      rw [List.getElem?_set_self (List.getElem?_eq_some_iff.mp standing).1, Option.some_inj] at held
      subst held
      obtain earlier | rfl := apply_state closed
      · exact .inr ⟨found, standing, earlier⟩
      · exact .inl rfl
    · rw [List.getElem?_set_ne same] at held
      exact .inr ⟨session, held, closed⟩

theorem locks_moves (before : Registry σ) (op : LockOp) :
    Moves (.locks op) before { before with locks := (op.apply before.locks).2 } := by
  refine ⟨.inl rfl, fun _ session found closed => .inr ⟨session, found, closed⟩, fun _ => nofun,
    fun right => (LockTable.apply_keeps right op).1, fun right id held => ?_⟩
  obtain ⟨lockString, rfl, granted⟩ | ⟨earlier, -⟩ := LockTable.held_apply right held
  · exact .inl ⟨lockString, rfl, granted⟩
  · exact .inr ⟨earlier, fun _ => nofun⟩

theorem releaseAll_moves {before : Registry σ} (standing : before.made[number]? = some found) :
    Moves (.releaseAll number) before { before with locks := before.locks.releaseAll found.id } := by
  refine ⟨.inl rfl, fun _ session found closed => .inr ⟨session, found, closed⟩, fun _ same => ?_,
    fun right => (LockTable.apply_keeps right (.releaseAll found.id)).1, fun right id held => .inr ?_⟩
  · cases same
    exact (List.getElem?_eq_some_iff.mp standing).1
  · have still : ((LockOp.releaseAll found.id).apply before.locks).2.held id = true := held
    obtain ⟨_, impossible, -⟩ | ⟨earlier, differs⟩ := LockTable.held_apply right still
    · cases impossible
    · refine ⟨earlier, fun _ same named => differs ?_⟩
      cases same
      rw [List.getElem?_map, standing] at named
      exact congrArg LockOp.releaseAll (Option.some_inj.mp named)

theorem apply_moves (applied : op.apply profile policy outside before = some (reply, after)) :
    Moves op before after := by
  cases op with
  | allocateSession version stream =>
    obtain rfl := congrArg Prod.snd (Option.some_inj.mp applied)
    exact allocateSession_moves before version stream
  | lookup id => cases applied; exact .quiet (fun _ => nofun) rfl rfl
  | unregister number =>
    obtain ⟨found, -, same⟩ := Option.map_eq_some_iff.mp applied
    cases same
    exact .quiet (fun _ => nofun) rfl rfl
  | takeAll =>
    obtain ⟨all, -, same⟩ := Option.bind_eq_some_iff.mp applied
    split at same
    · cases same
      exact .quiet (fun _ => nofun) rfl rfl
    · cases same
  | releaseAll number =>
    obtain ⟨found, standing, same⟩ := Option.map_eq_some_iff.mp applied
    cases same
    exact releaseAll_moves standing
  | session number op =>
    obtain ⟨found, standing, same⟩ := Option.map_eq_some_iff.mp applied
    cases same
    exact session_moves op standing
  | locks op => cases applied; exact locks_moves before op
  | withCancel => cases applied; exact .quiet (fun _ => nofun) rfl rfl
  | cancel operation => cases applied; exact .quiet (fun _ => nofun) rfl rfl
  | count counter => cases applied; exact .quiet (fun _ => nofun) rfl rfl
  | closeStream stream =>
    obtain ⟨_, -, same⟩ := Option.map_eq_some_iff.mp applied
    cases same
    exact .quiet (fun _ => nofun) rfl rfl
  | environment op =>
    obtain rfl := environment_unchanged applied
    exact .quiet (fun _ => nofun) rfl rfl

theorem apply_identifier (applied : op.apply profile policy outside before = some (reply, after)) {id : UInt16}
    (known : (before.made.map (·.id))[number]? = some id) : (after.made.map (·.id))[number]? = some id := by
  obtain same | ⟨new, grown⟩ := (apply_moves applied).identifiers
  · rwa [same]
  · rwa [grown, List.getElem?_append_left (List.getElem?_eq_some_iff.mp known).1]

end Moves

section Runs
variable {σ : Type} {profile : Profile} {policy : ResponsePolicy σ} {before after : Registry σ} {op : ServerOp}
  {system : ServerSystem σ}

theorem Current.append {identifiers : List UInt16} {session : Nat} {id new : UInt16}
    (current : Current identifiers session id) (other : new ≠ id) : Current (identifiers ++ [new]) session id := by
  have bound : session < identifiers.length := (List.getElem?_eq_some_iff.mp current.1).1
  refine ⟨by rw [List.getElem?_append_left bound]; exact current.1, fun member => ?_⟩
  rw [List.drop_append_of_le_length bound, List.mem_append, List.mem_singleton] at member
  obtain later | same := member
  · exact current.2 later
  · exact other same.symm

theorem Current.last (identifiers : List UInt16) (id : UInt16) : Current (identifiers ++ [id]) identifiers.length id :=
  ⟨by simp, by simp⟩

theorem Current.unique {identifiers : List UInt16} {first second : Nat} {id : UInt16}
    (left : Current identifiers first id) (right : Current identifiers second id) : first = second := by
  have ordered : ∀ {earlier later : Nat}, Current identifiers earlier id → Current identifiers later id →
      ¬ earlier < later := by
    intro earlier later one two before
    refine one.2 (List.mem_of_getElem? (i := later - (earlier + 1)) ?_)
    rw [List.getElem?_drop, Nat.add_sub_cancel' before]
    exact two.1
  exact Nat.le_antisymm (Nat.not_lt.mp (ordered right left)) (Nat.not_lt.mp (ordered left right))

private theorem Moves.grows (moves : Moves op before after) : before.made.length ≤ after.made.length := by
  obtain same | ⟨_, same⟩ := moves.identifiers
  · simpa using (congrArg List.length same).ge
  · have longer := congrArg List.length same
    simp only [List.length_map, List.length_append] at longer
    omega

structure Holders (registry : Registry σ) (released : List Nat) : Prop where
  consistent : Consistent registry.locks
  bounded : ∀ number ∈ released, number < registry.made.length
  live : ∀ id, registry.locks.held id = true → Live (registry.made.map (·.id)) released id

/-- A live session stays live until its own teardown; a new session under its
identifier takes over. -/
theorem Live.moves {released later : List Nat} {id : UInt16} (live : Live (before.made.map (·.id)) released id)
    (bounded : ∀ number ∈ released, number < before.made.length) (moves : Moves op before after)
    (same : ∀ number, number ∈ later ↔ op = .releaseAll number ∨ number ∈ released)
    (spared : ∀ number, op = .releaseAll number → (before.made.map (·.id))[number]? ≠ some id) :
    Live (after.made.map (·.id)) later id := by
  obtain ⟨number, -, current, free⟩ := live
  have live_of : ∀ {owner : Nat}, Current (after.made.map (·.id)) owner id → op ≠ .releaseAll owner →
      owner ∉ released → Live (after.made.map (·.id)) later id :=
    fun {owner} latest untouched unreleased =>
      ⟨owner, (List.getElem?_eq_some_iff.mp latest.1).1, latest, fun member =>
        ((same owner).mp member).elim untouched unreleased⟩
  have untouched : op ≠ .releaseAll number := fun release => spared number release current.1
  obtain kept | ⟨new, grown⟩ := moves.identifiers
  · exact live_of (kept ▸ current) untouched free
  by_cases reused : new = id
  · subst reused
    refine live_of (grown ▸ Current.last ..) (fun release => ?_) (fun member => ?_)
    · exact absurd (moves.releases _ release) (by simp)
    · exact absurd (bounded _ member) (by simp)
  · exact live_of (grown ▸ current.append reused) untouched free

theorem Holders.next {released later : List Nat} (holders : Holders before released) (moves : Moves op before after)
    (same : ∀ number, number ∈ later ↔ op = .releaseAll number ∨ number ∈ released)
    (lives : ∀ id lockString, op = .locks (.tryRequest id lockString) →
      (before.locks.tryRequest id lockString).1 = .granted → Live (before.made.map (·.id)) released id) :
    Holders after later := by
  refine ⟨moves.consistent holders.consistent, fun number member => ?_, fun id held => ?_⟩
  · obtain release | earlier := (same number).mp member
    · exact (moves.releases number release).trans_le moves.grows
    · exact (holders.bounded number earlier).trans_le moves.grows
  · obtain ⟨lockString, rfl, granted⟩ | ⟨earlier, spared⟩ := moves.held holders.consistent id held
    · exact (lives id lockString rfl granted).moves holders.bounded moves same fun _ => nofun
    · exact (holders.live id earlier).moves holders.bounded moves same spared

theorem Holders.step {τ α : Type} {program : τ → ServerProgram α} {system later : System τ σ α} {move : Move τ Outside}
    (holders : Holders system.shared system.released) (lives : system.GrantsToLive move)
    (moved : system.step (fun op outside => op.apply profile policy outside) program move = some later) :
    Holders later.shared later.released := by
  obtain ⟨_, -, -, same, history⟩ | ⟨_, _, _, _, op, next, reply, rfl, running, applied, -, history⟩ :=
    Chronicle.step_cases moved
  · have kept : ∀ number, number ∈ later.released ↔ number ∈ system.released := fun number => by
      rw [System.mem_released, System.mem_released, history]
    rw [same]
    refine ⟨holders.consistent, fun number member => holders.bounded number ((kept number).mp member), fun id held => ?_⟩
    obtain ⟨number, bound, current, free⟩ := holders.live id held
    exact ⟨number, bound, current, mt (kept number).mp free⟩
  · refine holders.next (apply_moves applied) (fun number => ?_) fun id lockString same granted => ?_
    · rw [System.mem_released, System.mem_released, history]
    · subst same
      refine lives _ running id ?_
      simp [grants, granted]

theorem holders_empty : Holders ({} : Registry σ) [] := ⟨LockTable.consistent_zero, fun _ => nofun, fun _ => nofun⟩

theorem task_closes (profile : Profile) (task : Task) : Closes (fun op _ => releases op) (task.program profile) [] := by
  have ignored {α : Type} {program : ServerProgram α} (closes : Closes (fun op _ => releases op) program []) :
      Closes (fun op _ => releases op) (ignore program) [] := Follows.bind closes fun _ _ _ => trivial
  cases task with
  | initializeRequest header subAddress stream => exact ignored (closes_initializeRequest ..)
  | asyncInitialize header stream => exact ignored (closes_asyncInitialize ..)
  | lock session header lockString fuel =>
    exact ignored (closes_ofLoop session ((lock_within header lockString fuel).within.lasting (by decide)) _)
  | handleSync session message fuel => exact ignored (closes_ofLoop session (handleSync_lasting ..) _)
  | handleAsync session message fuel => exact ignored (closes_ofLoop session (handleAsync_lasting ..) _)
  | removeSession session => exact ignored (closes_removeSession session fun _ _ => List.mem_cons_self)
  | closeAll =>
    exact ignored (closes_perform (fun _ => nofun) fun all =>
      closes_closeEach all none _ fun _ _ _ => List.mem_cons_self)

/-- The locks of a closed session were released by a call that has marked it. -/
def Marked (registry : Registry σ) (phases : List (Task × List Nat)) : Prop :=
  ∀ (number : Nat) (session : Session σ), registry.made[number]? = some session → session.state = .closed →
    ∃ entry ∈ phases, number ∈ entry.2

theorem Marked.advance {registry after : Registry σ} {phases : List (Task × List Nat)} {index : Nat} {task : Task}
    {done : List Nat} {reply : op.Reply} (marked : Marked registry phases)
    (listed : phases[index]? = some (task, done)) (allowed : (closing fun op _ => releases op).allowed done op)
    (applied : op.apply profile policy outside registry = some (reply, after)) :
    Marked after (phases.set index (task, releases op ++ done)) := by
  intro number session found closed
  obtain closes | ⟨earlier, standing, already⟩ := (apply_moves applied).closed number session found closed
  · exact exists_set_new listed (List.mem_append_right _ (allowed number closes))
  · exact exists_set listed (marked number earlier standing already) (fun _ still => still)
      fun inside => List.mem_append_right _ inside

theorem always_marked (profile : Profile) (policy : ResponsePolicy σ) (actions : List (Move Task Outside)) :
    Always (ServerSystem.step profile policy)
      (Chronicle.Lawful (closing fun op _ => releases op) (fun _ _ => True) (fun _ => []) Marked) actions { shared := {} } :=
  Chronicle.always_lawful (task_closes profile) (fun _ _ => nofun)
    (fun _ _ _ marked number session found closed => exists_concat (marked number session found closed) _)
    (fun _ _ _ _ _ _ _ _ _ marked listed allowed applied => ⟨trivial, marked.advance listed allowed applied⟩) actions

theorem Marked.released
    (lawful : system.Lawful (closing fun op _ => releases op) (fun _ _ => True) (fun _ => []) Marked) {number : Nat}
    {session : Session σ} (found : system.shared.made[number]? = some session) (closed : session.state = .closed) :
    number ∈ system.released := by
  obtain ⟨entry, listed, member⟩ := lawful.account number session found closed
  obtain ⟨thread, present, rfl⟩ := List.mem_map.mp listed
  obtain impossible | ⟨event, performed, marks⟩ := mem_after_closing.mp member
  · cases impossible
  · exact List.mem_flatMap.mpr ⟨thread, present, List.mem_flatMap.mpr ⟨event, performed, marks⟩⟩

theorem Holders.noLockOutlives (holders : Holders system.shared system.released)
    (lawful : system.Lawful (closing fun op _ => releases op) (fun _ _ => True) (fun _ => []) Marked) :
    system.NoLockOutlives := by
  intro number session found closed current
  by_contra held
  obtain ⟨owner, -, latest, free⟩ := holders.live session.id (by simpa using held)
  exact free (latest.unique current ▸ Marked.released lawful found closed)

end Runs

def closing : Outside
  | .closeStream _ => some none
  | _ => none

def opening : List (Move Task Outside) :=
  [.start (.initializeRequest { type := .initializeRequest, parameter := 0x01000000 } [] 0), .advance 0 closing,
    .start (.asyncInitialize { type := .asyncInitialize, parameter := 1 } 1), .advance 1 closing, .advance 1 closing,
    .start (.lock 0 { type := .asyncLock, control := 1 } [] 0), .advance 2 closing, .advance 2 closing]

def tearingDown : List (Move Task Outside) := .start (.removeSession 0) :: List.replicate 5 (.advance 3 closing)

/-- In every run of the server in which locks are granted only to sessions whose
teardown is still ahead, no lock outlives its session. -/
theorem no_lock_outlives {σ : Type} (profile : Profile) (policy : ResponsePolicy σ) (actions : List (Move Task Outside))
    (lives : Throughout (ServerSystem.step profile policy) System.GrantsToLive actions { shared := {} }) :
    Always (ServerSystem.step profile policy) System.NoLockOutlives actions { shared := {} } := by
  have holders := always_of_invariant (fun (system : ServerSystem σ) held => held)
    (fun _ _ _ (held : Holders _ _) lives moved => held.step lives moved) holders_empty lives
  exact ((always_marked profile policy actions).and holders).mono fun _ both => both.2.noLockOutlives both.1

theorem no_lock_outlives_granted_first :
    Throughout (ServerSystem.step Profile.standard scpiQueryPolicy) System.GrantsToLive
        (opening ++ .advance 2 closing :: tearingDown) { shared := {} } ∧
      Always (ServerSystem.step Profile.standard scpiQueryPolicy) System.NoLockOutlives
        (opening ++ .advance 2 closing :: tearingDown) { shared := {} } :=
  ⟨by decide +kernel, no_lock_outlives _ _ _ (by decide +kernel)⟩

/-- The teardown runs between the reading of the identifier and the attempt: the
session is gone and its identifier holds the exclusive lock. -/
theorem lock_outlives_session : ∃ system session,
    finish (ServerSystem.step Profile.standard scpiQueryPolicy) (opening ++ tearingDown ++ [.advance 2 closing])
        { shared := {} } = some system ∧
      system.threads[3]?.map (·.returned) = some true ∧ system.shared.made[0]? = some session ∧
      session.state = .closed ∧ Current (System.identifiers system) 0 session.id ∧
      system.shared.locks.held session.id = true :=
  ⟨_, _, rfl, rfl, rfl, rfl, by decide, by decide⟩

end Hislip.Proofs.LockLifetime
