import Hislip.Discipline
import Hislip.Transition
import Hislip.Server.Locks

/-! Any number of lock requests against one lock manager, interleaved at their
critical sections. A change of the lock state closes the change channel, so a
waiter that registered in time is always woken; registering is a critical section
of its own, and that is the only place where a wake-up can be lost. -/

namespace Hislip.Proofs.LockWakeup
open Hislip.Server Transition

structure Requester where
  id : UInt16
  lockString : Bytes
  program : RequestProgram LockResult

/-- If the requester is blocked on an open channel, an attempt now would fail. -/
def Refused (manager : LockManager) (requester : Requester) : Prop :=
  ∀ channel next, requester.program = .request (.select channel) next → channel ∉ manager.closed →
    (manager.tryRequest requester.id requester.lockString).1 = .failure

structure LockSystem where
  manager : LockManager := {}
  requesters : List Requester := []

/-- `operation` is a call of another method of the manager by any session. -/
inductive LockAction where
  | call (id : UInt16) (lockString : Bytes) (timeout : UInt32) (fuel : Nat)
  | advance (index : Nat) (wake : Wake) (left : Bool)
  | operation (op : LockOp) (entry : op ≠ .waiter)

namespace LockSystem

def resume (system : LockSystem) (index : Nat) (requester : Requester) (program : RequestProgram LockResult) :
    LockSystem :=
  { system with requesters := system.requesters.set index { requester with program } }

/-- A wait ends by a change only when its channel is closed; the timer and the
context may end it at any moment. -/
def step (system : LockSystem) : LockAction → Option LockSystem
  | .call id lockString timeout fuel =>
    some { system with
      requesters := system.requesters ++ [⟨id, lockString, LockManager.request id lockString timeout fuel⟩] }
  | .operation op _ => some { system with manager := (op.apply system.manager).2 }
  | .advance index wake left =>
    match system.requesters[index]? with
    | none => none
    | some requester =>
      match requester.program with
      | .pure _ => none
      | .request (.locks op) next =>
        some { system.resume index requester (next (op.apply system.manager).1) with
          manager := (op.apply system.manager).2 }
      | .request (.select channel) next =>
        if wake = .changed ∧ channel ∉ system.manager.closed then none
        else some (system.resume index requester (next wake))
      | .request .remaining next => some (system.resume index requester (next left))
      | .request .exhausted _ => none

def NoLostWakeup (system : LockSystem) : Prop := ∀ requester ∈ system.requesters, Refused system.manager requester

/-- A requester that is about to obtain the change channel is still refused: no
release fell between its failed attempt and now. -/
def RegistersInTime (system : LockSystem) : LockAction → Prop
  | .advance index _ _ =>
    ∀ requester next, system.requesters[index]? = some requester →
      requester.program = .request (.locks .waiter) next →
        (system.manager.tryRequest requester.id requester.lockString).1 = .failure
  | _ => True

end LockSystem

/-- The answer to a request depends on who holds which lock and on nothing else. -/
private theorem tryRequest_congr {first second : LockManager} (exclusive : first.exclusive = second.exclusive)
    (hasExclusive : first.hasExclusive = second.hasExclusive) (key : first.key = second.key)
    (shared : first.shared = second.shared) (id : UInt16) (lockString : Bytes) :
    (first.tryRequest id lockString).1 = (second.tryRequest id lockString).1 := by
  have sharers : first.sharers = second.sharers := by simp only [LockManager.sharers, shared]
  have sharedBy : first.sharedBy id = second.sharedBy id := by simp only [LockManager.sharedBy, shared]
  unfold LockManager.tryRequest
  by_cases empty : lockString = []
  · simp only [empty, if_true, LockManager.tryExclusiveLocked, sharers, sharedBy, exclusive, hasExclusive]
    repeat' split
    all_goals rfl
  · simp only [empty, if_false, LockManager.trySharedLocked, sharers, sharedBy, exclusive, hasExclusive, key]
    repeat' split
    all_goals rfl

/-- The channel that was current is closed and none is current now. -/
structure Notified (before after : LockManager) : Prop where
  current : after.changed = none
  made : after.made = before.made
  closed : ∀ channel, before.changed = some channel → after.closed = channel :: before.closed
  kept : before.changed = none → after.closed = before.closed

private theorem notify_notifies {before after : LockManager} (changed : after.changed = before.changed)
    (made : after.made = before.made) (closed : after.closed = before.closed) : Notified before after.notifyLocked := by
  unfold LockManager.notifyLocked
  cases found : after.changed with
  | none =>
    rw [found] at changed
    refine ⟨found, made, fun channel current => ?_, fun _ => closed⟩
    rw [← changed] at current
    cases current
  | some channel =>
    rw [found] at changed
    refine ⟨rfl, made, fun current same => ?_, fun none => by rw [← changed] at none; cases none⟩
    rw [← changed] at same
    cases same
    rw [closed]

/-- Every critical section but the registration of a waiter either changes
nothing or notifies. -/
theorem quiet_or_notified (op : LockOp) (entry : op ≠ .waiter) (manager : LockManager) :
    (op.apply manager).2 = manager ∨ Notified manager (op.apply manager).2 := by
  cases op with
  | waiter => exact absurd rfl entry
  | info => exact .inl rfl
  | tryRequest id lockString =>
    simp only [LockOp.apply, LockManager.tryRequest, LockManager.tryExclusiveLocked, LockManager.trySharedLocked]
    split_ifs <;> first | exact .inl rfl | exact .inr (notify_notifies rfl rfl rfl)
  | release id =>
    simp only [LockOp.apply, LockManager.release]
    split_ifs <;> first | exact .inl rfl | exact .inr (notify_notifies rfl rfl rfl)
  | releaseAll id =>
    simp only [LockOp.apply, LockManager.releaseAll]
    split_ifs <;> first | exact .inl rfl | exact .inr (notify_notifies rfl rfl rfl)

theorem waiterLocked_registers (manager : LockManager) :
    manager.waiterLocked.2.changed = some manager.waiterLocked.1 ∧
      manager.waiterLocked.2.closed = manager.closed := by
  unfold LockManager.waiterLocked
  cases found : manager.changed with
  | none => exact ⟨rfl, rfl⟩
  | some channel => exact ⟨found, rfl⟩

private theorem waiterLocked_tryRequest (manager : LockManager) (id : UInt16) (lockString : Bytes) :
    (manager.waiterLocked.2.tryRequest id lockString).1 = (manager.tryRequest id lockString).1 := by
  unfold LockManager.waiterLocked
  cases manager.changed with
  | none => exact tryRequest_congr (by rfl) (by rfl) (by rfl) (by rfl) id lockString
  | some channel => rfl

/-- No channel is closed before it is made, and the current one is open. -/
structure Fresh (manager : LockManager) : Prop where
  current : ∀ channel, manager.changed = some channel → channel < manager.made ∧ channel ∉ manager.closed
  closed : ∀ channel ∈ manager.closed, channel < manager.made

variable {manager : LockManager}

theorem Fresh.apply (fresh : Fresh manager) (op : LockOp) : Fresh (op.apply manager).2 := by
  by_cases entry : op = .waiter
  · subst entry
    simp only [LockOp.apply, LockManager.waiterLocked]
    cases found : manager.changed with
    | none =>
      refine ⟨fun channel current => ?_, fun channel member => Nat.lt_succ_of_lt (fresh.closed channel member)⟩
      cases current
      exact ⟨Nat.lt_succ_self _, fun member => Nat.lt_irrefl _ (fresh.closed _ member)⟩
    | some channel => exact fresh
  · obtain same | notified := quiet_or_notified op entry manager
    · rwa [same]
    · refine ⟨fun channel current => ?_, fun channel member => ?_⟩
      · rw [notified.current] at current
        cases current
      · rw [notified.made]
        cases found : manager.changed with
        | none => exact fresh.closed channel (notified.kept found ▸ member)
        | some current =>
          rw [notified.closed current found, List.mem_cons] at member
          obtain rfl | earlier := member
          · exact (fresh.current _ found).1
          · exact fresh.closed channel earlier

/-- The channel has been handed out: it is the current one, or closed by now. -/
def Registered (manager : LockManager) (channel : Nat) : Prop :=
  channel ∈ manager.closed ∨ manager.changed = some channel

theorem Registered.apply {channel : Nat} (registered : Registered manager channel) (op : LockOp) :
    Registered (op.apply manager).2 channel := by
  by_cases entry : op = .waiter
  · subst entry
    simp only [LockOp.apply]
    obtain closed | current := registered
    · exact .inl ((waiterLocked_registers manager).2 ▸ closed)
    · refine .inr ?_
      unfold LockManager.waiterLocked
      rw [current]
      exact current
  · obtain same | notified := quiet_or_notified op entry manager
    · rwa [same]
    · refine .inl ?_
      obtain closed | current := registered
      · cases found : manager.changed with
        | none => rwa [notified.kept found]
        | some other =>
          rw [notified.closed other found]
          exact List.mem_cons_of_mem _ closed
      · rw [notified.closed channel current]
        exact List.mem_cons_self

/-- A request holds a channel only between obtaining it and waiting on it. -/
inductive RequestPhase where
  | active
  | registered (channel : Nat)

def requestDiscipline : Discipline RequestOp RequestOp.Reply RequestPhase where
  allowed
    | .active, op => ∀ channel, op ≠ .select channel
    | .registered channel, op => op = .select channel
  advance
    | .active, .locks .waiter, channel => .registered channel
    | _, _, _ => .active

/-- What is left of a request keeps the discipline and returns holding no channel. -/
abbrev Keeps (program : RequestProgram LockResult) (phase : RequestPhase) : Prop :=
  program.Follows requestDiscipline (fun _ final => final = .active) phase

private theorem tryRequest_keeps {id : UInt16} {lockString : Bytes} {next : LockResult → RequestProgram LockResult}
    (resume : ∀ result, Keeps (next result) .active) :
    Keeps (RequestProgram.tryRequest id lockString >>= next) .active :=
  ⟨fun _ same => (nomatch same), fun result _ => resume result⟩

theorem requestLoop_keeps (id : UInt16) (lockString : Bytes) (fuel : Nat) :
    Keeps (LockManager.requestLoop id lockString fuel) .active := by
  induction fuel with
  | zero => exact ⟨fun _ same => (nomatch same), fun reply => nomatch reply⟩
  | succ fuel ih =>
    refine ⟨fun _ same => (nomatch same), fun channel _ => ⟨rfl, fun wake _ => ?_⟩⟩
    cases wake with
    | timer => rfl
    | done => rfl
    | changed =>
      refine tryRequest_keeps fun result => ?_
      cases result with
      | granted => rfl
      | releasedShared => rfl
      | error => rfl
      | failure =>
        refine ⟨fun _ same => (nomatch same), fun left _ => ?_⟩
        cases left with
        | false => rfl
        | true => exact ih

theorem request_keeps (id : UInt16) (lockString : Bytes) (timeout : UInt32) (fuel : Nat) :
    Keeps (LockManager.request id lockString timeout fuel) .active := by
  refine tryRequest_keeps fun result => ?_
  cases result with
  | granted => rfl
  | releasedShared => rfl
  | error => rfl
  | failure =>
    by_cases immediate : timeout = 0
    · simp only [immediate, if_true]
      rfl
    · simp only [immediate, if_false]
      exact requestLoop_keeps id lockString fuel

/-- A requester keeps the discipline, and a channel it holds was handed out. -/
def Tracked (manager : LockManager) (requester : Requester) : Prop :=
  ∃ phase, Keeps requester.program phase ∧
    ∀ channel, phase = .registered channel → Registered manager channel

variable {requester : Requester}

theorem Tracked.waits (tracked : Tracked manager requester) {channel : Nat} {next : Wake → RequestProgram LockResult}
    (waits : requester.program = .request (.select channel) next) : Registered manager channel := by
  obtain ⟨phase, keeps, registered⟩ := tracked
  rw [waits] at keeps
  cases phase with
  | active => exact absurd rfl (keeps.1 channel)
  | registered other =>
    cases keeps.1
    exact registered channel rfl

theorem Tracked.apply (tracked : Tracked manager requester) (op : LockOp) : Tracked (op.apply manager).2 requester := by
  obtain ⟨phase, keeps, registered⟩ := tracked
  exact ⟨phase, keeps, fun channel same => (registered channel same).apply op⟩

theorem Refused.apply (refused : Refused manager requester) (tracked : Tracked manager requester) (op : LockOp) :
    Refused (op.apply manager).2 requester := by
  intro channel next waits isOpen
  by_cases entry : op = .waiter
  · subst entry
    simp only [LockOp.apply] at isOpen ⊢
    rw [(waiterLocked_registers manager).2] at isOpen
    rw [waiterLocked_tryRequest]
    exact refused channel next waits isOpen
  · obtain same | notified := quiet_or_notified op entry manager
    · rw [same] at isOpen ⊢
      exact refused channel next waits isOpen
    · obtain closed | current := (tracked.waits waits).apply op
      · exact absurd closed isOpen
      · rw [notified.current] at current
        cases current

theorem refused_of_active (keeps : Keeps requester.program .active) : Refused manager requester := by
  intro channel next waits _
  rw [waits] at keeps
  exact absurd rfl (keeps.1 channel)

theorem tracked_of_active (keeps : Keeps requester.program .active) :
    Tracked manager requester := ⟨.active, keeps, fun _ same => nomatch same⟩

theorem Tracked.resumes (tracked : Tracked manager requester) {op : RequestOp}
    {next : op.Reply → RequestProgram LockResult} (standing : requester.program = .request op next)
    (other : op ≠ .locks .waiter) (reply : op.Reply) : Keeps (next reply) .active := by
  obtain ⟨phase, keeps, -⟩ := tracked
  rw [standing] at keeps
  have following := keeps.2 reply trivial
  cases phase with
  | registered channel => exact following
  | active =>
    cases op with
    | select _ => exact following
    | remaining => exact following
    | exhausted => exact following
    | locks entered =>
      cases entered with
      | waiter => exact absurd rfl other
      | _ => exact following

theorem Tracked.registers (tracked : Tracked manager requester) {next : Nat → RequestProgram LockResult}
    (standing : requester.program = .request (.locks .waiter) next) (channel : Nat) :
    Keeps (next channel) (.registered channel) ∧
      ∃ rest, next channel = .request (.select channel) rest := by
  obtain ⟨phase, keeps, -⟩ := tracked
  rw [standing] at keeps
  cases phase with
  | registered other => exact nomatch keeps.1
  | active =>
    have following : Keeps (next channel) (.registered channel) := keeps.2 channel trivial
    refine ⟨following, ?_⟩
    cases program : next channel with
    | pure result => rw [program] at following; exact nomatch following
    | request op rest =>
      rw [program] at following
      cases following.1
      exact ⟨rest, rfl⟩

namespace LockSystem

structure Sound (system : LockSystem) : Prop where
  fresh : Fresh system.manager
  tracked : ∀ requester ∈ system.requesters, Tracked system.manager requester

variable {system after : LockSystem}

private theorem advance_cases {index : Nat} {wake : Wake} {left : Bool}
    (moved : system.step (.advance index wake left) = some after) :
    ∃ requester, system.requesters[index]? = some requester ∧
      ((∃ op next, requester.program = .request (.locks op) next ∧
          after = { system.resume index requester (next (op.apply system.manager).1) with
            manager := (op.apply system.manager).2 }) ∨
        ∃ op next reply, (∀ entered, op ≠ .locks entered) ∧ requester.program = .request op next ∧
          after = system.resume index requester (next reply)) := by
  simp only [step] at moved
  cases found : system.requesters[index]? with
  | none => simp only [found] at moved; cases moved
  | some requester =>
    refine ⟨requester, rfl, ?_⟩
    simp only [found] at moved
    cases program : requester.program with
    | pure result => simp only [program] at moved; cases moved
    | request op next =>
      simp only [program] at moved
      cases op with
      | locks op =>
        simp only [Option.some.injEq] at moved
        exact .inl ⟨op, next, rfl, moved.symm⟩
      | select channel =>
        simp only at moved
        split at moved
        · cases moved
        · simp only [Option.some.injEq] at moved
          exact .inr ⟨_, next, wake, fun _ same => (nomatch same), rfl, moved.symm⟩
      | remaining =>
        simp only [Option.some.injEq] at moved
        exact .inr ⟨_, next, left, fun _ same => (nomatch same), rfl, moved.symm⟩
      | exhausted => cases moved

private theorem forall_resume {property : Requester → Prop} {system : LockSystem} {index : Nat}
    {requester : Requester} {program : RequestProgram LockResult}
    (all : ∀ requester ∈ system.requesters, property requester) (changed : property { requester with program }) :
    ∀ other ∈ (system.resume index requester program).requesters, property other := by
  intro other member
  obtain kept | rfl := List.mem_or_eq_of_mem_set member
  · exact all other kept
  · exact changed

theorem Sound.step (sound : system.Sound) {action : LockAction} (moved : system.step action = some after) :
    after.Sound := by
  cases action with
  | call id lockString timeout fuel =>
    cases moved
    refine ⟨sound.fresh, fun requester member => ?_⟩
    obtain earlier | new := List.mem_append.mp member
    · exact sound.tracked requester earlier
    · cases List.mem_singleton.mp new
      exact tracked_of_active (request_keeps id lockString timeout fuel)
  | operation op entry =>
    cases moved
    exact ⟨sound.fresh.apply op, fun requester member => (sound.tracked requester member).apply op⟩
  | advance index wake left =>
    obtain ⟨requester, found, ⟨op, next, standing, rfl⟩ | ⟨op, next, reply, other, standing, rfl⟩⟩ :=
      advance_cases moved
    · have tracked := sound.tracked requester (List.mem_of_getElem? found)
      refine ⟨sound.fresh.apply op,
        forall_resume (fun requester member => (sound.tracked requester member).apply op) ?_⟩
      by_cases entry : op = .waiter
      · subst entry
        refine ⟨_, (tracked.registers standing _).1, fun channel same => ?_⟩
        cases same
        exact .inr (waiterLocked_registers system.manager).1
      · exact tracked_of_active (tracked.resumes standing (fun same => entry (by cases same; rfl)) _)
    · have tracked := sound.tracked requester (List.mem_of_getElem? found)
      exact ⟨sound.fresh, forall_resume sound.tracked (tracked_of_active (tracked.resumes standing (other _) reply))⟩

theorem NoLostWakeup.step (holds : system.NoLostWakeup) (sound : system.Sound) {action : LockAction}
    (inTime : system.RegistersInTime action) (moved : system.step action = some after) : after.NoLostWakeup := by
  cases action with
  | call id lockString timeout fuel =>
    cases moved
    intro requester member
    obtain earlier | new := List.mem_append.mp member
    · exact holds requester earlier
    · cases List.mem_singleton.mp new
      exact refused_of_active (request_keeps id lockString timeout fuel)
  | operation op entry =>
    cases moved
    exact fun requester member => (holds requester member).apply (sound.tracked requester member) op
  | advance index wake left =>
    obtain ⟨requester, found, ⟨op, next, standing, rfl⟩ | ⟨op, next, reply, other, standing, rfl⟩⟩ :=
      advance_cases moved
    · have tracked := sound.tracked requester (List.mem_of_getElem? found)
      refine forall_resume (fun other member => (holds other member).apply (sound.tracked other member) op) ?_
      by_cases entry : op = .waiter
      · subst entry
        intro _ _ _ _
        exact (waiterLocked_tryRequest _ _ _).trans (inTime requester next found standing)
      · exact refused_of_active (tracked.resumes standing (fun same => entry (by cases same; rfl)) _)
    · have tracked := sound.tracked requester (List.mem_of_getElem? found)
      exact forall_resume holds (refused_of_active (tracked.resumes standing (other _) reply))

private theorem registersInTime_of_noLostWakeup (sound : system.Sound) {action : LockAction}
    (moved : system.step action = some after) (holds : after.NoLostWakeup) : system.RegistersInTime action := by
  cases action with
  | call => trivial
  | operation => trivial
  | advance index wake left =>
    intro requester next found standing
    have tracked := sound.tracked requester (List.mem_of_getElem? found)
    obtain ⟨rest, waits⟩ := (tracked.registers standing (system.manager.waiterLocked.1)).2
    obtain ⟨requester', found', ⟨op, next', standing', rfl⟩ | ⟨op, next', reply, other, standing', -⟩⟩ :=
      advance_cases moved
    · cases found.symm.trans found'
      cases standing.symm.trans standing'
      have registered := waiterLocked_registers system.manager
      have refused := holds { requester with program := next system.manager.waiterLocked.1 }
        (List.mem_set (List.getElem?_eq_some_iff.mp found).1 _) _ rest waits
        ((sound.fresh.apply .waiter).current _ registered.1).2
      exact (waiterLocked_tryRequest _ _ _).symm.trans refused
    · cases found.symm.trans found'
      cases standing.symm.trans standing'
      exact absurd rfl (other _)

end LockSystem

theorem initial_sound : LockSystem.Sound {} :=
  ⟨⟨fun _ current => (nomatch current), fun _ member => (nomatch member)⟩, fun _ member => (nomatch member)⟩

/-- In a run of any length, no wake-up is lost exactly when every waiter obtained
the change channel while the lock it wants was still unavailable. -/
theorem no_lost_wakeup_iff (actions : List LockAction) :
    Always LockSystem.step LockSystem.NoLostWakeup actions {} ↔
      Throughout LockSystem.step LockSystem.RegistersInTime actions {} := by
  constructor
  · exact throughout_of_always (fun _ _ _ sound _ moved => sound.step moved)
      (fun _ _ _ sound _ moved holds => LockSystem.registersInTime_of_noLostWakeup sound moved holds) initial_sound
  · exact always_of_invariant (fun (system : LockSystem) (holds : system.Sound ∧ system.NoLostWakeup) => holds.2)
      (fun _ _ _ holds inTime moved => ⟨holds.1.step moved, holds.2.step holds.1 inTime moved⟩)
      ⟨initial_sound, fun _ member => nomatch member⟩

/-- Session 1 releases between the failed first attempt of session 2 and its
registration: session 2 waits on an open channel for a lock that is free. -/
theorem lost_wakeup :
    ∃ system requester next,
      finish LockSystem.step
          [.call 1 [] 0 0, .advance 0 .done false, .call 2 [] 1000 1, .advance 1 .done false,
            .operation (.release 1) (by decide), .advance 1 .done false] {} = some system ∧
        requester ∈ system.requesters ∧ requester.program = .request (.select 0) next ∧
        0 ∉ system.manager.closed ∧
        (system.manager.tryRequest requester.id requester.lockString).1 = .granted := by
  refine ⟨_, _, _, rfl, List.mem_cons_of_mem _ List.mem_cons_self, rfl, ?_, ?_⟩
  · decide
  · decide

end Hislip.Proofs.LockWakeup
