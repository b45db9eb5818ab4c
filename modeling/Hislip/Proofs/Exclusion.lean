import Hislip.Chronicle
import Hislip.Simulation
import Hislip.Server.Channels
import Hislip.Proofs.LockLifetime
import Hislip.Proofs.Readiness
import Hislip.Proofs.Serving

/-! What a lock keeps from the other sessions. The data path never looks at the lock
manager: all that stands between a message and the device are the checks up to its
transaction. So the device is kept from a session exactly as far as no message of it passes
them while a lock stands against the session. -/

namespace Hislip.Proofs.Exclusion
open Hislip.Server Hislip.Threads Transition Program Footprint
open Readiness (obliging)
open Serving (concerns)

/-- A connection is served until its loop waits, and every message that a loop finds is
a task of its own. -/
inductive Task where
  | connect (header : Header) (subAddress : Except Err Bytes) (stream : Stream)
  | join (header : Header) (stream : Stream)
  | sync (session : Nat) (message : Message) (fuel : Nat)
  | async (session : Nat) (message : Message) (fuel : Nat)
  | removeSession (session : Nat)
  | closeAll

namespace Task

def program (profile : Profile) : Task → ServerProgram (Option Err)
  | .connect header subAddress stream => ServerProgram.serveSyncChannel profile header subAddress stream 0 []
  | .join header stream => ServerProgram.serveAsyncChannel profile header stream 0 []
  | .sync session message fuel => .ofLoop session (handleSync profile.toConfig message fuel)
  | .async session message fuel => .ofLoop session (handleAsync profile.toConfig message fuel)
  | .removeSession session => ServerProgram.removeSession session
  | .closeAll => ServerProgram.closeAll

/-- The session whose Data, DataEnd or Trigger message the task handles. -/
def carries : Task → Option Nat
  | .sync session message _ =>
    if message.header.type = .data ∨ message.header.type = .dataEnd ∨ message.header.type = .trigger then some session
    else none
  | _ => none

end Task

variable {σ : Type}

abbrev Traffic (σ : Type) : Type := Chronicle Task (Registry σ) ServerOp.Reply (Option Err)

def Traffic.step (profile : Profile) (policy : ResponsePolicy σ) : Traffic σ → Move Task Outside → Option (Traffic σ) :=
  Chronicle.step (fun op outside => op.apply profile policy outside) (Task.program profile)

/-- A lock stands against a session: another one holds the exclusive lock, or the shared
lock is held and not by this session. -/
def Bars (manager : LockManager) (id : UInt16) : Prop :=
  (manager.hasExclusive = true ∧ manager.exclusive ≠ id) ∨ (0 < manager.sharers ∧ manager.sharedBy id = false)

instance (manager : LockManager) (id : UInt16) : Decidable (Bars manager id) := inferInstanceAs (Decidable (_ ∨ _))

def Admitted (registry : Registry σ) (number : Nat) : Prop :=
  ∃ session ∈ registry.made[number]?, ¬ Bars registry.locks session.id

def calls : EnvironmentOp → Bool
  | .write _ _ _ | .read _ _ | .trigger _ => true
  | _ => false

def deviceCall : ServerOp → Bool
  | .environment op => calls op
  | _ => false

/-- No message of a session calls the device while a lock stands against the session. -/
def Excludes (traffic : Traffic σ) : Prop :=
  ∀ thread ∈ traffic.threads, ∀ number, thread.task.carries = some number →
    ∀ op, thread.rest.head = some op → deviceCall op = true →
      ∀ session, traffic.shared.made[number]? = some session → ¬ Bars traffic.shared.locks session.id

/-- `BeginInput` or `CompleteInput` returned without an error. -/
def admits : (op : SessionOp) → op.Reply → Bool
  | .tx .beginInput, reply => Option.isNone reply
  | .tx (.completeInput _), reply => Option.isNone reply
  | _, _ => false

def takes : (op : ServerOp) → op.Reply → Bool
  | .session _ op, reply => admits op reply
  | _, _ => false

def taken (thread : Thread Task ServerOp.Reply (Option Err)) : Bool :=
  thread.past.any fun event => takes event.operation event.reply

/-- The transaction of the session takes input by the operation. -/
def Admits (session : Session σ) : ServerOp → Bool
  | .session _ (.tx .beginInput) => (TxOp.beginInput.apply session.tx).1.isNone
  | .session _ (.tx (.completeInput id)) => ((TxOp.completeInput id).apply session.tx).1.isNone
  | _ => false

/-- The operation makes a lock stand against the session: another one is granted a lock
that it does not share, or it gives up its own share. -/
def disturbs (registry : Registry σ) (id : UInt16) : ServerOp → Bool
  | .locks (.tryRequest other lockString) => (registry.locks.tryRequest other lockString).1 = .granted ∧ id ≠ other ∧
      (lockString = [] ∨ registry.locks.sharedBy id = false)
  | .locks (.release other) => (registry.locks.release other).1 = .releasedShared ∧ id = other
  | .locks (.releaseAll other) => registry.locks.sharedBy id ∧ id = other
  | .releaseAll number => registry.locks.sharedBy id ∧ registry.made[number]?.map (·.id) = some id
  | _ => false

/-- No lock stands against the session of a message whose input its transaction takes. -/
def Considerate (traffic : Traffic σ) : Move Task Outside → Prop
  | .start _ => True
  | .advance thread _ => ∀ running ∈ traffic.threads[thread]?, taken running = false →
      ∀ number ∈ running.task.carries, ∀ op ∈ running.rest.head, ∀ session ∈ traffic.shared.made[number]?,
        Admits session op = true → ¬ Bars traffic.shared.locks session.id

/-- None comes to stand against it from then on until the message has been handled. -/
def Undisturbed (traffic : Traffic σ) : Move Task Outside → Prop
  | .start _ => True
  | .advance thread _ => ∀ running ∈ traffic.threads[thread]?, ∀ op ∈ running.rest.head,
      ∀ other ∈ traffic.threads, other.returned = false → taken other = true → ∀ number ∈ other.task.carries,
        ∀ session ∈ traffic.shared.made[number]?, disturbs traffic.shared session.id op = false

instance (traffic : Traffic σ) : (move : Move Task Outside) → Decidable (Considerate traffic move)
  | .start _ => isTrue trivial
  | .advance _ _ => inferInstanceAs (Decidable (∀ running ∈ _, _))

instance (traffic : Traffic σ) : (move : Move Task Outside) → Decidable (Undisturbed traffic move)
  | .start _ => isTrue trivial
  | .advance _ _ => inferInstanceAs (Decidable (∀ running ∈ _, _))

section Unnoticed
variable {δ : Type} {policy : ResponsePolicy σ} {environment : Environment δ}

def SameButLocks (left right : World σ δ) : Prop := ∃ locks, right = { left with shared := { left.shared with locks } }

/-- The data path never looks at the lock manager: a message is handled, with the same
calls to the device, whoever holds which locks. -/
theorem handleSync_ignores_locks (config : Config) (message : Message) (fuel : Nat) :
    Agrees (handler policy environment) SameButLocks (handleSync config message fuel) fun _ => True := by
  have avoids : Avoids (fun op => kind op = .lock) (handleSync config message fuel) := by
    refine (handleSync_within config message fuel).avoids fun op member => decide_eq_false fun lock => ?_
    rw [lock] at member
    exact absurd member (by decide)
  refine avoids.agrees fun op left right other same => ?_
  obtain ⟨locks, rfl⟩ := same
  cases op with
  | environment op => exact ⟨rfl, locks, rfl⟩
  | shared op =>
    cases op with
    | locks op => cases other
    | _ => exact ⟨rfl, locks, rfl⟩

end Unnoticed

section Admission

inductive Stage where
  | waiting | admitted | calling
  deriving DecidableEq

namespace Stage

/-- The first call to the device comes right after the input was taken. -/
def allows : Stage → EnvironmentOp → Prop
  | .waiting, op => calls op = false
  | .admitted, op => calls op = true
  | .calling, _ => True

def next : Stage → Bool → Stage
  | .waiting, true => .admitted
  | .waiting, false => .waiting
  | _, _ => .calling

end Stage

def enters : (op : Op) → op.Reply → Bool
  | .shared (.session op), reply => admits op reply
  | _, _ => false

/-- The device is called only by a message whose input the transaction has taken. -/
def admission : Discipline Op Op.Reply Stage where
  allowed
    | stage, .environment op => stage.allows op
    | stage, .shared _ => stage ≠ .admitted
  advance stage op reply := stage.next (enters op reply)

abbrev Reaches {α : Type} (program : Act α) (stage : Stage) : Prop :=
  Follows admission (fun _ last => last ≠ .admitted) program stage

def aside : Kind → Bool
  | .tx | .device | .deviceRead => false
  | _ => true

variable {α β : Type} (header : Header)

theorem admission_spares : Spares admission .waiting (aside · = true) := by
  intro op plain
  cases op with
  | shared op =>
    cases op with
    | session op =>
      refine ⟨nofun, fun reply => ?_⟩
      cases op with
      | tx op =>
        cases op with
        | expectResponse => rfl
        | _ => cases plain
      | _ => rfl
    | _ => exact ⟨nofun, fun _ => rfl⟩
  | environment op =>
    cases op with
    | write _ _ _ | read _ _ | trigger _ | clear _ | readStatusByte _ | remoteLocal _ _ => cases plain
    | _ => exact ⟨rfl, fun _ => rfl⟩

theorem calling_free (program : Act α) : Follows admission (fun _ last => last = .calling) program .calling := by
  induction program with
  | pure value => rfl
  | request op next ih =>
    refine ⟨?_, fun reply _ => ih reply⟩
    cases op with
    | shared op => exact nofun
    | environment op => trivial

theorem reaches_reports {program : Act α} {stage : Stage} (within : Within reports program)
    (apart : stage ≠ .admitted) : Reaches program stage := by
  cases stage with
  | waiting => exact (Spares.rest admission_spares within (by decide)).mono fun _ _ same => same ▸ nofun
  | admitted => exact absurd rfl apart
  | calling => exact (calling_free program).mono fun _ _ same => same ▸ nofun

def Received (result : Interrupted × Option Err) (stage : Stage) : Prop :=
  stage = .calling ∨ stage = .waiting ∧ result.2 ≠ none

theorem input_received {op : TxOp} (input : op = .beginInput ∨ ∃ id, op = .completeInput id) {interrupted : Interrupted}
    {next : Act (Interrupted × Option Err)}
    (called : Follows admission (fun _ last => last = .calling) next .admitted) :
    Follows admission Received
      (Act.tx op >>= fun refused => match refused with
        | some err => Pure.pure (interrupted, some err)
        | none => next) .waiting := by
  refine Follows.step (by nofun) fun (refused : Option Err) _ => ?_
  cases refused with
  | some err =>
    obtain rfl | ⟨id, rfl⟩ := input <;> exact .inr ⟨rfl, nofun⟩
  | none =>
    have goes : Follows admission Received next .admitted := called.mono fun _ _ same => .inl same
    obtain rfl | ⟨id, rfl⟩ := input <;> exact goes

theorem receiveData_received (payload : Bytes) : Follows admission Received (receiveData header payload) .waiting := by
  refine Follows.ite (fun _ => .inr ⟨rfl, nofun⟩) fun _ => ?_
  refine Spares.step admission_spares rfl fun interrupted => Spares.step admission_spares rfl fun _ => ?_
  refine input_received ?_ ⟨rfl, fun _ _ => rfl⟩
  split
  next => exact .inr ⟨_, rfl⟩
  next => exact .inl rfl

theorem trigger_received : Follows admission Received (trigger header) .waiting := by
  refine Follows.ite (fun _ => .inr ⟨rfl, nofun⟩) fun _ => ?_
  refine Spares.skip admission_spares requireReady_within (by decide) fun refused => ?_
  cases refused with
  | some err => exact .inr ⟨rfl, nofun⟩
  | none =>
    refine Spares.step admission_spares rfl fun interrupted => Spares.step admission_spares rfl fun _ => ?_
    refine input_received (.inr ⟨_, rfl⟩) (Follows.step rfl fun (failed : Option Err) _ => ?_)
    cases failed with
    | some err => rfl
    | none => exact calling_free _

theorem received_reports {result : Interrupted × Option Err} {stage : Stage} (received : Received result stage)
    {writer : Option MessageWriter} {next : Act (Option Err)} :
    Reaches (countInterrupted result.1 >>= fun _ => match result.2 with
      | some err => reportOperationError writer err
      | none => next) stage := by
  obtain rfl | ⟨rfl, failed⟩ := received
  · exact (calling_free _).mono fun _ _ same => same ▸ nofun
  · refine Spares.skip admission_spares (countInterrupted_within result.1) (by decide) fun _ => ?_
    cases found : result.2 with
    | some err => exact reaches_reports (reportOperationError_within writer err) nofun
    | none => exact absurd found failed

/-- Until the transaction has taken the input of a message, `handleSync` does not call the
device for it. -/
theorem handleSync_reaches (config : Config) {message : Message} (fuel : Nat)
    (carried : message.header.type = .data ∨ message.header.type = .dataEnd ∨ message.header.type = .trigger) :
    Reaches (handleSync config message fuel) .waiting := by
  refine Spares.handleSync config message fuel admission_spares (by decide) (fun _ => nofun) (fun _ _ writer => ?_)
    (fun _ writer => ?_) fun typed => ?_
  · exact Follows.bind (receiveData_received _ _) fun _ _ received => received_reports received
  · exact Follows.bind (trigger_received _) fun _ _ received => received_reports received
  · rw [typed] at carried
    exact absurd carried (by decide)

end Admission

section Tasks
variable {profile : Profile}

/-- The stages of a task that carries a message of a session; other tasks do what they
like. -/
def stages : Discipline ServerOp ServerOp.Reply (Option (Nat × Stage)) where
  allowed phase op := ∀ session stage, phase = some (session, stage) → concerns session op ∧
    match op with
    | .environment op => stage.allows op
    | _ => stage ≠ .admitted
  advance phase op reply := phase.map fun entry => (entry.1, entry.2.next (takes op reply))

def Task.enters (task : Task) : Option (Nat × Stage) := task.carries.map (·, .waiting)

def Done (_ : Option Err) (last : Option (Nat × Stage)) : Prop := ∀ session, last ≠ some (session, .admitted)

theorem stages_free {α : Type} (program : ServerProgram α) : Follows stages (fun _ last => last = none) program none := by
  induction program with
  | pure value => rfl
  | request op next ih => exact ⟨nofun, fun reply _ => ih reply⟩

theorem ofLoop_stages {program : Act (Option Err)} (session : Nat) {stage : Stage} (reaches : Reaches program stage) :
    Follows stages Done (ServerProgram.ofLoop session program) (some (session, stage)) := by
  refine (Follows.translate reaches (fun stage => some (session, stage)) ?_ (fun _ _ _ _ => trivial) ?_).mono ?_
  · rintro stage op allowed _ _ ⟨⟩
    cases op with
    | shared op => cases op <;> exact ⟨by trivial, allowed⟩
    | environment op => exact ⟨trivial, allowed⟩
  · intro stage op reply
    cases op with
    | shared op => cases op <;> rfl
    | environment op => rfl
  · rintro _ _ ⟨last, rfl, apart⟩ other same
    cases same
    exact apart rfl

theorem task_stages (task : Task) : Follows stages Done (task.program profile) task.enters := by
  have free : task.carries = none → Follows stages Done (task.program profile) task.enters := by
    intro none
    rw [Task.enters, none]
    exact (stages_free _).mono fun _ _ same => same ▸ nofun
  cases task with
  | sync session message fuel =>
    by_cases carried : message.header.type = .data ∨ message.header.type = .dataEnd ∨ message.header.type = .trigger
    · rw [Task.enters, Task.carries, if_pos carried]
      exact ofLoop_stages session (handleSync_reaches profile.toConfig fuel carried)
    · exact free (if_neg carried)
  | _ => exact free rfl

theorem after_stages (session : Nat) (past : List (Performed ServerOp.Reply)) :
    ∃ stage, stages.after (some (session, .waiting)) past = some (session, stage) ∧
      (stage = .waiting ↔ (past.any fun event => takes event.operation event.reply) = false) := by
  induction past using List.reverseRecOn with
  | nil => exact ⟨.waiting, rfl, by simp⟩
  | append_singleton earlier event ih =>
    obtain ⟨stage, reached, same⟩ := ih
    refine ⟨stage.next (takes event.operation event.reply), ?_, ?_⟩
    · rw [Discipline.after_append, reached]
      rfl
    · rw [List.any_append, Bool.or_eq_false_iff, ← same]
      cases stage <;> cases found : takes event.operation event.reply <;> simp [Stage.next, found]

abbrev Staged (traffic : Traffic σ) : Prop := traffic.Lawful stages Done Task.enters fun _ _ => True

variable {policy : ResponsePolicy σ} {traffic later : Traffic σ} {thread : Thread Task ServerOp.Reply (Option Err)}

theorem staged_step (staged : Staged traffic) {move : Move Task Outside}
    (moved : traffic.step profile policy move = some later) : Staged later :=
  staged.step task_stages (fun _ _ _ _ => trivial) (fun _ _ _ _ _ _ _ _ _ _ _ _ _ => ⟨trivial, trivial⟩) moved

theorem Staged.next (staged : Staged traffic) (member : thread ∈ traffic.threads) {number : Nat}
    (carried : thread.task.carries = some number) :
    ∃ stage, thread.phase stages Task.enters = some (number, stage) ∧ (stage = .waiting ↔ taken thread = false) ∧
      Follows stages Done thread.rest (some (number, stage)) := by
  have follows := (staged.threads thread member).follows
  obtain ⟨stage, reached, same⟩ := after_stages number thread.past
  have phase : thread.phase stages Task.enters = some (number, stage) := by
    rw [Thread.phase, Task.enters, carried]
    exact reached
  exact ⟨stage, phase, same, phase ▸ follows⟩

theorem Staged.call (staged : Staged traffic) (member : thread ∈ traffic.threads) {number : Nat}
    (carried : thread.task.carries = some number) {op : ServerOp} (head : thread.rest.head = some op)
    (calls : deviceCall op = true) : taken thread = true := by
  obtain ⟨stage, -, same, follows⟩ := staged.next member carried
  cases rest : thread.rest with
  | pure value =>
    rw [rest] at head
    cases head
  | request performed next =>
    rw [rest] at head follows
    cases head
    by_contra untaken
    obtain rfl := same.mpr (Bool.of_not_eq_true untaken)
    cases op with
    | environment op =>
      have quiet := (follows.1 number .waiting rfl).2
      exact absurd (quiet.symm.trans calls) Bool.noConfusion
    | _ => cases calls

end Tasks

section Locks
open LockManager
variable {manager : LockManager} {id other : UInt16}

theorem bars_notifyLocked : Bars manager.notifyLocked other ↔ Bars manager other := by
  unfold LockManager.notifyLocked
  cases manager.changed <;> exact Iff.rfl

theorem bars_dropExclusive (barred : Bars manager.dropExclusive other) : Bars manager other := by
  obtain ⟨exclusive, -⟩ | shared := barred
  · cases exclusive
  · exact .inr shared

theorem bars_dropShared (barred : Bars (manager.dropShared id) other) : Bars manager other ∨ other = id := by
  obtain exclusive | ⟨some, unshared⟩ := barred
  · exact .inl (.inl exclusive)
  · by_cases same : other = id
    · exact .inr same
    · have fewer : (manager.dropShared id).sharers ≤ manager.sharers := (List.kerase_sublist id _).length_le
      have kept : (manager.dropShared id).sharedBy other = manager.sharedBy other :=
        congrArg (Option.getD · false) (AList.lookup_erase_ne same)
      exact .inl (.inr ⟨some.trans_le fewer, kept ▸ unshared⟩)

theorem bars_tryRequest {lockString : Bytes} (barred : Bars (manager.tryRequest id lockString).2 other) :
    Bars manager other ∨ ((manager.tryRequest id lockString).1 = .granted ∧ other ≠ id ∧
      (lockString = [] ∨ manager.sharedBy other = false)) := by
  revert barred
  unfold tryRequest
  split
  next empty =>
    unfold tryExclusiveLocked
    repeat' split
    any_goals exact .inl
    rw [bars_notifyLocked]
    rintro (⟨-, differs⟩ | shared)
    · exact .inr ⟨rfl, Ne.symm differs, .inl empty⟩
    · exact .inl (.inr shared)
  next =>
    unfold trySharedLocked
    repeat' split
    any_goals exact .inl
    all_goals
      rw [bars_notifyLocked]
      rintro (exclusive | ⟨-, unshared⟩)
      · exact .inl (.inl exclusive)
      · have outside : ((manager.shared.insert id true).lookup other).getD false = false := unshared
        by_cases same : other = id
        · rw [same, AList.lookup_insert] at outside
          cases outside
        · rw [AList.lookup_insert_ne same] at outside
          exact .inr ⟨rfl, same, .inr outside⟩

theorem bars_release (barred : Bars (manager.release id).2 other) :
    Bars manager other ∨ ((manager.release id).1 = .releasedShared ∧ other = id) := by
  revert barred
  unfold release
  split
  next =>
    rw [bars_notifyLocked]
    exact fun barred => .inl (bars_dropExclusive barred)
  next =>
    split
    next =>
      rw [bars_notifyLocked]
      exact fun barred => (bars_dropShared barred).imp_right fun same => ⟨rfl, same⟩
    next => exact .inl

theorem bars_releaseAll (barred : Bars (manager.releaseAll id) other) :
    Bars manager other ∨ (manager.sharedBy other = true ∧ other = id) := by
  by_cases holder : manager.hasExclusive = true ∧ manager.exclusive = id
  · simp only [releaseAll, holder, and_self, if_true] at barred
    split at barred
    next shares =>
      exact (bars_dropShared (bars_notifyLocked.mp barred)).imp bars_dropExclusive
        fun (same : other = id) => ⟨same ▸ shares, same⟩
    next => exact .inl (bars_dropExclusive (bars_notifyLocked.mp barred))
  · simp only [releaseAll, holder, if_false] at barred
    split at barred
    next shares =>
      exact (bars_dropShared (bars_notifyLocked.mp barred)).imp_right
        fun (same : other = id) => ⟨same ▸ shares, same⟩
    next => exact .inl barred

end Locks

section Runs
variable {profile : Profile} {policy : ResponsePolicy σ} {outside : Outside} {op : ServerOp} {reply : op.Reply}
  {before after : Registry σ} {number : Nat} {session : Session σ}

theorem apply_bars (applied : op.apply profile policy outside before = some (reply, after)) {id : UInt16}
    (barred : Bars after.locks id) : Bars before.locks id ∨ disturbs before id op = true := by
  cases op with
  | locks op =>
    cases applied
    cases op with
    | tryRequest other lockString => exact (bars_tryRequest barred).imp_right fun granted => decide_eq_true granted
    | release other => exact (bars_release barred).imp_right fun released => decide_eq_true released
    | releaseAll other => exact (bars_releaseAll barred).imp_right fun shared => decide_eq_true shared
    | info => exact .inl barred
    | waiter =>
      refine .inl ?_
      revert barred
      simp only [LockOp.apply, LockManager.waiterLocked]
      split <;> exact fun barred => barred
  | releaseAll number =>
    obtain ⟨found, standing, same⟩ := Option.map_eq_some_iff.mp applied
    cases same
    refine (bars_releaseAll barred).imp_right fun shared => decide_eq_true ⟨shared.1, ?_⟩
    rw [standing, shared.2]
    rfl
  | allocateSession version stream =>
    refine .inl ?_
    obtain rfl := congrArg Prod.snd (Option.some_inj.mp applied)
    revert barred
    unfold Registry.allocateSession
    repeat' split
    all_goals exact fun barred => barred
  | takeAll =>
    obtain ⟨all, -, same⟩ := Option.bind_eq_some_iff.mp applied
    split at same
    next =>
      cases same
      exact .inl barred
    next => cases same
  | environment op =>
    obtain rfl := environment_unchanged applied
    exact .inl barred
  | unregister number | session number op | closeStream stream =>
    obtain ⟨_, -, same⟩ := Option.map_eq_some_iff.mp applied
    cases same
    exact .inl barred
  | _ =>
    cases applied
    exact .inl barred

theorem session_identifier (applied : op.apply profile policy outside before = some (reply, after))
    (standing : before.made[number]? = some session) :
    ∃ later, after.made[number]? = some later ∧ later.id = session.id := by
  have known : (before.made.map (·.id))[number]? = some session.id := by rw [List.getElem?_map, standing]; rfl
  have still := LockLifetime.apply_identifier applied known
  rw [List.getElem?_map] at still
  exact Option.map_eq_some_iff.mp still

theorem Admitted.next (admitted : Admitted before number)
    (spared : ∀ session ∈ before.made[number]?, disturbs before session.id op = false)
    (applied : op.apply profile policy outside before = some (reply, after)) : Admitted after number := by
  obtain ⟨session, standing, free⟩ := admitted
  obtain ⟨later, still, same⟩ := session_identifier applied standing
  refine ⟨later, still, fun barred => ?_⟩
  obtain already | disturbed := apply_bars applied (same ▸ barred)
  · exact free already
  · exact absurd (disturbed.symm.trans (spared session standing)) Bool.noConfusion

/-- No lock stands against the session of a message that its transaction has taken. -/
def Settled (traffic : Traffic σ) : Prop :=
  ∀ thread ∈ traffic.threads, thread.returned = false → taken thread = true →
    ∀ number ∈ thread.task.carries, Admitted traffic.shared number

variable {traffic later : Traffic σ} {move : Move Task Outside}

theorem takes_apply (concerned : concerns number op)
    (applied : op.apply profile policy outside before = some (reply, after)) (took : takes op reply = true) :
    ∃ session, before.made[number]? = some session ∧ Admits session op = true ∧ ∀ id, disturbs before id op = false := by
  cases op with
  | session session op =>
    obtain rfl : session = number := concerned
    obtain ⟨found, standing, same⟩ := Option.map_eq_some_iff.mp applied
    cases same
    refine ⟨found, standing, ?_, fun _ => rfl⟩
    cases op with
    | tx op =>
      cases op with
      | beginInput | completeInput id => exact took
      | _ => cases took
    | _ => cases took
  | _ => cases took

theorem admits_apply (concerned : concerns number op)
    (applied : op.apply profile policy outside before = some (reply, after))
    (standing : before.made[number]? = some session) (admits : Admits session op = true) :
    takes op reply = true ∧ after.locks = before.locks := by
  cases op with
  | session other op =>
    obtain rfl : other = number := concerned
    obtain ⟨found, here, same⟩ := Option.map_eq_some_iff.mp applied
    obtain rfl := Option.some_inj.mp (standing.symm.trans here)
    cases same
    refine ⟨?_, rfl⟩
    cases op with
    | tx op =>
      cases op with
      | beginInput | completeInput id => exact admits
      | _ => cases admits
    | _ => cases admits
  | _ => cases admits

theorem settled_step (staged : Staged traffic) (settled : Settled traffic)
    (met : Undisturbed traffic move ∧ Considerate traffic move)
    (moved : traffic.step profile policy move = some later) : Settled later := by
  cases move with
  | start task =>
    cases moved
    exact forall_concat settled fun _ => nofun
  | advance index outside =>
    obtain ⟨task, past, op, next, reply, registry, running, applied, rfl⟩ := Chronicle.step_advance moved
    have member := List.mem_of_getElem? running
    have spared := met.1 _ running op rfl
    have kept : ∀ thread ∈ traffic.threads, thread.returned = false → taken thread = true →
        ∀ number ∈ thread.task.carries, Admitted registry number := fun thread present going has number carried =>
      (settled thread present going has number carried).next (spared thread present going has number carried) applied
    refine fun thread present => ?_
    obtain earlier | rfl := List.mem_or_eq_of_mem_set present
    · exact kept thread earlier
    · intro _ has number carried
      cases before : taken ⟨task, past, .request op next⟩ with
      | true => exact kept _ member rfl before number carried
      | false =>
        obtain ⟨stage, -, -, follows⟩ := staged.next member carried
        have took : takes op reply = true := by
          simpa [taken, List.any_append, show past.any _ = false from before] using has
        obtain ⟨session, standing, admits, quiet⟩ := takes_apply (follows.1 number stage rfl).1 applied took
        have free := met.2 _ running before number carried op rfl session standing admits
        exact Admitted.next ⟨session, standing, free⟩ (fun session _ => quiet session.id) applied

theorem Settled.excludes (staged : Staged traffic) (settled : Settled traffic) : Excludes traffic := by
  intro thread member number carried op head calls session standing
  have going : thread.returned = false := by
    unfold Thread.returned
    cases rest : thread.rest with
    | pure value =>
      rw [rest] at head
      cases head
    | request _ _ => rfl
  obtain ⟨found, here, free⟩ := settled thread member going (staged.call member carried head calls) number carried
  obtain rfl := Option.some_inj.mp (standing.symm.trans here)
  exact free

theorem admitted_calls {rest : ServerProgram (Option Err)}
    (follows : Follows stages Done rest (some (number, .admitted))) :
    ∃ op, rest.head = some op ∧ deviceCall op = true := by
  cases rest with
  | pure value => exact absurd rfl (follows number)
  | request op next =>
    refine ⟨op, rfl, ?_⟩
    have allowed := (follows.1 number .admitted rfl).2
    cases op with
    | environment op => exact allowed
    | _ => exact absurd rfl allowed

theorem considerate_of_excludes (staged : Staged traffic) (moved : traffic.step profile policy move = some later)
    (excludes : Excludes later) : Considerate traffic move := by
  cases move with
  | start task => trivial
  | advance index outside =>
    intro running here untaken number carried op head session standing admits barred
    obtain ⟨task, past, performed, next, reply, registry, found, applied, rfl⟩ := Chronicle.step_advance moved
    obtain rfl := Option.some_inj.mp (here.symm.trans found)
    cases head
    obtain ⟨stage, -, same, follows⟩ := staged.next (List.mem_of_getElem? found) carried
    obtain rfl := same.mpr untaken
    obtain ⟨took, unlocked⟩ := admits_apply (follows.1 number .waiting rfl).1 applied standing admits
    have entered : stages.advance (some (number, .waiting)) op reply = some (number, .admitted) := by
      simp only [stages, Option.map_some, took, Stage.next]
    obtain ⟨call, head, calls⟩ := admitted_calls (entered ▸ follows.2 reply trivial)
    obtain ⟨found', still, same_id⟩ := session_identifier applied standing
    refine excludes ⟨task, past ++ [⟨op, reply⟩], next reply⟩ ?_ number carried call head calls found' still ?_
    · exact List.mem_set (List.getElem?_eq_some_iff.mp found).1 _
    · rw [same_id, unlocked]
      exact barred

end Runs

/-- Client A has session 0 and identifier 1, client B session 1 and identifier 2. Both are
served until their loops wait. -/
def twoClients : List (Move Task Outside) :=
  .start (.connect { type := .initializeRequest, parameter := 0x01000000 } (.ok []) 0) ::
    List.replicate 6 (.advance 0 obliging) ++
  .start (.join { type := .asyncInitialize, parameter := 1 } 1) :: List.replicate 5 (.advance 1 obliging) ++
  .start (.connect { type := .initializeRequest, parameter := 0x01000000 } (.ok []) 2) ::
    List.replicate 6 (.advance 2 obliging) ++
  .start (.join { type := .asyncInitialize, parameter := 2 } 3) :: List.replicate 5 (.advance 3 obliging)

def locking : Task := .async 0 { header := { type := .asyncLock, control := 1 } } 0

def sending (session : Nat) : Task := .sync session { header := { type := .data }, payload := [42] } 0

def refused (session : Nat) : Task := .sync session { header := { type := .data, control := 2 }, payload := [42] } 0

/-- The data of B are handled before A is granted the lock and sends data of its own; what B
sends then is refused. -/
def oneByOne : List (Move Task Outside) :=
  twoClients ++ .start (sending 1) :: List.replicate 10 (.advance 4 obliging) ++
    .start locking :: List.replicate 8 (.advance 5 obliging) ++
    .start (refused 1) :: List.replicate 6 (.advance 6 obliging) ++
    .start (sending 0) :: List.replicate 8 (.advance 7 obliging)

/-- As long as no lock comes to stand against a session while a message of it is past its
transaction, locks exclude the other clients exactly when no transaction takes the message
of a session that a lock stands against. -/
theorem locks_exclude_iff (profile : Profile) (policy : ResponsePolicy σ) (moves : List (Move Task Outside))
    (undisturbed : Throughout (Traffic.step profile policy) Undisturbed moves { shared := {} }) :
    Always (Traffic.step profile policy) Excludes moves { shared := {} } ↔
      Throughout (Traffic.step profile policy) Considerate moves { shared := {} } := by
  have fresh : Staged ({ shared := {} } : Traffic σ) := ⟨fun _ => nofun, trivial⟩
  constructor
  · exact throughout_of_always (fun _ _ _ staged _ moved => staged_step staged moved)
      (fun _ _ _ staged _ moved excludes => considerate_of_excludes staged moved excludes) fresh
  · intro considerate
    refine always_of_invariant (fun traffic (held : Staged traffic ∧ Settled traffic) => held.2.excludes held.1) ?_
      ⟨fresh, fun _ => nofun⟩ (undisturbed.and considerate)
    intro _ _ _ held met moved
    exact ⟨staged_step held.1 moved, settled_step held.1 held.2 met moved⟩

theorem locks_exclude_iff_one_by_one :
    Throughout (Traffic.step .forTwo alwaysReadPolicy) Undisturbed oneByOne { shared := {} } ∧
      ∃ traffic, finish (Traffic.step .forTwo alwaysReadPolicy) oneByOne { shared := {} } = some traffic ∧
        traffic.shared.locks.hasExclusive = true ∧ traffic.threads[6]?.map taken = some false ∧
        traffic.threads[7]?.map taken = some true ∧ Excludes traffic := by
  have undisturbed : Throughout (Traffic.step .forTwo alwaysReadPolicy) Undisturbed oneByOne { shared := {} } := by
    decide +kernel
  have considerate : Throughout (Traffic.step .forTwo alwaysReadPolicy) Considerate oneByOne { shared := {} } := by
    decide +kernel
  exact ⟨undisturbed, _, rfl, rfl, rfl, rfl,
    ((locks_exclude_iff .forTwo alwaysReadPolicy oneByOne undisturbed).mpr considerate).finish rfl⟩

/-- A holds the exclusive lock, and the data that B sends then are written to the
device. -/
theorem lock_ignored : ∃ traffic, finish (Traffic.step .forTwo alwaysReadPolicy)
      (twoClients ++ .start locking :: List.replicate 8 (.advance 4 obliging) ++
        .start (sending 1) :: List.replicate 8 (.advance 5 obliging)) { shared := {} } = some traffic ∧
    traffic.shared.made.map (·.id) = [1, 2] ∧ traffic.shared.locks.hasExclusive = true ∧
    traffic.shared.locks.exclusive = 1 ∧
    traffic.threads[5]?.map (fun thread => (thread.task, thread.rest.head)) =
      some (sending 1, some (.environment (.write .server [42] false))) ∧
    ¬ Excludes traffic ∧ (traffic.step .forTwo alwaysReadPolicy (.advance 5 obliging)).isSome := by
  refine ⟨_, rfl, rfl, rfl, rfl, rfl, fun excludes => ?_, rfl⟩
  exact excludes _ (List.mem_of_getElem? (i := 5) rfl) 1 rfl _ rfl rfl _ rfl (by decide)

end Hislip.Proofs.Exclusion
