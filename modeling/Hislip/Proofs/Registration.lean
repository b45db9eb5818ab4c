import Hislip.Proofs.Removal
import Hislip.Transition

/-! The registration of a session's operations is one slot, and a release function
empties it whoever is registered there. So a later operation stays under the control of
`abortOperation` and `close` just as long as no earlier one is released behind its back. -/

namespace Hislip.Proofs.Registration
open Program (exec Yields)
open Server ServerProgram Transition

variable {σ δ : Type}

inductive Call where
  | operation
  | release (number : Nat)
  | abort
  | close
  deriving DecidableEq, Repr

def Call.program (session : Nat) : Call → ServerProgram (List Nat)
  | .operation => return [← ofLoop session Server.operation]
  | .release number => do
    ofLoop session (releaseOperation number)
    return []
  | .abort => do
    ofLoop session abortOperation
    return []
  | .close => do
    let _ ← ServerProgram.close session
    return []

/-- What calls can see of each other: the registered operation, the cancelled contexts
and how many contexts there are. -/
structure Slot where
  registered : Option Nat
  cancelled : List Nat
  contexts : Nat

namespace Slot

def apply (slot : Slot) : Call → Slot
  | .operation => { slot with registered := some slot.contexts, contexts := slot.contexts + 1 }
  | .release number => { slot with registered := none, cancelled := number :: slot.cancelled }
  | .abort | .close => { slot with registered := none, cancelled := slot.registered.toList ++ slot.cancelled }

def issues (slot : Slot) : Call → List Nat
  | .operation => [slot.contexts]
  | _ => []

def of (session : Nat) (registry : Registry σ) : Option Slot :=
  registry.made[session]?.map fun found => ⟨found.opCancel, registry.cancelled, registry.contexts⟩

end Slot

section Calls
variable {profile : Profile} {policy : ResponsePolicy σ} {surroundings : Surroundings δ} {session : Nat}
  {world : ServerWorld σ δ} {slot : Slot}

theorem session_yields (op : SessionOp) (held : Slot.of session world.registry = some slot) {registered : Option Nat}
    {reply : op.Reply}
    (moves : ∀ found : Session σ, found.opCancel = slot.registered → (op.apply policy found).1 = reply ∧
      (op.apply policy found).2.opCancel = registered) :
    Yields (serverHandler profile policy surroundings) (perform (.session session op)) world fun answer after =>
      answer = reply ∧ Slot.of session after.registry = some { slot with registered } := by
  obtain ⟨found, standing, rfl⟩ := Option.map_eq_some_iff.mp held
  obtain ⟨answers, leaves⟩ := moves found rfl
  have applied : (ServerOp.session session op).apply profile policy (surroundings.outside world) world.registry =
      some ((op.apply policy found).1,
        { world.registry with made := world.registry.made.set session (op.apply policy found).2 }) := by
    simp only [ServerOp.apply, standing, Option.map_some]
  refine (perform_yields applied).mono fun answer after holds => ⟨holds.1.trans answers, ?_⟩
  have inside : session < world.registry.made.length := (List.getElem?_eq_some_iff.mp standing).1
  rw [holds.2.1]
  simp [Slot.of, inside, leaves]

theorem cancel_yields (number : Nat) (held : Slot.of session world.registry = some slot) :
    Yields (serverHandler profile policy surroundings) (perform (.cancel number)) world fun _ after =>
      Slot.of session after.registry = some { slot with cancelled := number :: slot.cancelled } := by
  obtain ⟨found, standing, rfl⟩ := Option.map_eq_some_iff.mp held
  have applied : (ServerOp.cancel number).apply profile policy (surroundings.outside world) world.registry =
      some ((), { world.registry with cancelled := number :: world.registry.cancelled }) := rfl
  refine (perform_yields applied).mono fun _ after holds => ?_
  rw [holds.2.1]
  simp [Slot.of, standing]

theorem operation_yields (held : Slot.of session world.registry = some slot) :
    Yields (serverHandler profile policy surroundings) (Call.program session .operation) world fun issued after =>
      issued = [slot.contexts] ∧ Slot.of session after.registry = some (slot.apply .operation) := by
  obtain ⟨found, standing, rfl⟩ := Option.map_eq_some_iff.mp held
  have creates : ServerOp.withCancel.apply profile policy (surroundings.outside world) world.registry =
      some (world.registry.contexts, { world.registry with contexts := world.registry.contexts + 1 }) := rfl
  refine (perform_yields creates).bind fun number created holds => ?_
  obtain ⟨rfl, same, -⟩ := holds
  have counted : Slot.of session created.registry =
      some ⟨found.opCancel, world.registry.cancelled, world.registry.contexts + 1⟩ := by
    rw [same]
    simp [Slot.of, standing]
  refine (session_yields (.register world.registry.contexts) counted fun _ _ => ⟨rfl, rfl⟩).bind fun _ after holds => ?_
  exact ⟨_, after, rfl, rfl, holds.2⟩

theorem release_yields (number : Nat) (held : Slot.of session world.registry = some slot) :
    Yields (serverHandler profile policy surroundings) (Call.program session (.release number)) world fun issued after =>
      issued = [] ∧ Slot.of session after.registry = some (slot.apply (.release number)) := by
  refine (session_yields .unregister held fun _ _ => ⟨rfl, rfl⟩).bind fun _ emptied holds => ?_
  refine (cancel_yields number holds.2).bind fun _ after holds => ?_
  exact ⟨[], after, rfl, rfl, holds⟩

theorem abort_yields (held : Slot.of session world.registry = some slot) :
    Yields (serverHandler profile policy surroundings) (Call.program session .abort) world fun issued after =>
      issued = [] ∧ Slot.of session after.registry = some (slot.apply .abort) := by
  refine (session_yields .abort held fun found same => ⟨same, rfl⟩).bind fun taken emptied holds => ?_
  obtain ⟨rfl, left⟩ := holds
  obtain ⟨registered, cancelled, contexts⟩ := slot
  cases registered with
  | none => exact ⟨[], emptied, rfl, rfl, left⟩
  | some number =>
    refine (cancel_yields number left).bind fun _ after holds => ?_
    exact ⟨[], after, rfl, rfl, holds⟩

theorem close_yields (held : Slot.of session world.registry = some slot) :
    Yields (serverHandler profile policy surroundings) (Call.program session .close) world fun issued after =>
      issued = [] ∧ Slot.of session after.registry = some (slot.apply .close) := by
  obtain ⟨found, standing, rfl⟩ := Option.map_eq_some_iff.mp held
  refine (Removal.close_yields standing).bind fun _ after holds => ?_
  refine ⟨[], after, rfl, rfl, ?_⟩
  have inside : session < world.registry.made.length := (List.getElem?_eq_some_iff.mp standing).1
  rw [holds.1]
  simp [Slot.of, inside, Slot.apply, Session.close]

theorem call_yields (call : Call) (held : Slot.of session world.registry = some slot) :
    Yields (serverHandler profile policy surroundings) (call.program session) world fun issued after =>
      issued = slot.issues call ∧ Slot.of session after.registry = some (slot.apply call) := by
  cases call with
  | operation => exact operation_yields held
  | release number => exact release_yields number held
  | abort => exact abort_yields held
  | close => exact close_yields held

end Calls

/-- A session that is called in turn. The operations it has registered so far stand with
the latest first. -/
structure Holding (σ δ : Type) where
  world : ServerWorld σ δ
  issued : List Nat := []

namespace Holding

def registered (session : Nat) (holding : Holding σ δ) : Option Nat :=
  holding.world.registry.made[session]?.bind (·.opCancel)

def cancelled (holding : Holding σ δ) : List Nat := holding.world.registry.cancelled

def callable (holding : Holding σ δ) : Call → Bool
  | .release number => number ∈ holding.issued
  | _ => true

def step (profile : Profile) (policy : ResponsePolicy σ) (surroundings : Surroundings δ) (session : Nat)
    (holding : Holding σ δ) (call : Call) : Option (Holding σ δ) :=
  if holding.callable call then
    match exec (serverHandler profile policy surroundings) (call.program session) holding.world with
    | (some issued, world) => some ⟨world, issued ++ holding.issued⟩
    | (none, _) => none
  else none

/-- What is said of a call: `abortOperation` and `close` cancel the latest operation, and
the release of an earlier one leaves it registered. A release cancels, so an operation
that is not cancelled is not released either. -/
def Kept (session : Nat) (before : Holding σ δ) (call : Call) (after : Holding σ δ) : Prop :=
  ∀ latest ∈ before.issued.head?, latest ∉ before.cancelled →
    match call with
    | .operation => True
    | .abort | .close => latest ∈ after.cancelled
    | .release number => number ≠ latest → after.registered session = some latest ∧ latest ∉ after.cancelled

/-- No operation is released while a later one is neither released nor cancelled. -/
def Timely (holding : Holding σ δ) : Call → Prop
  | .release number => ∀ latest ∈ holding.issued.head?, number = latest ∨ latest ∈ holding.cancelled
  | _ => True

instance Timely.decidable (holding : Holding σ δ) : (call : Call) → Decidable (holding.Timely call)
  | .release number =>
    inferInstanceAs (Decidable (∀ latest ∈ holding.issued.head?, number = latest ∨ latest ∈ holding.cancelled))
  | .operation | .abort | .close => isTrue trivial

end Holding

/-- Nothing is registered yet, and contexts are numbered as they are made. -/
structure Fresh (session : Nat) (registry : Registry σ) : Prop where
  idle : ∃ found, registry.made[session]? = some found ∧ found.opCancel = none
  numbered : ∀ number ∈ registry.cancelled, number < registry.contexts

/-- The latest operation is registered until it is cancelled. -/
structure Stands (slot : Slot) (issued : List Nat) : Prop where
  registered : ∀ number, slot.registered = some number ↔ issued.head? = some number ∧ number ∉ slot.cancelled
  issued : ∀ number ∈ issued, number < slot.contexts
  cancelled : ∀ number ∈ slot.cancelled, number < slot.contexts

section Slots
variable {slot : Slot} {issued : List Nat}

theorem Stands.operation (stands : Stands slot issued) : Stands (slot.apply .operation) (slot.contexts :: issued) := by
  have new : slot.contexts ∉ slot.cancelled := fun member => Nat.lt_irrefl _ (stands.cancelled _ member)
  refine ⟨fun number => ⟨?_, fun latest => latest.1⟩, fun number member => ?_, fun number member => ?_⟩
  · rintro ⟨⟩
    exact ⟨rfl, new⟩
  · obtain rfl | earlier := List.mem_cons.mp member
    · exact Nat.lt_succ_self _
    · exact Nat.lt_succ_of_lt (stands.issued number earlier)
  · exact Nat.lt_succ_of_lt (stands.cancelled number member)

theorem Stands.emptied (stands : Stands slot issued) {cancelled : List Nat}
    (numbered : ∀ number ∈ cancelled, number < slot.contexts)
    (gone : ∀ latest, issued.head? = some latest → latest ∈ cancelled) :
    Stands { slot with registered := none, cancelled } issued :=
  ⟨fun number => ⟨nofun, fun latest => absurd (gone number latest.1) latest.2⟩, stands.issued, numbered⟩

theorem Stands.taken (stands : Stands slot issued) {latest : Nat} (last : issued.head? = some latest) :
    latest ∈ slot.registered.toList ++ slot.cancelled := by
  by_cases gone : latest ∈ slot.cancelled
  · exact List.mem_append_right _ gone
  · rw [(stands.registered latest).mpr ⟨last, gone⟩]
    exact List.mem_cons_self

theorem Stands.numbered (stands : Stands slot issued) :
    ∀ number ∈ slot.registered.toList ++ slot.cancelled, number < slot.contexts := by
  intro number member
  obtain held | gone := List.mem_append.mp member
  · obtain ⟨last, -⟩ := (stands.registered number).mp (Option.mem_toList.mp held)
    exact stands.issued number (List.mem_of_mem_head? last)
  · exact stands.cancelled number gone

end Slots

section Runs
variable {profile : Profile} {policy : ResponsePolicy σ} {surroundings : Surroundings δ} {session : Nat}
  {before after : Holding σ δ} {call : Call}

def Sound (session : Nat) (holding : Holding σ δ) : Prop :=
  ∃ slot, Slot.of session holding.world.registry = some slot ∧ Stands slot holding.issued

theorem slot_tells {slot : Slot} (held : Slot.of session before.world.registry = some slot) :
    before.registered session = slot.registered ∧ before.cancelled = slot.cancelled := by
  obtain ⟨found, standing, rfl⟩ := Option.map_eq_some_iff.mp held
  exact ⟨by rw [Holding.registered, standing]; rfl, rfl⟩

theorem step_applies {slot : Slot} (held : Slot.of session before.world.registry = some slot)
    (moved : before.step profile policy surroundings session call = some after) :
    before.callable call = true ∧ Slot.of session after.world.registry = some (slot.apply call) ∧
      after.issued = slot.issues call ++ before.issued := by
  unfold Holding.step at moved
  split at moved
  next callable =>
    have yields : Yields (serverHandler profile policy surroundings) (call.program session) before.world _ :=
      call_yields call held
    obtain ⟨issued, world, ran, same, left⟩ := yields
    rw [ran] at moved
    cases moved
    exact ⟨callable, left, congrArg (· ++ before.issued) same⟩
  next => cases moved

theorem Sound.step (sound : Sound session before) (timely : before.Timely call)
    (moved : before.step profile policy surroundings session call = some after) : Sound session after := by
  obtain ⟨slot, held, stands⟩ := sound
  obtain ⟨callable, left, issued⟩ := step_applies held moved
  refine ⟨_, left, ?_⟩
  rw [issued]
  cases call with
  | operation => exact stands.operation
  | abort | close => exact stands.emptied stands.numbered fun _ last => stands.taken last
  | release number =>
    have returned : number ∈ before.issued := of_decide_eq_true callable
    refine stands.emptied (fun other member => ?_) fun latest last => ?_
    · obtain rfl | earlier := List.mem_cons.mp member
      · exact stands.issued other returned
      · exact stands.cancelled other earlier
    · obtain rfl | gone := timely latest last
      · exact List.mem_cons_self
      · exact List.mem_cons_of_mem _ ((slot_tells held).2 ▸ gone)

/-- Where the latest operation is registered, a call keeps what is said of it just when
it is timely. -/
theorem kept_iff_timely (sound : Sound session before)
    (moved : before.step profile policy surroundings session call = some after) :
    before.Kept session call after ↔ before.Timely call := by
  obtain ⟨slot, held, stands⟩ := sound
  obtain ⟨-, left, -⟩ := step_applies held moved
  obtain ⟨-, cancelled⟩ := slot_tells held
  obtain ⟨registers, cancels⟩ := slot_tells left
  cases call with
  | operation => exact iff_of_true (fun _ _ _ => trivial) trivial
  | abort | close =>
    refine iff_of_true (fun latest last _ => ?_) trivial
    change latest ∈ after.cancelled
    rw [cancels]
    exact stands.taken last
  | release number =>
    constructor
    · intro kept latest last
      by_contra! untimely
      obtain ⟨still, -⟩ := kept latest last untimely.2 untimely.1
      cases registers.symm.trans still
    · intro timely latest last outstanding older
      exact absurd (timely latest last) (not_or.mpr ⟨older, outstanding⟩)

end Runs

/-- What is said of `abortOperation`, of `close` and of release functions holds along a
sequence of calls just when none of them releases an operation that a later one has
replaced, the later one being neither released nor cancelled. -/
theorem later_operation_kept_iff (profile : Profile) (policy : ResponsePolicy σ) (surroundings : Surroundings δ)
    (session : Nat) (world : ServerWorld σ δ) (fresh : Fresh session world.registry) (calls : List Call) :
    let step := Holding.step profile policy surroundings session
    Throughout step (fun before call => ∀ after, step before call = some after → before.Kept session call after) calls
        { world } ↔
      Throughout step Holding.Timely calls { world } := by
  intro step
  obtain ⟨⟨found, standing, idle⟩, numbered⟩ := fresh
  have start : Sound session { world : Holding σ δ } := by
    refine ⟨⟨none, world.registry.cancelled, world.registry.contexts⟩, ?_, fun _ => ⟨nofun, nofun⟩, nofun, numbered⟩
    simp [Slot.of, standing, idle]
  have same : ∀ before call after, Sound session before → step before call = some after →
      ((∀ after, step before call = some after → before.Kept session call after) ↔ before.Timely call) := by
    intro before call after sound moved
    refine ⟨fun kept => (kept_iff_timely sound moved).mp (kept after moved), fun timely later leads => ?_⟩
    exact (kept_iff_timely sound leads).mpr timely
  exact throughout_congr same (fun before call after sound kept moved =>
    sound.step ((same before call after sound moved).mp kept) moved) start

def single : ServerWorld Unit Unit where
  registry := { made := [.new .standard alwaysReadPolicy 1 .version10 Version.version10_current 0] }
  environment := ()

def unused : Surroundings Unit where
  environment _ state := (none, state)
  close _ state := (none, state)

/-- Two operations overlap, and the later one is released first. -/
theorem later_operation_kept_nested :
    let step := Holding.step .standard alwaysReadPolicy unused 0
    Throughout step (fun before call => ∀ after, step before call = some after → before.Kept 0 call after)
      [.operation, .operation, .release 1, .release 0, .operation, .abort, .close] { world := single } := by
  refine (later_operation_kept_iff .standard alwaysReadPolicy unused 0 single ⟨⟨_, rfl, rfl⟩, nofun⟩ _).mpr ?_
  decide

/-- Of two operations the first is released late. The second is neither released nor
cancelled, but the slot is empty and `abortOperation` does not cancel it. -/
theorem late_release_unregisters :
    ∃ released aborted,
      finish (Holding.step .standard alwaysReadPolicy unused 0) [.operation, .operation, .release 0] { world := single } =
          some released ∧
        released.issued = [1, 0] ∧ released.registered 0 = none ∧ released.cancelled = [0] ∧
        Holding.step .standard alwaysReadPolicy unused 0 released .abort = some aborted ∧ aborted.cancelled = [0] :=
  ⟨_, _, rfl, rfl, rfl, rfl, rfl, rfl⟩

end Hislip.Proofs.Registration
