import Mathlib.Data.Set.Card
import Hislip.SharedLock
import Hislip.Server.Locks

/-! The lock manager keeps a table of exclusive and shared locks: its fields represent
what every session holds, and each of its methods changes the table of one session. -/

namespace Hislip.Proofs.LockTable
open Hislip.Server Hislip.Server.LockManager SharedLock

def requested (lockString : Bytes) : Request Bytes := if lockString = [] then .exclusive else .shared lockString

/-- What a session holds; the shared lock is told apart by its key. -/
def holding (manager : LockManager) : Table UInt16 Bytes := fun id =>
  { exclusive := manager.hasExclusive && manager.exclusive == id
    shared := if manager.sharedBy id then some manager.key else none }

structure Consistent (manager : LockManager) : Prop where
  entries : ∀ id value, manager.shared.lookup id = some value → value = true
  key : manager.key ≠ [] ↔ 0 < manager.sharers
  exclusive : manager.hasExclusive = false → manager.exclusive = 0
  both : manager.hasExclusive = true → 0 < manager.sharers → manager.sharedBy manager.exclusive = true

section Representation
variable {manager : LockManager} {id other : UInt16}

theorem consistent_zero : Consistent {} where
  entries _ _ := nofun
  key := by decide
  exclusive _ := rfl
  both := nofun

theorem holding_exclusive : (holding manager id).exclusive = true ↔
    manager.hasExclusive = true ∧ manager.exclusive = id := by
  simp [holding]

theorem holding_shared : (holding manager id).shared = none ↔ manager.sharedBy id = false := by
  simp [holding]

@[simp] theorem holding_notifyLocked (manager : LockManager) : holding manager.notifyLocked = holding manager := by
  unfold notifyLocked
  cases manager.changed <;> rfl

theorem Consistent.notifyLocked (consistent : Consistent manager) : Consistent manager.notifyLocked := by
  unfold LockManager.notifyLocked
  cases manager.changed with
  | none => exact consistent
  | some channel => exact ⟨consistent.entries, consistent.key, consistent.exclusive, consistent.both⟩

theorem sharedBy_iff (consistent : Consistent manager) : manager.sharedBy id = true ↔ id ∈ manager.shared := by
  rw [← AList.lookup_isSome, sharedBy]
  cases found : manager.shared.lookup id with
  | none => simp
  | some value => simp [consistent.entries id value found]

theorem sharers_pos (consistent : Consistent manager) : 0 < manager.sharers ↔ ∃ id, manager.sharedBy id = true := by
  simp only [sharedBy_iff consistent, sharers, List.length_pos_iff_exists_mem]
  constructor
  · rintro ⟨⟨id, value⟩, member⟩
    exact ⟨id, AList.mem_keys.mpr (List.mem_keys_of_mem member)⟩
  · rintro ⟨id, member⟩
    obtain ⟨entry, present, -⟩ := List.mem_map.mp (AList.mem_keys.mp member)
    exact ⟨entry, present⟩

end Representation

section Requests
variable {manager : LockManager} {id : UInt16} {request : Request Bytes}

def resultOf : Verdict → LockResult
  | .granted => .granted
  | .failure => .failure
  | .error => .error

/-- A request is answered by the verdict on it, and only a grant changes anything. -/
structure Answers (manager : LockManager) (id : UInt16) (request : Request Bytes) (answer : LockResult)
    (after : LockManager) : Prop where
  result : answer = resultOf ((holding manager).verdict id request)
  unchanged : answer ≠ .granted → after = manager
  granted : answer = .granted → Consistent after ∧
    holding after = Function.update (holding manager) id ((holding manager id).add request)

theorem Answers.error (refuses : (holding manager id).Refuses request) : Answers manager id request .error manager where
  result := by rw [Table.verdict_error_iff.mpr refuses]; rfl
  unchanged _ := rfl
  granted := nofun

theorem Answers.failure (accepts : ¬ (holding manager id).Refuses request) (other : UInt16) (differs : other ≠ id)
    (bars : (holding manager other).Bars (holding manager id) request) :
    Answers manager id request .failure manager where
  result := by rw [Table.verdict_failure_iff.mpr ⟨accepts, other, differs, bars⟩]; rfl
  unchanged _ := rfl
  granted := nofun

theorem Answers.grant {after : LockManager} (accepts : ¬ (holding manager id).Refuses request)
    (free : ∀ other, other ≠ id → ¬ (holding manager other).Bars (holding manager id) request)
    (consistent : Consistent after) (own : holding after id = (holding manager id).add request)
    (others : ∀ other, other ≠ id → holding after other = holding manager other) :
    Answers manager id request .granted after.notifyLocked where
  result := by rw [Table.verdict_granted_iff.mpr ⟨accepts, free⟩]; rfl
  unchanged refused := absurd rfl refused
  granted _ := by
    refine ⟨consistent.notifyLocked, ?_⟩
    rw [holding_notifyLocked]
    exact Function.eq_update_iff.mpr ⟨own, others⟩

theorem tryExclusiveLocked_answers (consistent : Consistent manager) (id : UInt16) :
    Answers manager id .exclusive (manager.tryExclusiveLocked id).1 (manager.tryExclusiveLocked id).2 := by
  unfold tryExclusiveLocked
  split
  next exclusive =>
    split
    next same => exact .error (holding_exclusive.mpr ⟨exclusive, same⟩)
    next other =>
      refine .failure (fun holder => other (holding_exclusive.mp holder).2) manager.exclusive other ?_
      exact .inl (holding_exclusive.mpr ⟨exclusive, rfl⟩)
  next free =>
    have accepts : ¬ (holding manager id).Refuses .exclusive := fun holder => free (holding_exclusive.mp holder).1
    split
    next blocked =>
      obtain ⟨sharer, shares⟩ := (sharers_pos consistent).mp blocked.1
      have differs : sharer ≠ id := by
        rintro rfl
        exact blocked.2 shares
      refine .failure accepts sharer differs (.inr ⟨?_, holding_shared.mpr (by simpa using blocked.2)⟩)
      rw [Ne, holding_shared, shares]
      nofun
    next open_ =>
      have joins : 0 < manager.sharers → manager.sharedBy id = true := by
        intro some
        by_contra missing
        exact open_ ⟨some, missing⟩
      refine .grant accepts ?_ ?_ ?_ ?_
      · rintro other - (holder | ⟨shares, alone⟩)
        · exact free (holding_exclusive.mp holder).1
        · rw [Ne, holding_shared, Bool.not_eq_false] at shares
          rw [holding_shared, joins ((sharers_pos consistent).mpr ⟨other, shares⟩)] at alone
          cases alone
      · exact ⟨consistent.entries, consistent.key, nofun, fun _ => joins⟩
      · exact congrArg (Holding.mk · _) (by simp)
      · intro other differs
        have unowned : manager.hasExclusive = false := by simpa using free
        exact congrArg (Holding.mk · _) (by simp [unowned, differs.symm])

def joined (manager : LockManager) (id : UInt16) (key : Bytes) : LockManager :=
  { manager with key, shared := manager.shared.insert id true }

theorem joined_sharedBy (manager : LockManager) (id : UInt16) (key : Bytes) :
    (joined manager id key).sharedBy id = true := by
  simp [joined, sharedBy]

theorem joined_sharedBy_ne (manager : LockManager) (key : Bytes) {other : UInt16} (differs : other ≠ id) :
    (joined manager id key).sharedBy other = manager.sharedBy other := by
  simp [joined, sharedBy, AList.lookup_insert_ne differs]

section
variable (consistent : Consistent manager)
include consistent

theorem Consistent.joined (id : UInt16) {key : Bytes} (named : key ≠ [])
    (owned : manager.hasExclusive = true → 0 < manager.sharers) : Consistent (joined manager id key) where
  entries other value found := by
    by_cases same : other = id
    · subst same
      exact (Option.some_inj.mp ((AList.lookup_insert _).symm.trans found)).symm
    · exact consistent.entries other value ((AList.lookup_insert_ne same).symm.trans found)
  key := iff_of_true named (by simp [LockTable.joined, sharers, AList.entries_insert])
  exclusive := consistent.exclusive
  both exclusive _ := by
    have shares := consistent.both exclusive (owned exclusive)
    by_cases same : manager.exclusive = id
    · exact same ▸ joined_sharedBy manager manager.exclusive key
    · exact (joined_sharedBy_ne manager key same).trans shares

/-- A session that joins the shared lock changes nothing for the others, since the key
stays as it is while there are any. -/
theorem joined_answers {key : Bytes} (named : key ≠ []) (accepts : ¬ (holding manager id).Refuses (.shared key))
    (agrees : 0 < manager.sharers → manager.key = key) (owned : manager.hasExclusive = true → 0 < manager.sharers) :
    Answers manager id (.shared key) .granted (joined manager id key).notifyLocked := by
  have keyed : ∀ other, manager.sharedBy other = true → manager.key = key :=
    fun other shares => agrees ((sharers_pos consistent).mpr ⟨other, shares⟩)
  refine .grant accepts ?_ (consistent.joined id named owned) ?_ ?_
  · rintro other - (⟨held, shares, wrong⟩ | ⟨holder, alone⟩)
    · simp only [holding, Option.ite_none_right_eq_some, Option.some_inj] at shares
      exact wrong (shares.2 ▸ keyed other shares.1)
    · obtain ⟨exclusive, rfl⟩ := holding_exclusive.mp holder
      rw [holding_shared, consistent.both exclusive (owned exclusive)] at alone
      cases alone
  · exact congrArg (Holding.mk _) (if_pos (joined_sharedBy manager id key))
  · intro other differs
    refine congrArg (Holding.mk _) ?_
    rw [joined_sharedBy_ne manager key differs]
    split
    next shares => rw [keyed other shares]; rfl
    next => rfl

theorem trySharedLocked_answers (id : UInt16) {key : Bytes} (named : key ≠ []) :
    Answers manager id (.shared key) (manager.trySharedLocked id key).1 (manager.trySharedLocked id key).2 := by
  unfold trySharedLocked
  split
  next shares =>
    refine .error (.inr ?_)
    rw [Ne, holding_shared, shares]
    nofun
  next alone =>
    have unshared : (holding manager id).shared = none := holding_shared.mpr (by simpa using alone)
    split
    next some =>
      have accepts : ¬ (holding manager id).Refuses (.shared key) := by
        rintro (holder | shares)
        · obtain ⟨exclusive, rfl⟩ := holding_exclusive.mp holder
          exact alone (consistent.both exclusive some)
        · exact shares unshared
      split
      next wrong =>
        obtain ⟨sharer, shares⟩ := (sharers_pos consistent).mp some
        have differs : sharer ≠ id := by
          rintro rfl
          exact alone shares
        exact .failure accepts sharer differs (.inl ⟨manager.key, by simp [holding, shares], wrong⟩)
      next right =>
        obtain rfl : manager.key = key := by simpa using right
        exact joined_answers consistent named accepts (fun _ => rfl) (fun _ => some)
    next none =>
      split
      next owned =>
        refine .failure ?_ manager.exclusive owned.2 (.inr ⟨holding_exclusive.mpr ⟨owned.1, rfl⟩, ?_⟩)
        · rintro (holder | shares)
          · exact owned.2 (holding_exclusive.mp holder).2
          · exact shares unshared
        · rw [holding_shared, Bool.eq_false_iff]
          exact fun shares => none ((sharers_pos consistent).mpr ⟨_, shares⟩)
      next foreign =>
        split
        next own => exact .error (.inl (holding_exclusive.mpr own))
        next unowned =>
          have free : ¬ manager.hasExclusive = true := by tauto
          refine joined_answers consistent named ?_ (fun some => absurd some none) (fun held => absurd held free)
          rintro (holder | shares)
          · exact free (holding_exclusive.mp holder).1
          · exact shares unshared

theorem tryRequest_answers (id : UInt16) (lockString : Bytes) :
    Answers manager id (requested lockString) (manager.tryRequest id lockString).1
      (manager.tryRequest id lockString).2 := by
  unfold tryRequest requested
  split
  next => exact tryExclusiveLocked_answers consistent id
  next named => exact trySharedLocked_answers consistent id named

end

end Requests

section Releases
variable {manager : LockManager} {id : UInt16}

/-- A release leaves `rest` to the session and everything to the others. -/
structure Leaves (manager : LockManager) (id : UInt16) (rest : Holding Bytes) (after : LockManager) : Prop where
  consistent : Consistent after
  table : holding after = Function.update (holding manager) id rest

theorem Leaves.notifyLocked {rest : Holding Bytes} {after : LockManager} (leaves : Leaves manager id rest after) :
    Leaves manager id rest after.notifyLocked where
  consistent := leaves.consistent.notifyLocked
  table := (holding_notifyLocked after).trans leaves.table

theorem Leaves.trans {first rest : Holding Bytes} {middle after : LockManager}
    (earlier : Leaves manager id first middle) (later : Leaves middle id rest after) :
    Leaves manager id rest after where
  consistent := later.consistent
  table := by rw [later.table, earlier.table, Function.update_idem]

theorem dropExclusive_leaves (consistent : Consistent manager)
    (holder : manager.hasExclusive = true ∧ manager.exclusive = id) :
    Leaves manager id { holding manager id with exclusive := false } manager.dropExclusive where
  consistent := ⟨consistent.entries, consistent.key, fun _ => rfl, nofun⟩
  table := by
    refine Function.eq_update_iff.mpr ⟨rfl, fun other differs => congrArg (Holding.mk · _) ?_⟩
    have foreign : manager.exclusive ≠ other := holder.2 ▸ differs.symm
    simp [dropExclusive, foreign]

theorem dropShared_sharedBy (manager : LockManager) (id : UInt16) : (manager.dropShared id).sharedBy id = false := by
  simp [dropShared, sharedBy]

theorem dropShared_sharedBy_ne {other : UInt16} (differs : other ≠ id) :
    (manager.dropShared id).sharedBy other = manager.sharedBy other := by
  simp [dropShared, sharedBy, AList.lookup_erase_ne differs]

section
variable (consistent : Consistent manager) (unowned : ¬ (manager.hasExclusive = true ∧ manager.exclusive = id))
include consistent unowned

theorem Consistent.dropShared : Consistent (manager.dropShared id) := by
  have fewer : (manager.dropShared id).sharers ≤ manager.sharers := List.length_eraseP_le
  refine ⟨fun other value found => ?_, ?_, consistent.exclusive, fun exclusive some => ?_⟩
  · by_cases same : other = id
    · subst same
      exact absurd ((AList.lookup_erase other manager.shared).symm.trans found) nofun
    · exact consistent.entries other value ((AList.lookup_erase_ne same).symm.trans found)
  · by_cases last : (manager.dropShared id).sharers = 0
    · exact iff_of_false (fun named => named (if_pos last)) (by omega)
    · have named : manager.key ≠ [] := consistent.key.mpr (by omega)
      exact iff_of_true (fun unnamed => named ((if_neg last).symm.trans unnamed)) (by omega)
  · have foreign : manager.exclusive ≠ id := fun same => unowned ⟨exclusive, same⟩
    exact (dropShared_sharedBy_ne foreign).trans (consistent.both exclusive (by omega))

theorem dropShared_leaves :
    Leaves manager id {} (manager.dropShared id) where
  consistent := consistent.dropShared unowned
  table := by
    refine Function.eq_update_iff.mpr ⟨?_, fun other differs => congrArg (Holding.mk _) ?_⟩
    · have alone := holding_shared.mpr (dropShared_sharedBy manager id)
      have free : (holding (manager.dropShared id) id).exclusive = false := by
        rw [Bool.eq_false_iff]
        exact fun holder => unowned (holding_exclusive.mp holder)
      exact congrArg₂ Holding.mk free alone
    · rw [dropShared_sharedBy_ne differs]
      split
      next shares =>
        have remains : 0 < (manager.dropShared id).sharers := by
          refine (sharers_pos (consistent.dropShared unowned)).mpr ⟨other, ?_⟩
          exact (dropShared_sharedBy_ne differs).trans shares
        exact congrArg some (if_neg (by exact Nat.pos_iff_ne_zero.mp remains))
      next => rfl

theorem leaves_unheld (alone : ¬ manager.sharedBy id = true) :
    Leaves manager id {} manager where
  consistent := consistent
  table := by
    refine Function.eq_update_iff.mpr ⟨?_, fun _ _ => rfl⟩
    have free : (holding manager id).exclusive = false := by
      rw [Bool.eq_false_iff]
      exact fun holder => unowned (holding_exclusive.mp holder)
    exact congrArg₂ Holding.mk free (holding_shared.mpr (by simpa using alone))

end

theorem release_leaves (consistent : Consistent manager) (id : UInt16) :
    Leaves manager id (holding manager id).dropOne (manager.release id).2 := by
  by_cases holder : manager.hasExclusive = true ∧ manager.exclusive = id
  · rw [release, if_pos holder, Holding.dropOne, if_pos (holding_exclusive.mpr holder)]
    exact (dropExclusive_leaves consistent holder).notifyLocked
  · rw [release, if_neg holder, Holding.dropOne, if_neg fun owns => holder (holding_exclusive.mp owns)]
    split
    next => exact (dropShared_leaves consistent holder).notifyLocked
    next alone => exact leaves_unheld consistent holder alone

theorem releaseAll_leaves (consistent : Consistent manager) (id : UInt16) :
    Leaves manager id {} (manager.releaseAll id) := by
  by_cases holder : manager.hasExclusive = true ∧ manager.exclusive = id
  · have dropped := dropExclusive_leaves consistent holder
    have unowned : ¬ (manager.dropExclusive.hasExclusive = true ∧ manager.dropExclusive.exclusive = id) := nofun
    simp only [releaseAll, if_pos holder]
    split
    next => exact dropped.trans (dropShared_leaves dropped.consistent unowned).notifyLocked
    next alone => exact dropped.trans (leaves_unheld dropped.consistent unowned alone).notifyLocked
  · simp only [releaseAll, if_neg holder]
    split
    next => exact (dropShared_leaves consistent holder).notifyLocked
    next alone => exact leaves_unheld consistent holder alone

end Releases

section Runs
variable {manager : LockManager} {id : UInt16}

def caller : LockOp → Option UInt16
  | .tryRequest id _ | .release id | .releaseAll id => some id
  | .waiter | .info => none

/-- The operation reports that it did not do what it was asked for. -/
def Declined : (op : LockOp) → op.Reply → Prop
  | .tryRequest _ _, result => result = .failure ∨ result = .error
  | .release _, result => result = .failure ∨ result = .error
  | _, _ => False

def runLocks (ops : List LockOp) (manager : LockManager) : LockManager :=
  ops.foldl (fun manager op => (op.apply manager).2) manager

theorem waiterLocked_keeps (consistent : Consistent manager) :
    Consistent manager.waiterLocked.2 ∧ holding manager.waiterLocked.2 = holding manager := by
  unfold waiterLocked
  cases manager.changed with
  | some channel => exact ⟨consistent, rfl⟩
  | none => exact ⟨⟨consistent.entries, consistent.key, consistent.exclusive, consistent.both⟩, rfl⟩

private theorem unchanged_of_update {before after : Table UInt16 Bytes} {id other : UInt16} {rest : Holding Bytes}
    (table : after = Function.update before id rest) (differs : some id ≠ some other) : after other = before other := by
  rw [table]
  exact Function.update_of_ne (fun same => differs (congrArg some same.symm)) _ _

theorem apply_keeps (consistent : Consistent manager) (op : LockOp) :
    Consistent (op.apply manager).2 ∧
      ∀ id, caller op ≠ some id → holding (op.apply manager).2 id = holding manager id := by
  cases op with
  | tryRequest id lockString =>
    have answers := tryRequest_answers consistent id lockString
    by_cases granted : (manager.tryRequest id lockString).1 = .granted
    · obtain ⟨after, table⟩ := answers.granted granted
      exact ⟨after, fun other differs => unchanged_of_update table differs⟩
    · have same : ((LockOp.tryRequest id lockString).apply manager).2 = manager := answers.unchanged granted
      rw [same]
      exact ⟨consistent, fun _ _ => rfl⟩
  | waiter =>
    obtain ⟨after, table⟩ := waiterLocked_keeps consistent
    exact ⟨after, fun id _ => congrFun table id⟩
  | release id =>
    obtain ⟨after, table⟩ := release_leaves consistent id
    exact ⟨after, fun other differs => unchanged_of_update table differs⟩
  | releaseAll id =>
    obtain ⟨after, table⟩ := releaseAll_leaves consistent id
    exact ⟨after, fun other differs => unchanged_of_update table differs⟩
  | info => exact ⟨consistent, fun _ _ => rfl⟩

theorem apply_declined (consistent : Consistent manager) (op : LockOp) (declined : Declined op (op.apply manager).1) :
    (op.apply manager).2 = manager := by
  cases op with
  | tryRequest id lockString =>
    refine (tryRequest_answers consistent id lockString).unchanged fun granted => ?_
    have declined : (manager.tryRequest id lockString).1 = .failure ∨ (manager.tryRequest id lockString).1 = .error :=
      declined
    rw [granted] at declined
    cases declined <;> contradiction
  | release id =>
    have declined : (manager.release id).1 = .failure ∨ (manager.release id).1 = .error := declined
    show (manager.release id).2 = manager
    unfold release at declined ⊢
    split at declined
    · cases declined <;> contradiction
    · split at declined
      · cases declined <;> contradiction
      next unowned alone => rw [if_neg unowned, if_neg alone]
  | waiter => cases declined
  | releaseAll id => cases declined
  | info => cases declined

theorem held_iff :
    manager.held id = true ↔ (holding manager id).exclusive = true ∨ (holding manager id).shared ≠ none := by
  simp [held, holding_exclusive, holding_shared]

theorem held_releaseAll (manager : LockManager) (id : UInt16) : (manager.releaseAll id).held id = false := by
  have unheld (rest : LockManager) (unowned : ¬ (rest.hasExclusive = true ∧ rest.exclusive = id))
      (alone : rest.sharedBy id = false) : rest.held id = false := by
    simpa [held, alone] using unowned
  have notified (rest : LockManager) : rest.notifyLocked.held id = rest.held id :=
    Bool.eq_iff_iff.mpr (by rw [held_iff, held_iff, holding_notifyLocked])
  by_cases holder : manager.hasExclusive = true ∧ manager.exclusive = id
  · simp only [releaseAll, if_pos holder]
    split
    next => exact (notified _).trans (unheld _ nofun (dropShared_sharedBy _ id))
    next alone => exact (notified _).trans (unheld _ nofun (by simpa using alone))
  · simp only [releaseAll, if_neg holder]
    split
    next => exact (notified _).trans (unheld _ holder (dropShared_sharedBy _ id))
    next alone => exact unheld _ holder (by simpa using alone)

/-- A lock that is held after an operation was held before and not released, or it is granted. -/
theorem held_apply (consistent : Consistent manager) {op : LockOp} (held : (op.apply manager).2.held id = true) :
    (∃ lockString, op = .tryRequest id lockString ∧ (manager.tryRequest id lockString).1 = .granted) ∨
      (manager.held id = true ∧ op ≠ .releaseAll id) := by
  by_cases own : caller op = some id
  · cases op with
    | tryRequest other lockString =>
      obtain rfl : other = id := Option.some.inj own
      by_cases granted : (manager.tryRequest other lockString).1 = .granted
      · exact .inl ⟨lockString, rfl, granted⟩
      · have same := (tryRequest_answers consistent other lockString).unchanged granted
        exact .inr ⟨same ▸ held, nofun⟩
    | release other =>
      obtain rfl : other = id := Option.some.inj own
      refine .inr ⟨?_, nofun⟩
      have left : (holding manager other).dropOne.exclusive = true ∨ (holding manager other).dropOne.shared ≠ none := by
        rw [← Function.update_self other (holding manager other).dropOne (holding manager),
          ← (release_leaves consistent other).table]
        exact held_iff.mp held
      rw [held_iff]
      unfold Holding.dropOne at left
      split at left
      next holder => exact .inl holder
      next => exact absurd left (by simp)
    | releaseAll other =>
      obtain rfl : other = id := Option.some.inj own
      rw [LockOp.apply, held_releaseAll] at held
      cases held
    | waiter | info => cases own
  · refine .inr ⟨?_, fun same => own (same ▸ rfl)⟩
    rw [held_iff] at held ⊢
    rwa [(apply_keeps consistent op).2 id own] at held

theorem runLocks_consistent (consistent : Consistent manager) (ops : List LockOp) :
    Consistent (runLocks ops manager) := by
  induction ops generalizing manager with
  | nil => exact consistent
  | cons op rest ih => exact ih (apply_keeps consistent op).1

theorem runLocks_holding (consistent : Consistent manager) {ops : List LockOp}
    (others : ∀ op ∈ ops, caller op ≠ some id) : holding (runLocks ops manager) id = holding manager id := by
  induction ops generalizing manager with
  | nil => rfl
  | cons op rest ih =>
    obtain ⟨after, table⟩ := apply_keeps consistent op
    have later := ih after fun op member => others op (List.mem_cons_of_mem _ member)
    exact later.trans (table id (others op List.mem_cons_self))

def holders (manager : LockManager) : AList (fun _ : UInt16 => Bool) :=
  if manager.hasExclusive then manager.shared.insert manager.exclusive true else manager.shared

theorem mem_holders (consistent : Consistent manager) : id ∈ holders manager ↔ manager.held id = true := by
  unfold holders held
  split
  next exclusive => simp [exclusive, sharedBy_iff consistent, @eq_comm _ id]
  next free => simp [free, sharedBy_iff consistent]

theorem info_counts (consistent : Consistent manager) :
    manager.info = (manager.hasExclusive, { id | manager.held id = true }.ncard) := by
  have counted : { id | manager.held id = true } = (holders manager).keys.toFinset := by
    ext id
    simp [← mem_holders consistent, AList.mem_keys]
  have length : (holders manager).keys.toFinset.card = (holders manager).entries.length := by
    rw [List.toFinset_card_of_nodup (holders manager).keys_nodup]
    exact List.length_map _
  rw [counted, Set.ncard_coe_finset, length]
  rfl

theorem info_sharers (consistent : Consistent manager) : manager.info.2 =
    if 0 < manager.sharers then manager.sharers else if manager.hasExclusive then 1 else 0 := by
  have counted : manager.info.2 = (holders manager).keys.length := (List.length_map _).symm
  have shared : manager.sharers = manager.shared.keys.length := (List.length_map _).symm
  rw [counted, holders]
  by_cases some : 0 < manager.sharers
  · rw [if_pos some]
    split
    next exclusive =>
      have member : manager.exclusive ∈ manager.shared := (sharedBy_iff consistent).mp (consistent.both exclusive some)
      rw [AList.keys_insert, List.length_cons, List.length_erase_of_mem (AList.mem_keys.mp member)]
      omega
    next => exact shared.symm
  · have empty : manager.shared.keys = [] := List.eq_nil_of_length_eq_zero (by omega)
    rw [if_neg some]
    split <;> simp [AList.keys_insert, empty]

/-- In every state that the operations of any sessions lead to, the fields represent a
table of locks, `Info` counts its holders, no session changes the locks of another, and
what is declined changes nothing. -/
theorem lock_manager_represents (ops : List LockOp) :
    Consistent (runLocks ops {}) ∧
      (runLocks ops {}).info =
        ((runLocks ops {}).hasExclusive, { id | (runLocks ops {}).held id = true }.ncard) ∧
      (runLocks ops {}).info.2 =
        (if 0 < (runLocks ops {}).sharers then (runLocks ops {}).sharers
          else if (runLocks ops {}).hasExclusive then 1 else 0) ∧
      ∀ op : LockOp,
        (∀ id, caller op ≠ some id → holding (op.apply (runLocks ops {})).2 id = holding (runLocks ops {}) id) ∧
          (Declined op (op.apply (runLocks ops {})).1 → (op.apply (runLocks ops {})).2 = runLocks ops {}) := by
  have consistent := runLocks_consistent consistent_zero ops
  refine ⟨consistent, info_counts consistent, info_sharers consistent, fun op => ⟨?_, ?_⟩⟩
  · exact (apply_keeps consistent op).2
  · exact apply_declined consistent op

end Runs

section Waiting
variable {manager : LockManager} {id : UInt16} {lockString : Bytes}

theorem resultOf_injective : Function.Injective resultOf := by
  intro first second
  cases first <;> cases second <;> simp [resultOf]

theorem tryRequest_error_iff (consistent : Consistent manager) :
    (manager.tryRequest id lockString).1 = .error ↔ (holding manager id).Refuses (requested lockString) := by
  rw [(tryRequest_answers consistent id lockString).result, ← Table.verdict_error_iff]
  exact resultOf_injective.eq_iff' rfl

def clearOut (sessions : List UInt16) : List UInt16 := sessions.flatMap fun id => [id, id]

theorem mem_of_mem_clearOut {sessions : List UInt16} (doubled : id ∈ clearOut sessions) : id ∈ sessions := by
  simpa [clearOut] using doubled

theorem release_release_leaves (consistent : Consistent manager) (id : UInt16) :
    Leaves manager id {} ((manager.release id).2.release id).2 := by
  have first := release_leaves consistent id
  have second := release_leaves first.consistent id
  rw [first.table, Function.update_self, Holding.dropOne_dropOne] at second
  exact first.trans second

theorem clearOut_holding (consistent : Consistent manager) {sessions : List UInt16} {other : UInt16}
    (member : other ∈ sessions) : holding (runLocks ((clearOut sessions).map .release) manager) other = {} := by
  induction sessions generalizing manager with
  | nil => cases member
  | cons first rest ih =>
    have cleared := release_release_leaves consistent first
    by_cases later : other ∈ rest
    · exact ih cleared.consistent later
    · obtain rfl : other = first := (List.mem_cons.mp member).resolve_right later
      have kept : holding (runLocks ((clearOut rest).map .release) ((manager.release other).2.release other).2) other =
          holding ((manager.release other).2.release other).2 other := by
        refine runLocks_holding cleared.consistent fun op inside same => ?_
        obtain ⟨session, doubled, rfl⟩ := List.mem_map.mp inside
        cases same
        exact later (mem_of_mem_clearOut doubled)
      exact kept.trans (by rw [cleared.table, Function.update_self])

def rivals (manager : LockManager) (id : UInt16) : List UInt16 :=
  (manager.exclusive :: manager.shared.keys).filter (· ≠ id)

theorem holding_of_not_rival (consistent : Consistent manager) {other : UInt16} (differs : other ≠ id)
    (absent : other ∉ rivals manager id) : holding manager other = {} := by
  simp only [rivals, List.mem_filter, List.mem_cons, decide_eq_true_eq, not_and, not_not] at absent
  have unowned : (holding manager other).exclusive = false := by
    rw [Bool.eq_false_iff]
    exact fun holder => differs (absent (.inl (holding_exclusive.mp holder).2.symm))
  have alone : (holding manager other).shared = none := by
    rw [holding_shared, Bool.eq_false_iff]
    exact fun shares => differs (absent (.inr (AList.mem_keys.mp ((sharedBy_iff consistent).mp shares))))
  exact congrArg₂ Holding.mk unowned alone

theorem not_mem_clearOut_rivals (manager : LockManager) (id : UInt16) : id ∉ clearOut (rivals manager id) := by
  intro doubled
  simpa [rivals] using mem_of_mem_clearOut doubled

theorem tryRequest_after_releases (consistent : Consistent manager)
    (accepts : ¬ (holding manager id).Refuses (requested lockString)) :
    ((runLocks ((clearOut (rivals manager id)).map .release) manager).tryRequest id lockString).1 = .granted := by
  have others : ∀ op ∈ (clearOut (rivals manager id)).map LockOp.release, caller op ≠ some id := by
    intro op inside same
    obtain ⟨session, member, rfl⟩ := List.mem_map.mp inside
    cases same
    exact not_mem_clearOut_rivals manager id member
  have own := runLocks_holding consistent others
  have alone : ∀ other, other ≠ id →
      holding (runLocks ((clearOut (rivals manager id)).map .release) manager) other = {} := by
    intro other differs
    by_cases member : other ∈ rivals manager id
    · exact clearOut_holding consistent member
    · refine (runLocks_holding consistent fun op inside same => ?_).trans (holding_of_not_rival consistent differs member)
      obtain ⟨session, doubled, rfl⟩ := List.mem_map.mp inside
      cases same
      exact member (mem_of_mem_clearOut doubled)
  have free := runLocks_consistent consistent ((clearOut (rivals manager id)).map .release)
  rw [(tryRequest_answers free id lockString).result, Table.verdict_granted_iff.mpr ⟨own.symm ▸ accepts, ?_⟩]
  · rfl
  · intro other differs
    rw [alone other differs]
    exact Holding.not_bars_empty _ _

/-- An error stays one whatever the other sessions do, a failure is one that releases by
the others can end, and anything else is granted. -/
theorem lock_answers_meaning (ops : List LockOp) (id : UInt16) (lockString : Bytes) :
    (((runLocks ops {}).tryRequest id lockString).1 = .error ↔
        ∀ others : List LockOp, (∀ op ∈ others, caller op ≠ some id) →
          ((runLocks others (runLocks ops {})).tryRequest id lockString).1 = .error) ∧
      (((runLocks ops {}).tryRequest id lockString).1 = .failure ↔
        ((runLocks ops {}).tryRequest id lockString).1 ≠ .granted ∧
          ∃ sessions : List UInt16, id ∉ sessions ∧
            ((runLocks (sessions.map .release) (runLocks ops {})).tryRequest id lockString).1 = .granted) ∧
      (((runLocks ops {}).tryRequest id lockString).1 = .error ∨
        ((runLocks ops {}).tryRequest id lockString).1 = .failure ∨
        ((runLocks ops {}).tryRequest id lockString).1 = .granted ∧
          holding ((runLocks ops {}).tryRequest id lockString).2 id =
            (holding (runLocks ops {}) id).add (requested lockString)) := by
  have consistent := runLocks_consistent consistent_zero ops
  generalize runLocks ops {} = manager at consistent
  have answers := tryRequest_answers consistent id lockString
  have lasting : ∀ others : List LockOp, (∀ op ∈ others, caller op ≠ some id) →
      (((runLocks others manager).tryRequest id lockString).1 = .error ↔
        (manager.tryRequest id lockString).1 = .error) := by
    intro others foreign
    rw [tryRequest_error_iff (runLocks_consistent consistent others), tryRequest_error_iff consistent,
      runLocks_holding consistent foreign]
  refine ⟨⟨fun error others foreign => (lasting others foreign).mpr error, fun always => always [] (by simp)⟩, ?_, ?_⟩
  · constructor
    · intro failure
      refine ⟨by rw [failure]; nofun, clearOut (rivals manager id), not_mem_clearOut_rivals manager id, ?_⟩
      refine tryRequest_after_releases consistent fun refuses => ?_
      rw [(tryRequest_error_iff consistent).mpr refuses] at failure
      cases failure
    · rintro ⟨ungranted, sessions, foreign, granted⟩
      have unrefused : (manager.tryRequest id lockString).1 ≠ .error := by
        intro error
        refine absurd ((lasting (sessions.map .release) ?_).mpr error) (by rw [granted]; nofun)
        intro op inside same
        obtain ⟨session, member, rfl⟩ := List.mem_map.mp inside
        cases same
        exact foreign member
      rw [answers.result] at ungranted unrefused ⊢
      cases verdict : (holding manager).verdict id (requested lockString) with
      | granted => exact absurd (congrArg resultOf verdict) ungranted
      | failure => rfl
      | error => exact absurd (congrArg resultOf verdict) unrefused
  · cases verdict : (holding manager).verdict id (requested lockString) with
    | error => exact .inl (answers.result.trans (congrArg resultOf verdict))
    | failure => exact .inr (.inl (answers.result.trans (congrArg resultOf verdict)))
    | granted =>
      have granted := answers.result.trans (congrArg resultOf verdict)
      refine .inr (.inr ⟨granted, ?_⟩)
      rw [(answers.granted granted).2, Function.update_self]

end Waiting

end Hislip.Proofs.LockTable
