import Mathlib.Algebra.BigOperators.Group.List.Basic
import Mathlib.Algebra.Ring.Int.Defs
import Mathlib.Logic.Function.Basic
import Hislip.Discipline
import Hislip.Transition

/-! Programs that run at the same time over one shared state, one operation at a time
and in any order. What a thread has found out about the state it may rely on as long as
no operation of another thread undoes it. -/

namespace Hislip.Threads
open Program

variable {τ ω κ Op Φ α : Type} {Reply : Op → Type}

structure Pool (τ ω : Type) {Op : Type} (Reply : Op → Type) (α : Type) where
  shared : ω
  threads : List (τ × Program Op Reply α) := []

inductive Move (τ κ : Type) where
  | start (task : τ)
  | advance (thread : Nat) (outside : κ)

/-- `apply` performs an operation on the shared state, given what the outside replies. -/
def Pool.step (apply : (op : Op) → κ → ω → Option (Reply op × ω)) (program : τ → Program Op Reply α)
    (pool : Pool τ ω Reply α) : Move τ κ → Option (Pool τ ω Reply α)
  | .start task => some { pool with threads := pool.threads ++ [(task, program task)] }
  | .advance thread outside =>
    match pool.threads[thread]? with
    | some (task, .request op next) =>
      (apply op outside pool.shared).map fun result =>
        { shared := result.2, threads := pool.threads.set thread (task, next result.1) }
    | _ => none

variable {apply : (op : Op) → κ → ω → Option (Reply op × ω)} {program : τ → Program Op Reply α}
  {pool after : Pool τ ω Reply α} {thread : Nat}

theorem step_advance {outside : κ} (moved : pool.step apply program (.advance thread outside) = some after) :
    ∃ task op next reply shared, pool.threads[thread]? = some (task, .request op next) ∧
      apply op outside pool.shared = some (reply, shared) ∧
      after = { shared, threads := pool.threads.set thread (task, next reply) } := by
  simp only [Pool.step] at moved
  split at moved
  next task op next running =>
    obtain ⟨⟨reply, shared⟩, applied, rfl⟩ := Option.map_eq_some_iff.mp moved
    exact ⟨task, op, next, reply, shared, running, applied, rfl⟩
  next => cases moved

/-- The shared state meets the invariant, every thread follows the discipline from a
phase that the shared state backs, and the phases of any two threads are compatible. -/
structure Guarded (discipline : Discipline Op Reply Φ) (post : α → Φ → Prop) (backed : τ → Φ → ω → Prop)
    (compatible : Φ → Φ → Prop) (invariant : ω → Prop) (pool : Pool τ ω Reply α) : Prop where
  shared : invariant pool.shared
  threads : ∃ phase : Nat → Φ,
    (∀ index thread, pool.threads[index]? = some thread →
      Follows discipline post thread.2 (phase index) ∧ backed thread.1 (phase index) pool.shared) ∧
    ∀ first second, first < pool.threads.length → second < pool.threads.length → first ≠ second →
      compatible (phase first) (phase second)

variable {discipline : Discipline Op Reply Φ} {post : α → Φ → Prop} {backed : τ → Φ → ω → Prop}
  {compatible : Φ → Φ → Prop} {invariant : ω → Prop} {task : τ} {shared : ω}

theorem guarded_empty (holds : invariant shared) (phase : Φ) :
    Guarded discipline post backed compatible invariant ({ shared } : Pool τ ω Reply α) :=
  ⟨holds, fun _ => phase, fun _ _ => nofun, fun _ _ => nofun⟩

section
variable (guarded : Guarded discipline post backed compatible invariant pool)
include guarded

theorem Guarded.start {start : Φ} (follows : Follows discipline post (program task) start)
    (begins : backed task start pool.shared)
    (apart : ∀ other ∈ pool.threads, ∀ phase, backed other.1 phase pool.shared → compatible start phase ∧
      compatible phase start) :
    Guarded discipline post backed compatible invariant
      { pool with threads := pool.threads ++ [(task, program task)] } := by
  obtain ⟨holds, phase, standing, separate⟩ := guarded
  have beside : ∀ index < pool.threads.length, compatible start (phase index) ∧ compatible (phase index) start := by
    intro index inside
    have found := List.getElem?_eq_getElem inside
    exact apart _ (List.mem_of_getElem? found) _ (standing index _ found).2
  refine ⟨holds, Function.update phase pool.threads.length start, fun index thread found => ?_, ?_⟩
  · by_cases last : index = pool.threads.length
    · subst last
      rw [List.getElem?_concat_length, Option.some_inj] at found
      subst found
      rw [Function.update_self]
      exact ⟨follows, begins⟩
    · rw [Function.update_of_ne last]
      refine standing index thread ?_
      have bound := (List.getElem?_eq_some_iff.mp found).1
      rw [List.length_append, List.length_singleton] at bound
      rwa [List.getElem?_append_left (by omega)] at found
  · intro first second left right differ
    simp only [List.length_append, List.length_singleton] at left right
    by_cases one : first = pool.threads.length
    · rw [one, Function.update_self, Function.update_of_ne (one ▸ Ne.symm differ)]
      exact (beside second (by omega)).1
    by_cases two : second = pool.threads.length
    · rw [two, Function.update_self, Function.update_of_ne one]
      exact (beside first (by omega)).2
    · rw [Function.update_of_ne one, Function.update_of_ne two]
      exact separate first second (by omega) (by omega) differ

/-- One operation of a thread. It may change what the phases of the others rest on only
as far as those are compatible with its own. -/
theorem Guarded.advance {op : Op} {next : Reply op → Program Op Reply α} {reply : Reply op}
    (running : pool.threads[thread]? = some (task, .request op next))
    (keeps : ∀ phase, backed task phase pool.shared → discipline.allowed phase op → invariant shared ∧
      discipline.possible phase op reply ∧ backed task (discipline.advance phase op reply) shared ∧
      ∀ other ∈ pool.threads, ∀ rest, compatible phase rest → compatible rest phase → backed other.1 rest pool.shared →
      backed other.1 rest shared ∧ compatible (discipline.advance phase op reply) rest ∧
      compatible rest (discipline.advance phase op reply)) :
    Guarded discipline post backed compatible invariant
      { shared, threads := pool.threads.set thread (task, next reply) } := by
  obtain ⟨holds, phase, standing, separate⟩ := guarded
  have bound := (List.getElem?_eq_some_iff.mp running).1
  obtain ⟨follows, held⟩ := standing thread _ running
  obtain ⟨kept, possible, later, others⟩ := keeps (phase thread) held follows.1
  have beside : ∀ index other, pool.threads[index]? = some other → index ≠ thread →
      backed other.1 (phase index) shared ∧ compatible (discipline.advance (phase thread) op reply) (phase index) ∧
        compatible (phase index) (discipline.advance (phase thread) op reply) := by
    intro index other found differs
    have inside := (List.getElem?_eq_some_iff.mp found).1
    exact others other (List.mem_of_getElem? found) (phase index) (separate thread index bound inside differs.symm)
      (separate index thread inside bound differs) (standing index other found).2
  refine ⟨kept, Function.update phase thread (discipline.advance (phase thread) op reply), fun index other found => ?_, ?_⟩
  · by_cases same : index = thread
    · subst same
      rw [List.getElem?_set_self bound, Option.some_inj] at found
      subst found
      rw [Function.update_self]
      exact ⟨follows.2 reply possible, later⟩
    · rw [List.getElem?_set_ne (Ne.symm same)] at found
      rw [Function.update_of_ne same]
      exact ⟨(standing index other found).1, (beside index other found same).1⟩
  · intro first second left right differ
    simp only [List.length_set] at left right
    by_cases one : first = thread
    · subst one
      rw [Function.update_self, Function.update_of_ne (Ne.symm differ)]
      exact (beside second _ (List.getElem?_eq_getElem right) (Ne.symm differ)).2.1
    by_cases two : second = thread
    · subst two
      rw [Function.update_self, Function.update_of_ne one]
      exact (beside first _ (List.getElem?_eq_getElem left) one).2.2
    · rw [Function.update_of_ne one, Function.update_of_ne two]
      exact separate first second left right differ

theorem Guarded.running {program : Program Op Reply α} (running : pool.threads[thread]? = some (task, program)) :
    ∃ phase, Follows discipline post program phase ∧ backed task phase pool.shared := by
  obtain ⟨-, phase, standing, -⟩ := guarded
  exact ⟨phase thread, standing thread _ running⟩

end

/-- The shared state meets the invariant, every thread follows the discipline from a
phase that the shared state backs, and what the phases weigh adds up to the balance of
the shared state. -/
structure Balanced (discipline : Discipline Op Reply Φ) (post : α → Φ → Prop) (backed : τ → Φ → ω → Prop)
    (invariant : ω → Prop) (weight : Φ → Int) (balance : ω → Int) (pool : Pool τ ω Reply α) : Prop where
  shared : invariant pool.shared
  threads : ∃ phases : List Φ, phases.length = pool.threads.length ∧
    (∀ (index : Nat) (thread : τ × Program Op Reply α) (phase : Φ), pool.threads[index]? = some thread →
      phases[index]? = some phase →
      Follows discipline post thread.2 phase ∧ backed thread.1 phase pool.shared) ∧
    balance pool.shared = (phases.map weight).sum

variable {weight : Φ → Int} {balance : ω → Int}

theorem balanced_empty (holds : invariant shared) (even : balance shared = 0) :
    Balanced discipline post backed invariant weight balance ({ shared } : Pool τ ω Reply α) :=
  ⟨holds, [], rfl, fun _ _ _ => nofun, even⟩

section
variable (balanced : Balanced discipline post backed invariant weight balance pool)
include balanced

theorem Balanced.start {start : Φ} (follows : Follows discipline post (program task) start)
    (begins : backed task start pool.shared) (light : weight start = 0) :
    Balanced discipline post backed invariant weight balance
      { pool with threads := pool.threads ++ [(task, program task)] } := by
  obtain ⟨holds, phases, same, standing, total⟩ := balanced
  refine ⟨holds, phases ++ [start], ?_, fun index thread phase found held => ?_, ?_⟩
  · simp only [List.length_append, List.length_singleton, same]
  · by_cases earlier : index < pool.threads.length
    · rw [List.getElem?_append_left earlier] at found
      rw [List.getElem?_append_left (same ▸ earlier)] at held
      exact standing index thread phase found held
    · rw [List.getElem?_append_right (by omega)] at found
      rw [List.getElem?_append_right (by omega), same] at held
      obtain ⟨inside, rfl⟩ := List.getElem?_eq_some_iff.mp found
      obtain ⟨-, rfl⟩ := List.getElem?_eq_some_iff.mp held
      simp only [List.getElem_singleton]
      exact ⟨follows, begins⟩
  · simp only [List.map_append, List.map_cons, List.map_nil, List.sum_append, List.sum_singleton, light, add_zero]
    exact total

/-- One operation of a thread moves the balance as it moves the weight of its phase. -/
theorem Balanced.advance {op : Op} {next : Reply op → Program Op Reply α} {reply : Reply op}
    (running : pool.threads[thread]? = some (task, .request op next))
    (keeps : ∀ phase, backed task phase pool.shared → discipline.allowed phase op → invariant shared ∧
      discipline.possible phase op reply ∧ backed task (discipline.advance phase op reply) shared ∧
      balance shared - balance pool.shared = weight (discipline.advance phase op reply) - weight phase)
    (others : ∀ other phase, backed other phase pool.shared → backed other phase shared) :
    Balanced discipline post backed invariant weight balance
      { shared, threads := pool.threads.set thread (task, next reply) } := by
  obtain ⟨holds, phases, same, standing, total⟩ := balanced
  have bound := (List.getElem?_eq_some_iff.mp running).1
  have inside : thread < phases.length := same ▸ bound
  have held := List.getElem?_eq_getElem inside
  obtain ⟨follows, based⟩ := standing thread _ _ running held
  obtain ⟨kept, possible, later, moved⟩ := keeps phases[thread] based follows.1
  refine ⟨kept, phases.set thread (discipline.advance phases[thread] op reply), ?_,
    fun index other phase found placed => ?_, ?_⟩
  · simp only [List.length_set, same]
  · by_cases own : index = thread
    · subst own
      rw [List.getElem?_set_self bound, Option.some_inj] at found
      rw [List.getElem?_set_self inside, Option.some_inj] at placed
      subst found placed
      exact ⟨follows.2 reply possible, later⟩
    · rw [List.getElem?_set_ne (Ne.symm own)] at found placed
      obtain ⟨goes, rests⟩ := standing index other phase found placed
      exact ⟨goes, others other.1 phase rests⟩
  · have within : thread < (phases.map weight).length := by rwa [List.length_map]
    rw [List.map_set, List.sum_set', dif_pos within, List.getElem_map, ← total]
    change balance shared = _
    omega

theorem Balanced.total {due : τ × Program Op Reply α → Int}
    (weighs : ∀ thread ∈ pool.threads, ∀ phase, Follows discipline post thread.2 phase →
      backed thread.1 phase pool.shared → weight phase = due thread) :
    balance pool.shared = (pool.threads.map due).sum := by
  obtain ⟨-, phases, same, standing, total⟩ := balanced
  have alike : phases.map weight = pool.threads.map due := by
    apply List.ext_getElem (by simpa only [List.length_map] using same)
    intro index first second
    rw [List.length_map] at first second
    have found := List.getElem?_eq_getElem second
    obtain ⟨follows, based⟩ := standing index _ _ found (List.getElem?_eq_getElem first)
    simp only [List.getElem_map]
    exact weighs _ (List.getElem_mem second) _ follows based
  rw [total, alike]

end

end Hislip.Threads
