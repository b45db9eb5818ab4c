import Mathlib.Algebra.BigOperators.Group.List.Basic
import Mathlib.Data.List.Perm.Subperm
import Mathlib.Tactic.Abel
import Hislip.Threads

/-! Threads that remember what they have done. A discipline that every program follows is
kept by every thread in every run, and what the threads' phases say about the shared state
may be carried along as one account of them all. -/

namespace Hislip

structure Performed {Op : Type} (Reply : Op → Type) where
  operation : Op
  reply : Reply operation

namespace Discipline
variable {Op Φ : Type} {Reply : Op → Type} (discipline : Discipline Op Reply Φ)

def after (phase : Φ) : List (Performed Reply) → Φ
  | [] => phase
  | event :: rest => after (discipline.advance phase event.operation event.reply) rest

/-- Every operation was allowed when it was performed, and its reply was expected. -/
def Kept : Φ → List (Performed Reply) → Prop
  | _, [] => True
  | phase, event :: rest =>
    discipline.allowed phase event.operation ∧ discipline.possible phase event.operation event.reply ∧
      Kept (discipline.advance phase event.operation event.reply) rest

variable {discipline} {phase : Φ} {past later : List (Performed Reply)}

theorem after_append : discipline.after phase (past ++ later) = discipline.after (discipline.after phase past) later := by
  induction past generalizing phase with
  | nil => rfl
  | cons event rest ih => exact ih

theorem kept_append :
    discipline.Kept phase (past ++ later) ↔
      discipline.Kept phase past ∧ discipline.Kept (discipline.after phase past) later := by
  induction past generalizing phase with
  | nil => exact ⟨fun kept => ⟨trivial, kept⟩, And.right⟩
  | cons event rest ih =>
    simp only [List.cons_append, Kept, after, ih]
    tauto

/-- A key that a phase gets once, by an operation, it has exactly when that operation was
performed. -/
theorem Kept.key_iff {ρ : Type} (kept : discipline.Kept phase past) (key : Φ → Option ρ)
    (gets : (op : Op) → Reply op → Option ρ)
    (step : ∀ phase op reply, discipline.allowed phase op →
      key (discipline.advance phase op reply) = (gets op reply).or (key phase))
    (once : ∀ phase op reply value, discipline.allowed phase op → gets op reply = some value → key phase = none)
    {value : ρ} :
    key (discipline.after phase past) = some value ↔
      key phase = some value ∨ ∃ event ∈ past, gets event.operation event.reply = some value := by
  induction past generalizing phase with
  | nil => simp [after]
  | cons event rest ih =>
    obtain ⟨allowed, -, later⟩ := kept
    rw [after, ih later, step phase event.operation event.reply allowed]
    cases got : gets event.operation event.reply with
    | none => simp [got]
    | some found => simp [got, once phase event.operation event.reply found allowed got]

theorem Kept.gained (kept : discipline.Kept phase past) (has : Φ → Prop) (gets : (op : Op) → Reply op → Prop)
    (step : ∀ phase op reply, discipline.allowed phase op → has (discipline.advance phase op reply) → has phase ∨
      gets op reply)
    (now : has (discipline.after phase past)) : has phase ∨ ∃ event ∈ past, gets event.operation event.reply := by
  induction past generalizing phase with
  | nil => exact .inl now
  | cons event rest ih =>
    obtain ⟨allowed, -, later⟩ := kept
    rcases ih later now with here | ⟨other, member, got⟩
    · rcases step phase event.operation event.reply allowed here with before | gets
      · exact .inl before
      · exact .inr ⟨event, List.mem_cons_self, gets⟩
    · exact .inr ⟨other, List.mem_cons_of_mem _ member, got⟩

theorem Kept.lasting (kept : discipline.Kept phase past) (has : Φ → Prop) (gets : (op : Op) → Reply op → Prop)
    (sets : ∀ phase op reply, discipline.allowed phase op → gets op reply → has (discipline.advance phase op reply))
    (stays : ∀ phase op reply, discipline.allowed phase op → has phase → has (discipline.advance phase op reply))
    (one : has phase ∨ ∃ event ∈ past, gets event.operation event.reply) : has (discipline.after phase past) := by
  induction past generalizing phase with
  | nil =>
    rcases one with now | ⟨event, member, -⟩
    · exact now
    · cases member
  | cons event rest ih =>
    obtain ⟨allowed, -, later⟩ := kept
    refine ih later ?_
    rcases one with now | ⟨other, member, got⟩
    · exact .inl (stays phase event.operation event.reply allowed now)
    · rcases List.mem_cons.mp member with rfl | inside
      · exact .inl (sets phase other.operation other.reply allowed got)
      · exact .inr ⟨other, inside, got⟩

def recorder : Discipline Op Reply (List (Performed Reply)) where
  allowed _ _ := True
  advance past op reply := past ++ [⟨op, reply⟩]

theorem after_recorder : recorder.after past later = past ++ later := by
  induction later generalizing past with
  | nil => exact (List.append_nil past).symm
  | cons event rest ih => rw [after, ih, recorder, List.append_assoc, List.singleton_append]

theorem heeds_recorder {α : Type} (program : Program Op Reply α) : Program.Heeds recorder program := by
  intro past
  induction program generalizing past with
  | pure value => trivial
  | request op next ih => exact ⟨trivial, fun reply _ => ih reply _⟩

section Both
variable {Ψ : Type} {other : Discipline Op Reply Ψ} {also : Ψ}

theorem after_both : (discipline.both other).after (phase, also) past =
    (discipline.after phase past, other.after also past) := by
  induction past generalizing phase also with
  | nil => rfl
  | cons event rest ih => exact ih

theorem Kept.both (kept : (discipline.both other).Kept (phase, also) past) :
    discipline.Kept phase past ∧ other.Kept also past := by
  induction past generalizing phase also with
  | nil => exact ⟨trivial, trivial⟩
  | cons event rest ih =>
    obtain ⟨⟨allowed, permitted⟩, ⟨possible, expected⟩, later⟩ := kept
    obtain ⟨one, two⟩ := ih later
    exact ⟨⟨allowed, possible, one⟩, permitted, expected, two⟩

end Both

end Discipline

namespace Threads
open Program Transition

variable {τ ω κ Op Φ α : Type} {Reply : Op → Type}

section Entries
variable {β ρ : Type} {entries : List β} {number : Nat} {old : β} {new : β}

theorem mem_set_of_mem (found : entries[number]? = some old) (new : β) {entry : β} (member : entry ∈ entries) :
    entry = old ∨ entry ∈ entries.set number new := by
  obtain ⟨index, held⟩ := List.getElem?_of_mem member
  by_cases same : index = number
  · subst same
    exact .inl (Option.some.inj (held.symm.trans found))
  · refine .inr (List.mem_of_getElem? (i := index) ?_)
    rwa [List.getElem?_set_ne (Ne.symm same)]

theorem mem_set_cases {new entry : β} (member : entry ∈ entries.set number new) :
    entry = new ∨ ∃ index, index ≠ number ∧ entries[index]? = some entry := by
  obtain ⟨index, held⟩ := List.getElem?_of_mem member
  by_cases same : index = number
  · subst same
    rw [List.getElem?_set] at held
    simp only [if_true] at held
    split at held
    next => exact .inl (Option.some.inj held).symm
    next => cases held
  · rw [List.getElem?_set_ne (Ne.symm same)] at held
    exact .inr ⟨index, same, held⟩

theorem exists_set {has later : β → Prop} (found : entries[number]? = some old) (one : ∃ entry ∈ entries, has entry)
    (stays : ∀ entry, has entry → later entry) (moves : has old → later new) :
    ∃ entry ∈ entries.set number new, later entry := by
  obtain ⟨entry, member, having⟩ := one
  rcases mem_set_of_mem found new member with rfl | kept
  · exact ⟨new, List.mem_set (List.getElem?_eq_some_iff.mp found).1 new, moves having⟩
  · exact ⟨entry, kept, stays entry having⟩

theorem exists_set_new {later : β → Prop} (found : entries[number]? = some old) (now : later new) :
    ∃ entry ∈ entries.set number new, later entry :=
  ⟨new, List.mem_set (List.getElem?_eq_some_iff.mp found).1 new, now⟩

theorem exists_concat {has : β → Prop} (one : ∃ entry ∈ entries, has entry) (new : β) :
    ∃ entry ∈ entries ++ [new], has entry := by
  obtain ⟨entry, member, having⟩ := one
  exact ⟨entry, List.mem_append_left _ member, having⟩

def Sole (key : β → Option ρ) (entries : List β) : Prop :=
  ∀ (first second : Nat) one two value, entries[first]? = some one → entries[second]? = some two →
    key one = some value → key two = some value → first = second

variable {key : β → Option ρ}

theorem Sole.concat (sole : Sole key entries) (without : key new = none) : Sole key (entries ++ [new]) := by
  have earlier : ∀ (index : Nat) entry value, (entries ++ [new])[index]? = some entry → key entry = some value →
      entries[index]? = some entry := by
    intro index entry value found has
    by_cases inside : index < entries.length
    · rwa [List.getElem?_append_left inside] at found
    · rw [List.getElem?_append_right (by omega)] at found
      rw [List.mem_singleton.mp (List.mem_of_getElem? found), without] at has
      cases has
  intro first second one two value left right has also
  exact sole first second one two value (earlier first one value left has) (earlier second two value right also) has also

theorem Sole.set (sole : Sole key entries) (found : entries[number]? = some old)
    (unused : ∀ value, key new = some value → key old = some value ∨ ∀ entry ∈ entries, key entry ≠ some value) :
    Sole key (entries.set number new) := by
  have bound := (List.getElem?_eq_some_iff.mp found).1
  -- Away from the entry that changes, a key is one that it does not get.
  have apart : ∀ (index : Nat) entry value, index ≠ number → (entries.set number new)[index]? = some entry →
      key entry = some value → key new ≠ some value := by
    intro index entry value differs held has gets
    rw [List.getElem?_set_ne (Ne.symm differs)] at held
    rcases unused value gets with kept | nobody
    · exact differs (sole index number entry old value held found has kept)
    · exact nobody entry (List.mem_of_getElem? held) has
  intro first second one two value left right has also
  by_cases one_changed : first = number
  · by_cases two_changed : second = number
    · omega
    · subst one_changed
      rw [List.getElem?_set_self bound, Option.some_inj] at left
      subst left
      exact absurd has (apart second two value two_changed right also)
  · by_cases two_changed : second = number
    · subst two_changed
      rw [List.getElem?_set_self bound, Option.some_inj] at right
      subst right
      exact absurd also (apart first one value one_changed left has)
    · rw [List.getElem?_set_ne (Ne.symm one_changed)] at left
      rw [List.getElem?_set_ne (Ne.symm two_changed)] at right
      exact sole first second one two value left right has also

theorem forall_set {fits later : β → Prop} (each : ∀ entry ∈ entries, fits entry)
    (stays : ∀ entry, fits entry → later entry) (now : later new) : ∀ entry ∈ entries.set number new, later entry := by
  intro entry member
  rcases List.mem_or_eq_of_mem_set member with old | rfl
  · exact stays entry (each entry old)
  · exact now

theorem forall_concat {fits : β → Prop} (each : ∀ entry ∈ entries, fits entry) (now : fits new) :
    ∀ entry ∈ entries ++ [new], fits entry := by
  intro entry member
  rcases List.mem_append.mp member with old | last
  · exact each entry old
  · rw [List.mem_singleton.mp last]
    exact now

theorem sum_set {M : Type} [AddCommMonoid M] (found : entries[number]? = some old) (weight : β → M) (new : β) :
    ((entries.set number new).map weight).sum + weight old = (entries.map weight).sum + weight new := by
  induction entries generalizing number with
  | nil => cases found
  | cons first rest ih =>
    cases number with
    | zero =>
      obtain rfl : first = old := Option.some.inj found
      simp only [List.set_cons_zero, List.map_cons, List.sum_cons]
      abel
    | succ number =>
      have later := ih found
      simp only [List.set_cons_succ, List.map_cons, List.sum_cons, add_assoc, later]

theorem sum_set_balance {M : Type} [AddCancelCommMonoid M] {weight : β → M} {rest later gains loses : M}
    (found : entries[number]? = some old) (entry : weight new + loses = weight old + gains)
    (others : later + gains = rest + loses) :
    later + ((entries.set number new).map weight).sum = rest + (entries.map weight).sum := by
  have total := sum_set found weight new
  refine add_right_cancel (b := weight old + gains) ?_
  calc
    later + ((entries.set number new).map weight).sum + (weight old + gains)
        = (later + gains) + (((entries.set number new).map weight).sum + weight old) := by abel
    _ = (rest + loses) + ((entries.map weight).sum + weight new) := by rw [others, total]
    _ = rest + (entries.map weight).sum + (weight new + loses) := by abel
    _ = rest + (entries.map weight).sum + (weight old + gains) := by rw [entry]

end Entries

/-- The task that a thread was started for, what it has done, and what is left of it. -/
structure Thread (τ : Type) {Op : Type} (Reply : Op → Type) (α : Type) where
  task : τ
  past : List (Performed Reply) := []
  rest : Program Op Reply α

structure Chronicle (τ ω : Type) {Op : Type} (Reply : Op → Type) (α : Type) where
  shared : ω
  threads : List (Thread τ Reply α) := []

/-- Moves are those of a pool; the thread that advances also notes what it did. -/
def Chronicle.step (apply : (op : Op) → κ → ω → Option (Reply op × ω)) (program : τ → Program Op Reply α)
    (chronicle : Chronicle τ ω Reply α) : Move τ κ → Option (Chronicle τ ω Reply α)
  | .start task => some { chronicle with threads := chronicle.threads ++ [{ task, rest := program task }] }
  | .advance number outside =>
    match chronicle.threads[number]? with
    | some ⟨task, past, .request op next⟩ =>
      (apply op outside chronicle.shared).map fun result =>
        { shared := result.2
          threads := chronicle.threads.set number ⟨task, past ++ [⟨op, result.1⟩], next result.1⟩ }
    | _ => none

namespace Thread

def returned (thread : Thread τ Reply α) : Bool :=
  match thread.rest with
  | .pure _ => true
  | .request _ _ => false

def phase (discipline : Discipline Op Reply Φ) (start : τ → Φ) (thread : Thread τ Reply α) : Φ :=
  discipline.after (start thread.task) thread.past

/-- The thread has kept to the discipline, and what is left of it will. -/
structure Abides (discipline : Discipline Op Reply Φ) (post : α → Φ → Prop) (start : τ → Φ)
    (thread : Thread τ Reply α) : Prop where
  kept : discipline.Kept (start thread.task) thread.past
  follows : Follows discipline post thread.rest (thread.phase discipline start)

variable {discipline : Discipline Op Reply Φ} {thread : Thread τ Reply α} {post : α → Φ → Prop} {start : τ → Φ}

theorem Abides.ended (abides : thread.Abides discipline post start) (returned : thread.returned = true) :
    ∃ value, post value (thread.phase discipline start) := by
  have follows := abides.follows
  unfold Thread.returned at returned
  cases left : thread.rest with
  | pure value =>
    rw [left] at follows
    exact ⟨value, follows⟩
  | request op next =>
    rw [left] at returned
    cases returned

theorem Abides.unreturned {ρ : Type} {resource : ρ} (abides : thread.Abides discipline post start)
    (held : Φ → Option ρ) (lets_go : ∀ value phase, post value phase → held phase = none)
    (holds : held (thread.phase discipline start) = some resource) : thread.returned = false := by
  by_contra other
  obtain ⟨value, met⟩ := abides.ended (Bool.of_not_eq_false other)
  rw [lets_go value _ met] at holds
  cases holds

end Thread

namespace Chronicle

def phases (discipline : Discipline Op Reply Φ) (start : τ → Φ) (chronicle : Chronicle τ ω Reply α) : List (τ × Φ) :=
  chronicle.threads.map fun thread => (thread.task, thread.phase discipline start)

def unreturned (chronicle : Chronicle τ ω Reply α) : Nat := chronicle.threads.countP fun thread => !thread.returned

/-- All threads abide by the discipline, and the account of their phases is right. -/
structure Lawful (discipline : Discipline Op Reply Φ) (post : α → Φ → Prop) (start : τ → Φ)
    (account : ω → List (τ × Φ) → Prop) (chronicle : Chronicle τ ω Reply α) : Prop where
  threads : ∀ thread ∈ chronicle.threads, thread.Abides discipline post start
  account : account chronicle.shared (chronicle.phases discipline start)

variable {apply : (op : Op) → κ → ω → Option (Reply op × ω)} {program : τ → Program Op Reply α}
  {chronicle later : Chronicle τ ω Reply α} {discipline : Discipline Op Reply Φ} {post : α → Φ → Prop} {start : τ → Φ}
  {account : ω → List (τ × Φ) → Prop} {move : Move τ κ}

theorem step_advance {number : Nat} {outside : κ}
    (moved : chronicle.step apply program (.advance number outside) = some later) :
    ∃ task past op next reply shared, chronicle.threads[number]? = some ⟨task, past, .request op next⟩ ∧
      apply op outside chronicle.shared = some (reply, shared) ∧
      later = { shared, threads := chronicle.threads.set number ⟨task, past ++ [⟨op, reply⟩], next reply⟩ } := by
  simp only [Chronicle.step] at moved
  split at moved
  next task past op next running =>
    obtain ⟨⟨reply, shared⟩, applied, rfl⟩ := Option.map_eq_some_iff.mp moved
    exact ⟨task, past, op, next, reply, shared, running, applied, rfl⟩
  next => cases moved

def Did (chronicle : Chronicle τ ω Reply α) (what : Performed Reply → Prop) : Prop :=
  ∃ thread ∈ chronicle.threads, ∃ event ∈ thread.past, what event

theorem step_cases (moved : chronicle.step apply program move = some later) :
    (∃ task, move = .start task ∧ later.threads = chronicle.threads ++ [{ task, rest := program task }] ∧
        later.shared = chronicle.shared ∧ ∀ what, later.Did what ↔ chronicle.Did what) ∨
      ∃ number outside task past op next reply, move = .advance number outside ∧
        chronicle.threads[number]? = some ⟨task, past, .request op next⟩ ∧
        apply op outside chronicle.shared = some (reply, later.shared) ∧
        later.threads = chronicle.threads.set number ⟨task, past ++ [⟨op, reply⟩], next reply⟩ ∧
        ∀ what, later.Did what ↔ what ⟨op, reply⟩ ∨ chronicle.Did what := by
  cases move with
  | start task =>
    cases moved
    refine .inl ⟨task, rfl, rfl, rfl, fun what => ?_⟩
    simp [Did]
  | advance number outside =>
    obtain ⟨task, past, op, next, reply, shared, running, applied, rfl⟩ := step_advance moved
    refine .inr ⟨number, outside, task, past, op, next, reply, rfl, running, applied, rfl, fun what => ⟨?_, ?_⟩⟩
    · rintro ⟨thread, member, event, performed, holds⟩
      rcases List.mem_or_eq_of_mem_set member with old | rfl
      · exact .inr ⟨thread, old, event, performed, holds⟩
      · rcases List.mem_append.mp performed with earlier | last
        · exact .inr ⟨_, List.mem_of_getElem? running, event, earlier, holds⟩
        · rw [List.mem_singleton.mp last] at holds
          exact .inl holds
    · rintro (now | one)
      · exact exists_set_new running ⟨_, List.mem_append_right _ (List.mem_singleton_self _), now⟩
      · refine exists_set running one (fun _ still => still) ?_
        rintro ⟨event, performed, holds⟩
        exact ⟨event, List.mem_append_left _ performed, holds⟩

theorem Lawful.step (lawful : chronicle.Lawful discipline post start account)
    (follows : ∀ task, Follows discipline post (program task) (start task))
    (begins : ∀ shared phases task, account shared phases → account shared (phases ++ [(task, start task)]))
    (advances : ∀ shared phases number task phase op outside reply after, account shared phases →
      phases[number]? = some (task, phase) → discipline.allowed phase op →
      apply op outside shared = some (reply, after) → discipline.possible phase op reply ∧
      account after (phases.set number (task, discipline.advance phase op reply)))
    (moved : chronicle.step apply program move = some later) : later.Lawful discipline post start account := by
  cases move with
  | start task =>
    cases moved
    refine ⟨fun thread member => ?_, ?_⟩
    · rcases List.mem_append.mp member with old | new
      · exact lawful.threads thread old
      · rw [List.mem_singleton.mp new]
        exact ⟨trivial, follows task⟩
    · have grown := begins _ _ task lawful.account
      rw [phases, List.map_append]
      exact grown
  | advance number outside =>
    obtain ⟨task, past, op, next, reply, shared, running, applied, rfl⟩ := step_advance moved
    have abides := lawful.threads _ (List.mem_of_getElem? running)
    have listed : (chronicle.phases discipline start)[number]? =
        some (task, discipline.after (start task) past) := by
      rw [phases, List.getElem?_map, running]
      rfl
    obtain ⟨possible, kept⟩ :=
      advances _ _ number task _ op outside reply shared lawful.account listed abides.follows.1 applied
    refine ⟨fun thread member => ?_, ?_⟩
    · rcases List.mem_or_eq_of_mem_set member with old | rfl
      · exact lawful.threads thread old
      · refine ⟨Discipline.kept_append.mpr ⟨abides.kept, abides.follows.1, possible, trivial⟩, ?_⟩
        simp only [Thread.phase, Discipline.after_append]
        exact abides.follows.2 reply possible
    · rw [phases, List.map_set]
      simp only [Thread.phase, Discipline.after_append]
      exact kept

/-- A discipline that the program of every task follows is kept in every run, as long as
each operation keeps the account and gets a reply that the discipline expects. -/
theorem always_lawful {shared : ω} (follows : ∀ task, Follows discipline post (program task) (start task))
    (opens : account shared [])
    (begins : ∀ shared phases task, account shared phases → account shared (phases ++ [(task, start task)]))
    (advances : ∀ shared phases number task phase op outside reply after, account shared phases →
      phases[number]? = some (task, phase) → discipline.allowed phase op →
      apply op outside shared = some (reply, after) → discipline.possible phase op reply ∧
      account after (phases.set number (task, discipline.advance phase op reply)))
    (moves : List (Move τ κ)) :
    Always (Chronicle.step apply program) (Lawful discipline post start account) moves
      { shared } :=
  always_of_preserved (fun _ lawful => lawful)
    (fun _ _ _ lawful moved => lawful.step follows begins advances moved) ⟨fun _ => nofun, opens⟩

theorem Lawful.all_ended (lawful : chronicle.Lawful discipline post start account) (none : chronicle.unreturned = 0) :
    ∀ thread ∈ chronicle.threads, ∃ value, post value (thread.phase discipline start) := by
  intro thread member
  have returned := List.countP_eq_zero.mp none thread member
  refine (lawful.threads thread member).ended ?_
  simpa using returned

/-- When each of some resources is held by a thread of a kind, and a thread holds one at most
and none once it has returned, there are no more of them than such threads under way. -/
theorem Lawful.held_le {ρ : Type} {held : Φ → Option ρ} {resources : List ρ}
    (lawful : chronicle.Lawful discipline post start account) (kind : τ → Bool) (distinct : resources.Nodup)
    (holders : ∀ resource ∈ resources, ∃ thread ∈ chronicle.threads, kind thread.task = true ∧
      held (thread.phase discipline start) = some resource)
    (lets_go : ∀ value phase, post value phase → held phase = none) :
    resources.length ≤ chronicle.threads.countP fun thread => kind thread.task && !thread.returned := by
  -- The resources of these threads, one thread after the other, have all of them.
  let holding := (chronicle.threads.filter fun thread => kind thread.task && !thread.returned).filterMap fun thread =>
    held (thread.phase discipline start)
  have inside : resources ⊆ holding := by
    intro resource member
    obtain ⟨thread, present, counted, holds⟩ := holders resource member
    have underway := (lawful.threads thread present).unreturned held lets_go holds
    exact List.mem_filterMap.mpr ⟨thread, List.mem_filter.mpr ⟨present, by rw [counted, underway]; rfl⟩, holds⟩
  calc resources.length ≤ holding.length := (distinct.subperm inside).length_le
    _ ≤ (chronicle.threads.filter fun thread => kind thread.task && !thread.returned).length :=
      List.length_filterMap_le _ _
    _ = _ := List.countP_eq_length_filter.symm

end Chronicle

end Threads

end Hislip
