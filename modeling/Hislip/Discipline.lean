import Hislip.Program

/-! Typestate for programs. A discipline says which operations are allowed in each
phase and which phase a reply leads to; a program that follows it keeps to it
whatever else runs between its operations. -/

namespace Hislip

/-- `possible` lists the replies that can occur in a phase. -/
structure Discipline (Op : Type) (Reply : Op → Type) (Φ : Type) where
  allowed : Φ → Op → Prop
  possible : Φ → (operation : Op) → Reply operation → Prop := fun _ _ _ => True
  advance : Φ → (operation : Op) → Reply operation → Φ

open scoped Classical in
/-- The discipline up to the first reply that it does not expect. After that, in the phase
`none`, everything is allowed. -/
noncomputable def Discipline.lenient {Op : Type} {Reply : Op → Type} {Φ : Type} (discipline : Discipline Op Reply Φ) :
    Discipline Op Reply (Option Φ) where
  allowed
    | some phase, operation => discipline.allowed phase operation
    | none, _ => True
  advance
    | some phase, operation, reply =>
      if discipline.possible phase operation reply then some (discipline.advance phase operation reply) else none
    | none, _, _ => none

def Discipline.both {Op : Type} {Reply : Op → Type} {Φ Ψ : Type} (first : Discipline Op Reply Φ)
    (second : Discipline Op Reply Ψ) : Discipline Op Reply (Φ × Ψ) where
  allowed phase operation := first.allowed phase.1 operation ∧ second.allowed phase.2 operation
  possible phase operation reply := first.possible phase.1 operation reply ∧ second.possible phase.2 operation reply
  advance phase operation reply := (first.advance phase.1 operation reply, second.advance phase.2 operation reply)

namespace Program
variable {Op : Type} {Reply : Op → Type} {Φ α β : Type}

/-- From `phase` on, every operation is allowed and every result meets `post`. -/
def Follows (discipline : Discipline Op Reply Φ) (post : α → Φ → Prop) : Program Op Reply α → Φ → Prop
  | .pure value, phase => post value phase
  | .request operation next, phase =>
    discipline.allowed phase operation ∧
      ∀ reply, discipline.possible phase operation reply →
        Follows discipline post (next reply) (discipline.advance phase operation reply)

variable {discipline : Discipline Op Reply Φ} {post : α → Φ → Prop} {program : Program Op Reply α} {phase : Φ}
  {next : α → Program Op Reply β} {condition : Prop}

theorem Follows.perform {operation : Op} {post : Reply operation → Φ → Prop}
    (allowed : discipline.allowed phase operation)
    (done : ∀ reply, discipline.possible phase operation reply → post reply (discipline.advance phase operation reply)) :
    Follows discipline post (perform operation) phase := ⟨allowed, done⟩

theorem Follows.step {operation : Op} {next : Reply operation → Program Op Reply α}
    (allowed : discipline.allowed phase operation)
    (resume : ∀ reply, discipline.possible phase operation reply →
      Follows discipline post (next reply) (discipline.advance phase operation reply)) :
    Follows discipline post (Program.perform operation >>= next) phase := ⟨allowed, resume⟩

theorem Follows.mono {other : α → Φ → Prop} (follows : Follows discipline post program phase)
    (implies : ∀ value phase, post value phase → other value phase) : Follows discipline other program phase := by
  induction program generalizing phase with
  | pure value => exact implies value phase follows
  | request operation next ih => exact ⟨follows.1, fun reply possible => ih reply (follows.2 reply possible)⟩

theorem Follows.bind {middle : α → Φ → Prop} {post : β → Φ → Prop} (follows : Follows discipline middle program phase)
    (resume : ∀ value phase, middle value phase → Follows discipline post (next value) phase) :
    Follows discipline post (program >>= next) phase := by
  induction program generalizing phase with
  | pure value => exact resume value phase follows
  | request operation rest ih => exact ⟨follows.1, fun reply possible => ih reply (follows.2 reply possible)⟩

theorem Follows.ite [Decidable condition] {program other : Program Op Reply α}
    (met : condition → Follows discipline post program phase)
    (unmet : ¬ condition → Follows discipline post other phase) :
    Follows discipline post (if condition then program else other) phase := by
  by_cases holds : condition
  · rw [if_pos holds]
    exact met holds
  · rw [if_neg holds]
    exact unmet holds

section
variable (follows : Follows discipline post program phase)
include follows

/-- A program under other names follows a discipline that reads these names as the
first one does. -/
theorem Follows.translate {Op' Φ' : Type} {Reply' : Op' → Type} {wrap : Op → Op'}
    {unwrap : (operation : Op) → Reply' (wrap operation) → Reply operation} {outer : Discipline Op' Reply' Φ'}
    (embed : Φ → Φ')
    (allowed : ∀ phase operation, discipline.allowed phase operation → outer.allowed (embed phase) (wrap operation))
    (possible : ∀ phase operation reply, outer.possible (embed phase) (wrap operation) reply →
      discipline.possible phase operation (unwrap operation reply))
    (advance : ∀ phase operation reply, outer.advance (embed phase) (wrap operation) reply =
      embed (discipline.advance phase operation (unwrap operation reply))) :
    Follows outer (fun value outermost => ∃ last, outermost = embed last ∧ post value last)
      (program.translate wrap unwrap) (embed phase) := by
  induction program generalizing phase with
  | pure value => exact ⟨phase, rfl, follows⟩
  | request operation next ih =>
    refine ⟨allowed phase operation follows.1, fun reply occurs => ?_⟩
    rw [advance]
    exact ih _ (follows.2 _ (possible phase operation reply occurs))

/-- A program that keeps to one discipline rests in a phase of another one, when all
that the first allows leaves that phase alone. -/
theorem Follows.rests {Φ' : Type} {other : Discipline Op Reply Φ'} {goal : α → Prop} {resting : Φ'}
    (rests : ∀ phase operation, discipline.allowed phase operation → other.allowed resting operation ∧
      ∀ reply, other.possible resting operation reply → discipline.possible phase operation reply ∧
      other.advance resting operation reply = resting)
    (done : ∀ value phase, post value phase → goal value) :
    Follows other (fun value last => goal value ∧ last = resting) program resting := by
  induction program generalizing phase with
  | pure value => exact ⟨done value phase follows, rfl⟩
  | request operation next ih =>
    obtain ⟨allowed, leaves⟩ := rests phase operation follows.1
    refine ⟨allowed, fun reply occurs => ?_⟩
    obtain ⟨possible, still⟩ := leaves reply occurs
    rw [still]
    exact ih reply (follows.2 reply possible)

theorem Follows.relates {Φ' : Type} {other : Discipline Op Reply Φ'} {goal : α → Φ' → Prop} {also : Φ'}
    (relates : Φ → Φ' → Prop) (related : relates phase also)
    (step : ∀ phase also operation, relates phase also → discipline.allowed phase operation →
      other.allowed also operation ∧ ∀ reply, other.possible also operation reply →
      discipline.possible phase operation reply ∧
      relates (discipline.advance phase operation reply) (other.advance also operation reply))
    (done : ∀ value phase also, relates phase also → post value phase → goal value also) :
    Follows other goal program also := by
  induction program generalizing phase also with
  | pure value => exact done value phase also related follows
  | request operation next ih =>
    obtain ⟨allowed, goes⟩ := step phase also operation related follows.1
    refine ⟨allowed, fun reply occurs => ?_⟩
    obtain ⟨possible, still⟩ := goes reply occurs
    exact ih reply (follows.2 reply possible) still

end

theorem Follows.both {Ψ : Type} {other : Discipline Op Reply Ψ} {goal : α → Ψ → Prop} {also : Ψ}
    (first : Follows discipline post program phase) (second : Follows other goal program also) :
    Follows (discipline.both other) (fun value last => post value last.1 ∧ goal value last.2) program (phase, also) := by
  induction program generalizing phase also with
  | pure value => exact ⟨first, second⟩
  | request operation next ih =>
    exact ⟨⟨first.1, second.1⟩, fun reply possible => ih reply (first.2 reply possible.1) (second.2 reply possible.2)⟩

section
variable (follows : Follows discipline post program phase)
include follows

/-- Whatever the replies are, a program keeps to a discipline until it gets one that the
discipline does not expect. -/
theorem Follows.lenient :
    Follows discipline.lenient (fun value last => ∀ phase, last = some phase → post value phase) program
      (some phase) := by
  have free : ∀ program : Program Op Reply α,
      Follows discipline.lenient (fun value last => ∀ phase, last = some phase → post value phase) program none := by
    intro program
    induction program with
    | pure value => exact fun _ => nofun
    | request operation next ih => exact ⟨trivial, fun reply _ => ih reply⟩
  induction program generalizing phase with
  | pure value =>
    rintro _ ⟨⟩
    exact follows
  | request operation next ih =>
    refine ⟨follows.1, fun reply _ => ?_⟩
    simp only [Discipline.lenient]
    split
    next possible => exact ih reply (follows.2 reply possible)
    next => exact free (next reply)

/-- How the run of a program ends: with a result, or at an operation that is allowed. -/
theorem Follows.exec {ω : Type} {handler : Handler Op Reply ω} {state : ω} (stands : Φ → ω → Prop)
    (standing : stands phase state)
    (moves : ∀ phase operation state reply after, stands phase state → discipline.allowed phase operation →
      handler operation state = (some reply, after) → discipline.possible phase operation reply ∧
      stands (discipline.advance phase operation reply) after) :
    (∃ value after last, Program.exec handler program state = (some value, after) ∧ stands last after ∧ post value last) ∨
      ∃ operation before after last, Program.exec handler program state = (none, after) ∧ stands last before ∧
        discipline.allowed last operation ∧ handler operation before = (none, after) := by
  induction program generalizing phase state with
  | pure value => exact .inl ⟨value, state, phase, rfl, standing, follows⟩
  | request operation next ih =>
    rw [exec_request]
    cases handled : handler operation state with
    | mk reply after =>
      cases reply with
      | none => exact .inr ⟨operation, state, after, phase, rfl, standing, follows.1, handled⟩
      | some reply =>
        obtain ⟨possible, stood⟩ := moves phase operation state reply after standing follows.1 handled
        exact ih reply (follows.2 reply possible) stood

/-- A program that follows a discipline whose phases the states stand for performs its
operations in such states only. -/
theorem Follows.sightings {ω γ : Type} {handler : Handler Op Reply ω} {kind : Op → Bool} {look : ω → γ}
    {seen : γ → Prop} {state : ω} (stands : Φ → ω → Prop) (standing : stands phase state)
    (shown : ∀ phase operation state, stands phase state → discipline.allowed phase operation → kind operation = true →
      seen (look state))
    (moves : ∀ phase operation state reply after, stands phase state → discipline.allowed phase operation →
      handler operation state = (some reply, after) → discipline.possible phase operation reply ∧
      stands (discipline.advance phase operation reply) after) :
    ∀ sight ∈ Program.sightings handler kind look program state, seen sight := by
  induction program generalizing phase state with
  | pure value => exact fun _ => nofun
  | request operation next ih =>
    intro sight member
    unfold Program.sightings at member
    obtain now | later := List.mem_append.mp member
    · split at now
      next performed =>
        obtain rfl := List.mem_singleton.mp now
        exact shown phase operation state standing follows.1 performed
      next => cases now
    · split at later
      next reply after handled =>
        obtain ⟨possible, stood⟩ := moves phase operation state reply after standing follows.1 handled
        exact ih reply (follows.2 reply possible) stood sight later
      next => cases later

end

/-- The program keeps to the discipline from every phase on. -/
def Heeds (discipline : Discipline Op Reply Φ) (program : Program Op Reply α) : Prop :=
  ∀ phase, Follows discipline (fun _ _ => True) program phase

theorem Heeds.pure (value : α) : Heeds discipline (Pure.pure value : Program Op Reply α) := fun _ => trivial

theorem Heeds.bind (first : Heeds discipline program) (second : ∀ value, Heeds discipline (next value)) :
    Heeds discipline (program >>= next) :=
  fun phase => Follows.bind (first phase) fun value last _ => second value last

theorem Heeds.ite [Decidable condition] {program other : Program Op Reply α} (met : Heeds discipline program)
    (unmet : Heeds discipline other) : Heeds discipline (if condition then program else other) :=
  fun phase => Follows.ite (fun _ => met phase) fun _ => unmet phase

section Avoids
variable {stop : Op → Bool} {program : Program Op Reply α} {next : α → Program Op Reply β}

abbrev Avoids (stop : Op → Bool) (program : Program Op Reply α) : Prop :=
  Follows { allowed := fun (_ : Unit) operation => stop operation = false, advance := fun _ _ _ => () }
    (fun _ _ => True) program ()

theorem Avoids.bind (first : Avoids stop program) (second : ∀ value, Avoids stop (next value)) :
    Avoids stop (program >>= next) :=
  Follows.bind first fun value _ _ => second value

theorem Avoids.meets {goal : α → Prop} {phase : Φ} (avoids : Avoids stop program)
    (follows : Follows discipline (fun value _ => goal value) program phase)
    (occurs : ∀ phase operation reply, discipline.possible phase operation reply) :
    Follows { allowed := fun (_ : Unit) operation => stop operation = false, advance := fun _ _ _ => () }
      (fun value _ => goal value) program () := by
  induction program generalizing phase with
  | pure value => exact follows
  | request operation next ih =>
    exact ⟨avoids.1, fun reply _ => ih reply (avoids.2 reply trivial) (follows.2 reply (occurs phase operation reply))⟩

theorem Avoids.suspend {ω : Type} (avoids : Avoids stop program) (handler : Handler Op Reply ω) (count : Nat)
    (state : ω) : suspend handler stop program count state = none := by
  induction program generalizing state with
  | pure value => rfl
  | request operation next ih =>
    have other : stop operation = false := avoids.1
    unfold Program.suspend
    simp only [other, Bool.false_eq_true, false_and, if_false]
    cases handler operation state with
    | mk reply after =>
      cases reply with
      | none => rfl
      | some reply => exact ih reply (avoids.2 reply trivial) after

theorem Avoids.suspend_bind {ω : Type} (avoids : Avoids stop program) (handler : Handler Op Reply ω) (count : Nat)
    {state after : ω} {rest : Program Op Reply β}
    (found : Program.suspend handler stop (program >>= next) count state = some (rest, after)) :
    ∃ value middle, exec handler program state = (some value, middle) ∧
      Program.suspend handler stop (next value) count middle = some (rest, after) := by
  induction program generalizing state with
  | pure value => exact ⟨value, state, rfl, found⟩
  | request operation inner ih =>
    have other : stop operation = false := avoids.1
    rw [request_bind] at found
    unfold Program.suspend at found
    simp only [other, Bool.false_eq_true, false_and, if_false] at found
    rw [exec_request]
    cases handled : handler operation state with
    | mk reply middle =>
      rw [handled] at found
      cases reply with
      | none => cases found
      | some reply => exact ih reply (avoids.2 reply trivial) found

end Avoids

end Program

end Hislip
