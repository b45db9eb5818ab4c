import Mathlib.Logic.Basic

/-! Programs as trees of typed operations. A program performs one operation at a
time and continues with the reply, so the same text can be run alone, against a
deterministic handler, or one operation at a time between other programs. -/

namespace Hislip

/-- A finite-path program over operations `Op`; `Reply` gives each operation's
reply type. -/
inductive Program (Op : Type) (Reply : Op → Type) (α : Type) where
  | pure (value : α)
  | request (operation : Op) (next : Reply operation → Program Op Reply α)

/-- A handler may refuse to reply: the operation then blocks for ever and the
state shows what had happened until then. -/
abbrev Handler (Op : Type) (Reply : Op → Type) (ω : Type) : Type := (operation : Op) → ω → Option (Reply operation) × ω

namespace Program
variable {Op : Type} {Reply : Op → Type} {α β γ ω : Type} {handler : Handler Op Reply ω}
  {program : Program Op Reply α} {operation : Op} {state after : ω} {next : α → Program Op Reply β} {kind : Op → Bool}

def bind (program : Program Op Reply α) (next : α → Program Op Reply β) : Program Op Reply β :=
  match program with
  | .pure value => next value
  | .request operation rest => .request operation (fun reply => (rest reply).bind next)

instance : Monad (Program Op Reply) where
  pure := .pure
  bind := bind

/-- The program that performs one operation and returns its reply. -/
def perform (operation : Op) : Program Op Reply (Reply operation) := .request operation .pure

@[simp] theorem pure_eq (value : α) : (Pure.pure value : Program Op Reply α) = .pure value := rfl

@[simp] theorem pure_bind (value : α) (next : α → Program Op Reply β) :
    ((.pure value : Program Op Reply α) >>= next) = next value := rfl

@[simp] theorem request_bind (operation : Op) (rest : Reply operation → Program Op Reply α)
    (next : α → Program Op Reply β) :
    (Program.request operation rest >>= next) = .request operation (fun reply => rest reply >>= next) := rfl

theorem bind_assoc (program : Program Op Reply α) (first : α → Program Op Reply β) (second : β → Program Op Reply γ) :
    (program >>= first) >>= second = program >>= fun value => first value >>= second := by
  induction program with
  | pure value => rfl
  | request operation rest ih =>
    simp only [request_bind]
    congr 1
    funext reply
    exact ih reply

def translate {Op' : Type} {Reply' : Op' → Type} (wrap : Op → Op')
    (unwrap : (operation : Op) → Reply' (wrap operation) → Reply operation) :
    Program Op Reply α → Program Op' Reply' α
  | .pure value => .pure value
  | .request operation next =>
    .request (wrap operation) (fun reply => (next (unwrap operation reply)).translate wrap unwrap)

def head : Program Op Reply α → Option Op
  | .pure _ => none
  | .request operation _ => some operation

/-- Continue with the result of a computation unless it blocked. -/
def andThen (first : Option α × ω) (next : α → ω → Option β × ω) : Option β × ω :=
  match first with
  | (some value, state) => next value state
  | (none, state) => (none, state)

@[simp] theorem andThen_some (value : α) (state : ω) (next : α → ω → Option β × ω) :
    andThen (some value, state) next = next value state := rfl

@[simp] theorem andThen_none (state : ω) (next : α → ω → Option β × ω) :
    andThen (none, state) next = (none, state) := rfl

theorem andThen_assoc (first : Option α × ω) (next : α → ω → Option β × ω) (last : β → ω → Option γ × ω) :
    andThen (andThen first next) last = andThen first fun value state => andThen (next value state) last := by
  obtain ⟨value | value, state⟩ := first <;> rfl

theorem andThen_eq_some {first : Option α × ω} {next : α → ω → Option β × ω} {value : β} {state : ω} :
    andThen first next = (some value, state) ↔
      ∃ inner middle, first = (some inner, middle) ∧ next inner middle = (some value, state) := by
  obtain ⟨inner | inner, middle⟩ := first
  · simp
  · constructor
    · exact fun same => ⟨inner, middle, rfl, same⟩
    · rintro ⟨_, _, ⟨⟩, same⟩
      exact same

def exec (handler : Handler Op Reply ω) : Program Op Reply α → ω → Option α × ω
  | .pure value, state => (some value, state)
  | .request operation next, state =>
    andThen (handler operation state) (fun reply after => exec handler (next reply) after)

@[simp] theorem exec_pure (handler : Handler Op Reply ω) (value : α) (state : ω) :
    exec handler (.pure value) state = (some value, state) := rfl

theorem exec_request (handler : Handler Op Reply ω) (operation : Op)
    (next : Reply operation → Program Op Reply α) (state : ω) :
    exec handler (.request operation next) state =
      andThen (handler operation state) (fun reply after => exec handler (next reply) after) := rfl

@[simp] theorem exec_perform (handler : Handler Op Reply ω) (operation : Op) (state : ω) :
    exec handler (perform operation) state = handler operation state := by
  rw [perform, exec_request]
  rcases handler operation state with ⟨reply | reply, after⟩ <;> rfl

@[simp] theorem exec_bind (handler : Handler Op Reply ω) (program : Program Op Reply α)
    (next : α → Program Op Reply β) (state : ω) :
    exec handler (program >>= next) state =
      andThen (exec handler program state) (fun value after => exec handler (next value) after) := by
  induction program generalizing state with
  | pure value => rfl
  | request operation rest ih =>
    simp only [request_bind, exec_request]
    rcases handler operation state with ⟨reply | reply, after⟩
    · rfl
    · exact ih reply after

/-- The run returns, and what it returns and leaves behind meets `post`. -/
def Yields (handler : Handler Op Reply ω) (program : Program Op Reply α) (state : ω) (post : α → ω → Prop) : Prop :=
  ∃ value after, exec handler program state = (some value, after) ∧ post value after

theorem Yields.mono {state : ω} {post other : α → ω → Prop} (yields : Yields handler program state post)
    (implies : ∀ value after, post value after → other value after) : Yields handler program state other := by
  obtain ⟨value, after, same, holds⟩ := yields
  exact ⟨value, after, same, implies value after holds⟩

theorem Yields.bind {state : ω} {middle : α → ω → Prop} {post : β → ω → Prop}
    (first : Yields handler program state middle)
    (second : ∀ value after, middle value after → Yields handler (next value) after post) :
    Yields handler (program >>= next) state post := by
  obtain ⟨value, after, same, holds⟩ := first
  obtain ⟨result, final, later, done⟩ := second value after holds
  refine ⟨result, final, ?_, done⟩
  rw [exec_bind, same, andThen_some, later]

/-- What a look at the state shows whenever the run performs an operation of a kind. -/
def sightings {γ : Type} (handler : Handler Op Reply ω) (kind : Op → Bool) (look : ω → γ) :
    Program Op Reply α → ω → List γ
  | .pure _, _ => []
  | .request operation next, state =>
    (if kind operation then [look state] else []) ++
      match handler operation state with
      | (some reply, after) => sightings handler kind look (next reply) after
      | (none, _) => []

theorem sightings_request {γ : Type} {look : ω → γ} {next : Reply operation → Program Op Reply α}
    {reply : Reply operation} (handled : handler operation state = (some reply, after)) :
    sightings handler kind look (.request operation next) state =
      (if kind operation then [look state] else []) ++ sightings handler kind look (next reply) after := by
  simp only [sightings, handled]

theorem sightings_bind {γ : Type} {look : ω → γ} {value : α}
    (returned : exec handler program state = (some value, after)) :
    sightings handler kind look (program >>= next) state =
      sightings handler kind look program state ++ sightings handler kind look (next value) after := by
  induction program generalizing state with
  | pure result =>
    cases returned
    rfl
  | request operation rest ih =>
    obtain ⟨reply, middle, handled, later⟩ := andThen_eq_some.mp returned
    rw [request_bind, sightings_request handled, sightings_request handled, ih reply later, List.append_assoc]

theorem mem_sightings_bind {γ : Type} {look : ω → γ} {state : ω} {sight : γ}
    (member : sight ∈ sightings handler kind look program state) :
    sight ∈ sightings handler kind look (program >>= next) state := by
  induction program generalizing state with
  | pure result => cases member
  | request operation rest ih =>
    unfold sightings at member
    rw [request_bind]
    unfold sightings
    obtain now | later := List.mem_append.mp member
    · exact List.mem_append_left _ now
    · refine List.mem_append_right _ ?_
      split at later
      next reply after handled => exact ih reply later
      next => cases later

theorem mem_sightings_perform {γ : Type} {look : ω → γ} (performed : kind operation = true) (state : ω) :
    look state ∈ sightings handler kind look (perform operation) state := by
  simp only [perform, sightings, performed, if_true]
  exact List.mem_append_left _ (List.mem_singleton.mpr rfl)

/-- Run a program until it is about to perform an operation of some kind, after
`count` others of that kind: what is left of it and the state by then. -/
def suspend (handler : Handler Op Reply ω) (stop : Op → Bool) :
    Program Op Reply α → Nat → ω → Option (Program Op Reply α × ω)
  | .pure _, _, _ => none
  | .request operation next, count, state =>
    if stop operation ∧ count = 0 then some (.request operation next, state)
    else
      match handler operation state with
      | (none, _) => none
      | (some reply, after) =>
        suspend handler stop (next reply) (if stop operation then count - 1 else count) after

theorem suspend_perform_zero {stop : Op → Bool} (stops : stop operation = true)
    (next : Reply operation → Program Op Reply α) (state : ω) :
    suspend handler stop (perform operation >>= next) 0 state = some (perform operation >>= next, state) := by
  simp only [perform, request_bind, suspend, stops, and_self, if_true]

theorem suspend_perform_succ {stop : Op → Bool} (stops : stop operation = true)
    {next : Reply operation → Program Op Reply α} {count : Nat} {rest : Program Op Reply α}
    (found : suspend handler stop (perform operation >>= next) (count + 1) state = some (rest, after)) :
    ∃ reply middle, handler operation state = (some reply, middle) ∧
      suspend handler stop (next reply) count middle = some (rest, after) := by
  simp only [perform, request_bind, suspend, stops, Nat.add_one_ne_zero, and_false, if_false, if_true,
    Nat.add_sub_cancel, pure_bind] at found
  split at found
  next => cases found
  next reply middle handled => exact ⟨reply, middle, handled, found⟩

end Program

end Hislip
