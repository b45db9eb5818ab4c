import Hislip.Threads
import Hislip.Listener

/-! Shutting a listener down. A connection that was tracked when `Close` copied the set of
connections is closed or has been served; one that was accepted and not yet tracked then is
missed. -/

namespace Hislip.Proofs.Shutdown
open Hislip.Server Hislip.Threads Transition Program ListenerProgram

variable {σ : Type}

/-- What runs in a goroutine of its own. A connection comes with what its client sends. -/
inductive Job (profile : Profile) where
  | serve (connections : Nat)
  | connection (conn : Stream) (source : Source) (fuel : Nat) (buffers : List (ReadBuffer profile.maxRxPayload))
      (closing : List Turn)
  | close

def Job.program {profile : Profile} : Job profile → ListenerProgram (Option Err)
  | .serve connections => ListenerProgram.serve connections
  | .connection conn source fuel buffers closing =>
    ListenerProgram.connection conn (.serve profile source conn fuel buffers closing)
  | .close => ListenerProgram.close

/-- The listener as an observer sees it. `prompt` has the connections that were tracked
before `Close` copied the set, `copied` those of the copy that are still to be closed,
`served` those whose `Serve` has returned; `stopped` tells that `Close` has returned. -/
structure Watch (σ : Type) where
  listener : Listener σ := {}
  prompt : List Stream := []
  copied : List Stream := []
  served : List Stream := []
  stopped : Bool := false

def Watch.note (watch : Watch σ) (listener : Listener σ) : (op : ListenerOp) → op.Reply → Watch σ
  | .track conn, _ =>
    if watch.listener.closed then { watch with listener } else { watch with listener, prompt := conn :: watch.prompt }
  | .markClosed, some conns => { watch with listener, copied := conns }
  | .closeConn conn, _ => { watch with listener, copied := watch.copied.filter (· ≠ conn) }
  | .served conn, _ => { watch with listener, served := conn :: watch.served }
  | .stopped, _ => { watch with listener, stopped := true }
  | _, _ => { watch with listener }

abbrev OutsideListener : Type := (op : ListenerOp) → Option op.Reply

def Watch.apply (profile : Profile) (policy : ResponsePolicy σ) (op : ListenerOp) (outside : OutsideListener)
    (watch : Watch σ) : Option (op.Reply × Watch σ) :=
  (op.apply profile policy outside watch.listener).map fun result => (result.1, watch.note result.2 op result.1)

abbrev Host (profile : Profile) (σ : Type) : Type := Pool (Job profile) (Watch σ) ListenerOp.Reply (Option Err)

def Host.step {profile : Profile} (policy : ResponsePolicy σ) :
    Host profile σ → Move (Job profile) OutsideListener → Option (Host profile σ) :=
  Pool.step (Watch.apply profile policy) Job.program

/-- `Close` has returned and an accept loop has reached `wg.Wait`. -/
def ShutDown {profile : Profile} (host : Host profile σ) : Prop :=
  host.shared.stopped = true ∧ ∃ thread ∈ host.threads, thread.2.head = some .wait

/-- Every connection that was accepted has been closed or served. -/
def AllClosed (watch : Watch σ) (among : List Stream) : Prop :=
  ∀ conn ∈ watch.listener.accepted, conn ∈ among → conn ∉ watch.served → conn ∈ watch.listener.shut

section Phases

inductive Phase where
  | plain
  | served (conn : Stream)
  | closing (rest : List Stream)

/-- A connection is untracked once it has been served, and `Close` has closed all copied
connections when it returns. -/
def shutting : Discipline ListenerOp ListenerOp.Reply Phase where
  allowed phase
    | .untrack conn => phase = .served conn
    | .closeConn conn => ∃ rest, phase = .closing (conn :: rest)
    | .stopped => phase = .closing []
    | _ => True
  advance
    | _, .markClosed, some conns => .closing conns
    | _, .served conn, _ => .served conn
    | .closing (_ :: rest), .closeConn _, _ => .closing rest
    | phase, _, _ => phase

theorem ofServer_follows {α : Type} (program : ServerProgram α) (phase : Phase) :
    Follows shutting (fun _ last => last = phase) (ofServer program) phase := by
  induction program with
  | pure value => rfl
  | request op next ih => exact ⟨trivial, fun reply _ => ih reply⟩

theorem serve_follows (connections : Nat) :
    Follows shutting (fun _ _ => True) (ListenerProgram.serve connections) .plain := by
  induction connections with
  | zero => exact (ofServer_follows _ _).mono fun _ _ _ => trivial
  | succ connections ih =>
    refine .step trivial fun accepted _ => ?_
    cases accepted with
    | error err =>
      refine .step trivial fun closed _ => ?_
      cases closed with
      | true => exact .step trivial fun _ _ => trivial
      | false =>
        refine .step trivial fun ended _ => ?_
        cases ended with
        | true => exact .step trivial fun _ _ => trivial
        | false => trivial
    | ok conn => exact .step trivial fun _ _ => .step trivial fun _ _ => ih

theorem connection_follows (conn : Stream) (program : ServerProgram (Option Err)) :
    Follows shutting (fun _ _ => True) (ListenerProgram.connection conn program) .plain := by
  refine .step trivial fun _ _ => (ofServer_follows program .plain).bind ?_
  rintro result _ rfl
  refine .step trivial fun _ _ => ?_
  cases result with
  | none => exact .step rfl fun _ _ => .step trivial fun _ _ => trivial
  | some err => exact .step trivial fun _ _ => .step rfl fun _ _ => .step trivial fun _ _ => trivial

theorem closeConns_follows (conns : List Stream) :
    Follows shutting (fun _ last => last = .closing []) (closeConns conns) (.closing conns) := by
  induction conns with
  | nil => rfl
  | cons conn rest ih => exact .step ⟨rest, rfl⟩ fun _ _ => ih

theorem close_follows : Follows shutting (fun _ _ => True) ListenerProgram.close .plain := by
  refine .step trivial fun copied _ => ?_
  cases copied with
  | none => trivial
  | some conns =>
    refine .step trivial fun err _ => (closeConns_follows conns).bind ?_
    rintro _ _ rfl
    refine (ofServer_follows _ _).bind ?_
    rintro _ _ rfl
    exact .step rfl fun _ _ => trivial

theorem job_follows {profile : Profile} (job : Job profile) :
    Follows shutting (fun _ _ => True) job.program .plain := by
  cases job with
  | serve connections => exact serve_follows connections
  | connection conn source fuel buffers closing => exact connection_follows conn _
  | close => exact close_follows

end Phases

section Invariant
variable {profile : Profile} {policy : ResponsePolicy σ} {watch after : Watch σ} {op : ListenerOp} {reply : op.Reply}
  {outside : OutsideListener} {listener : Listener σ} {phase : Phase}

/-- A connection that was tracked in time is tracked until it is served or copied, and then
it is still to be closed or has been closed. -/
structure Sound (watch : Watch σ) : Prop where
  tracked : watch.listener.closed = false → ∀ conn ∈ watch.prompt, conn ∈ watch.served ∨ conn ∈ watch.listener.conns
  covered : watch.listener.closed = true → ∀ conn ∈ watch.prompt,
    conn ∈ watch.served ∨ conn ∈ watch.listener.shut ∨ conn ∈ watch.copied
  ended : watch.stopped = true → watch.listener.closed = true ∧ watch.copied = []

def Backed : Phase → Watch σ → Prop
  | .plain, _ => True
  | .served conn, watch => conn ∈ watch.served
  | .closing rest, watch => watch.listener.closed = true ∧ watch.copied ⊆ rest

structure Later (watch after : Watch σ) : Prop where
  closed : watch.listener.closed = true → after.listener.closed = true ∧ after.copied ⊆ watch.copied
  served : watch.served ⊆ after.served

theorem Backed.later (backed : Backed phase watch) (later : Later watch after) : Backed phase after := by
  cases phase with
  | plain => trivial
  | served conn => exact later.served backed
  | closing rest => exact ⟨(later.closed backed.1).1, List.Subset.trans (later.closed backed.1).2 backed.2⟩

structure Keeps (phase : Phase) (op : ListenerOp) (reply : op.Reply) (watch after : Watch σ) : Prop where
  sound : Sound after
  later : Later watch after
  backed : Backed (shutting.advance phase op reply) after

theorem Later.same (closed : listener.closed = watch.listener.closed) : Later watch { watch with listener } :=
  ⟨fun marked => ⟨closed.trans marked, List.Subset.refl _⟩, List.Subset.refl _⟩

section
variable (sound : Sound watch)
include sound

theorem Sound.quiet (closed : listener.closed = watch.listener.closed) (conns : watch.listener.conns ⊆ listener.conns)
    (shut : watch.listener.shut ⊆ listener.shut) :
    Sound { watch with listener } where
  tracked unmarked conn member :=
    (sound.tracked (closed.symm.trans unmarked) conn member).imp_right fun held => conns held
  covered marked conn member :=
    (sound.covered (closed.symm.trans marked) conn member).imp_right (·.imp_left fun gone => shut gone)
  ended stopped := ⟨closed.trans (sound.ended stopped).1, (sound.ended stopped).2⟩

theorem Sound.unmoved (backed : Backed phase watch) (closed : listener.closed = watch.listener.closed)
    (conns : watch.listener.conns ⊆ listener.conns) (shut : watch.listener.shut ⊆ listener.shut)
    (stays : shutting.advance phase op reply = phase) :
    Keeps phase op reply watch { watch with listener } where
  sound := sound.quiet closed conns shut
  later := .same closed
  backed := stays.symm ▸ backed.later (.same closed)

theorem Sound.track (backed : Backed phase watch) (conn : Stream) :
    Keeps phase (.track conn) () watch
      (watch.note { watch.listener with conns := watch.listener.conns.insert conn } (.track conn) ()) := by
  have kept : watch.listener.conns ⊆ watch.listener.conns.insert conn := fun _ held => List.mem_insert_of_mem held
  change Keeps phase (.track conn) () watch (if watch.listener.closed = true then _ else _)
  by_cases marked : watch.listener.closed = true
  · rw [if_pos marked]
    exact sound.unmoved backed rfl kept (List.Subset.refl _) rfl
  · rw [if_neg marked]
    have later : Later watch { watch with
        listener := { watch.listener with conns := watch.listener.conns.insert conn },
        prompt := conn :: watch.prompt } :=
      ⟨fun closed => ⟨closed, List.Subset.refl _⟩, List.Subset.refl _⟩
    refine ⟨⟨fun unmarked other member => ?_, fun closed => absurd closed marked, sound.ended⟩, later,
      backed.later later⟩
    rcases List.mem_cons.mp member with rfl | earlier
    · exact .inr List.mem_insert_self
    · exact (sound.tracked unmarked other earlier).imp_right fun held => kept held

theorem Sound.serve (conn : Stream) (phase : Phase) :
    Keeps phase (.served conn) () watch { watch with served := conn :: watch.served } := by
  have later : Later watch { watch with served := conn :: watch.served } :=
    ⟨fun closed => ⟨closed, List.Subset.refl _⟩, List.subset_cons_self _ _⟩
  refine ⟨⟨fun unmarked other member => ?_, fun marked other member => ?_, sound.ended⟩, later, List.mem_cons_self⟩
  · exact (sound.tracked unmarked other member).imp_left (List.mem_cons_of_mem _)
  · exact (sound.covered marked other member).imp_left (List.mem_cons_of_mem _)

theorem Sound.untrack {conn : Stream} (served : conn ∈ watch.served) :
    Keeps (.served conn) (.untrack conn) () watch
      { watch with listener := { watch.listener with conns := watch.listener.conns.filter (· ≠ conn) } } := by
  refine ⟨⟨fun unmarked other member => ?_, sound.covered, sound.ended⟩, .same rfl, served⟩
  by_cases same : other = conn
  · exact .inl (same ▸ served)
  · refine (sound.tracked unmarked other member).imp_right fun held => ?_
    exact List.mem_filter.mpr ⟨held, decide_eq_true same⟩

theorem Sound.mark (unmarked : watch.listener.closed = false) {conns : List Stream}
    (copied : conns.Perm watch.listener.conns) (phase : Phase) :
    Keeps phase .markClosed (some conns) watch
      { watch with listener := { watch.listener with closed := true }, copied := conns } := by
  refine ⟨⟨fun unmarked => (by cases unmarked), fun _ conn member => ?_, fun stopped => ?_⟩,
    ⟨fun closed => ?_, ?_⟩, rfl, ?_⟩
  · exact (sound.tracked unmarked conn member).imp_right fun held => .inr (copied.mem_iff.mpr held)
  · cases unmarked.symm.trans (sound.ended stopped).1
  · cases unmarked.symm.trans closed
  · exact List.Subset.refl _
  · exact List.Subset.refl _

theorem Sound.closeConn {conn : Stream} {rest : List Stream} {reply : Option Err}
    (backed : Backed (.closing (conn :: rest)) watch) :
    Keeps (.closing (conn :: rest)) (.closeConn conn) reply watch
      { watch with
        listener := { watch.listener with shut := conn :: watch.listener.shut }
        copied := watch.copied.filter (· ≠ conn) } := by
  have fewer : watch.copied.filter (· ≠ conn) ⊆ watch.copied := List.filter_subset_self _
  refine ⟨⟨sound.tracked, fun marked other member => ?_, fun stopped => ?_⟩, ⟨fun closed => ⟨closed, fewer⟩, ?_⟩,
    backed.1, fun other member => ?_⟩
  · refine (sound.covered marked other member).imp_right ?_
    rintro (gone | left)
    · exact .inl (List.mem_cons_of_mem _ gone)
    · by_cases same : other = conn
      · exact .inl (same ▸ List.mem_cons_self)
      · exact .inr (List.mem_filter.mpr ⟨left, decide_eq_true same⟩)
  · obtain ⟨closed, none_left⟩ := sound.ended stopped
    exact ⟨closed, by rw [none_left]; rfl⟩
  · exact List.Subset.refl _
  · obtain ⟨left, differs⟩ := List.mem_filter.mp member
    exact (List.mem_cons.mp (backed.2 left)).resolve_left (of_decide_eq_true differs)

theorem Sound.apply (backed : Backed phase watch) (allowed : shutting.allowed phase op)
    (applied : watch.apply profile policy op outside = some (reply, after)) : Keeps phase op reply watch after := by
  obtain ⟨⟨answer, listener⟩, done, same⟩ := Option.map_eq_some_iff.mp applied
  cases same
  have all : ∀ list : List Stream, list ⊆ list := List.Subset.refl
  cases op with
  | accept =>
    simp only [ListenerOp.apply] at done
    split at done
    next conn delivered =>
      split at done
      next => cases done
      next => cases done; exact sound.unmoved backed rfl (all _) (all _) rfl
    next err failed => cases done; exact sound.unmoved backed rfl (all _) (all _) rfl
    next => cases done
  | wait | enter conn =>
    simp only [ListenerOp.apply] at done
    split at done
    next => cases done; exact sound.unmoved backed rfl (all _) (all _) rfl
    next => cases done
  | contextEnded | closeListener =>
    obtain ⟨_, -, same⟩ := Option.map_eq_some_iff.mp done
    cases same
    exact sound.unmoved backed rfl (all _) (all _) rfl
  | track conn => cases done; exact sound.track backed conn
  | served conn => cases done; exact sound.serve conn phase
  | untrack conn =>
    cases done
    obtain rfl : phase = .served conn := allowed
    exact sound.untrack backed
  | markClosed =>
    simp only [ListenerOp.apply] at done
    split at done
    next => cases done; exact sound.unmoved backed rfl (all _) (all _) rfl
    next unmarked =>
      split at done
      next conns chosen =>
        split at done
        next copied => cases done; exact sound.mark (Bool.not_eq_true _ ▸ unmarked) copied phase
        next => cases done
      next => cases done
  | closeConn conn =>
    obtain ⟨rest, rfl⟩ := allowed
    obtain ⟨_, -, same⟩ := Option.map_eq_some_iff.mp done
    cases same
    exact sound.closeConn backed
  | stopped =>
    cases done
    obtain rfl : phase = .closing [] := allowed
    have none_left : watch.copied = [] := List.subset_nil.mp backed.2
    exact ⟨⟨sound.tracked, sound.covered, fun _ => ⟨backed.1, none_left⟩⟩,
      ⟨fun closed => ⟨closed, all _⟩, all _⟩, backed⟩
  | server op =>
    obtain ⟨_, -, same⟩ := Option.map_eq_some_iff.mp done
    cases same
    exact sound.unmoved backed rfl (all _) (List.subset_append_right _ _) rfl
  | _ => cases done; exact sound.unmoved backed rfl (all _) (all _) rfl

end

abbrev Orderly (host : Host profile σ) : Prop :=
  Guarded shutting (fun _ _ => True) (fun _ => Backed) (fun _ _ => True) Sound host

theorem Orderly.step {host later : Host profile σ} {move : Move (Job profile) OutsideListener} (orderly : Orderly host)
    (moved : host.step policy move = some later) : Orderly later := by
  cases move with
  | start job =>
    cases moved
    exact orderly.start (job_follows job) trivial fun _ _ _ _ => ⟨trivial, trivial⟩
  | advance thread outside =>
    obtain ⟨job, op, next, reply, watch, running, applied, rfl⟩ := step_advance moved
    refine orderly.advance running fun phase backed allowed => ?_
    have kept := orderly.shared.apply backed allowed applied
    exact ⟨kept.sound, trivial, kept.backed, fun _ _ _ _ _ held => ⟨held.later kept.later, trivial, trivial⟩⟩

theorem orderly_initially : Orderly ({ shared := {} } : Host profile σ) :=
  guarded_empty ⟨fun _ _ => nofun, fun _ _ => nofun, nofun⟩ .plain

end Invariant

section Runs

/-- Whatever the goroutines do and however they interleave, once `Close` has returned every
connection that was tracked before it copied the set is closed, unless it has been served. -/
theorem shutdown_closes_tracked (profile : Profile) (policy : ResponsePolicy σ)
    (moves : List (Move (Job profile) OutsideListener)) :
    Always (Host.step policy)
      (fun host => ShutDown host → AllClosed host.shared host.shared.prompt) moves
      ({ shared := {} } : Host profile σ) := by
  refine always_of_preserved ?_ (fun _ _ _ orderly moved => Orderly.step orderly moved) orderly_initially
  rintro host orderly ⟨stopped, -⟩ conn - prompt unserved
  obtain ⟨closed, none_left⟩ := orderly.shared.ended stopped
  rcases orderly.shared.covered closed conn prompt with served | gone | left
  · exact absurd served unserved
  · exact gone
  · rw [none_left] at left
    cases left

/-- The network and the map walk in a shutdown with one connection; `next` is what `Accept`
returns and `tracked` what `Close` copies. -/
def network (next : Except Err Stream) (tracked : List Stream) : OutsideListener
  | .accept => some next
  | .markClosed => some (some tracked)
  | .closeListener | .closeConn _ => some none
  | .server .takeAll => some []
  | _ => none

/-- A connection is tracked and its goroutine is started, and then `Close` runs from its
beginning to its end. -/
def tracking : List (Move (Job .standard) OutsideListener) :=
  let quiet := network (.error (.other [] [])) [7]
  [.start (.serve 2), .advance 0 (network (.ok 7) []), .advance 0 quiet, .advance 0 quiet,
    .start (.connection 7 [] 0 [] []), .advance 1 quiet, .start .close] ++ List.replicate 5 (.advance 2 quiet) ++
    List.replicate 2 (.advance 0 quiet)

/-- The connection has not been served, but it has been closed. -/
theorem tracked_connection_closed :
    ∃ host, finish (Host.step alwaysReadPolicy) tracking { shared := {} } = some host ∧ ShutDown host ∧
      host.shared.prompt = [7] ∧ host.shared.served = [] ∧ 7 ∈ host.shared.listener.shut := by
  refine ⟨_, rfl, ⟨rfl, _, List.mem_cons_self, rfl⟩, rfl, rfl, ?_⟩
  exact (shutdown_closes_tracked .standard alwaysReadPolicy tracking).finish rfl ⟨rfl, _, List.mem_cons_self, rfl⟩ 7
    List.mem_cons_self List.mem_cons_self List.not_mem_nil

/-- `Accept` returns a connection, `Close` runs from its beginning to its end, and only then
does the loop track the connection and start its goroutine. -/
def missing : List (Move (Job .standard) OutsideListener) :=
  let quiet := network (.error (.other [] [])) []
  [.start (.serve 2), .advance 0 (network (.ok 7) []), .start .close, .advance 1 quiet, .advance 1 quiet, .advance 1 quiet,
    .advance 1 quiet, .advance 0 quiet, .advance 0 quiet, .advance 0 quiet, .advance 0 quiet,
    .start (.connection 7 [] 0 [] []), .advance 2 quiet]

/-- The connection is being served and was never closed, and the accept loop waits for it. -/
theorem late_connection_missed :
    ∃ host, finish (Host.step alwaysReadPolicy) missing { shared := {} } = some host ∧ ShutDown host ∧
      ¬ AllClosed host.shared host.shared.listener.accepted ∧
      ∀ outside, host.step alwaysReadPolicy (.advance 0 outside) = none := by
  refine ⟨_, rfl, ⟨rfl, _, List.mem_cons_self, rfl⟩, ?_, fun _ => rfl⟩
  intro closed
  have gone : 7 ∈ ([] : List Stream) := closed 7 List.mem_cons_self List.mem_cons_self List.not_mem_nil
  cases gone

end Runs

end Hislip.Proofs.Shutdown
