import Hislip.Transition
import Hislip.Server.Execution
import Hislip.Proofs.Footprint

/-! Which device calls a Device Clear abandons. It cancels the one context that is
registered when it looks, while writes and triggers run under the server's own and a
read may be registered too late. -/

namespace Hislip.Proofs.AbandonedCalls
open Hislip.Server Act Transition Program Footprint

def handleEach (config : Config) (fuel : Nat) : List Message → Act (Option Err)
  | [] => return none
  | message :: rest => do
    match ← handleSync config message fuel with
    | some err => return some err
    | none => handleEach config fuel rest

def calls : EnvironmentOp → Option Ctx
  | .write ctx _ _ | .read ctx _ | .trigger ctx => some ctx
  | _ => none

/-- The synchronous loop and a BeginDeviceClear. While the loop is inside a call,
`call` tells whether that began before the clear returned; `aborted` is the operation
that the clear found registered. -/
structure Overlap (σ : Type) where
  shared : Shared σ
  sync : Act (Option Err)
  clear : Act (Except Err Header)
  call : Option Bool := none
  aborted : Option Nat := none

/-- The next step of one of the two, with what the environment replies. -/
inductive Side where
  | sync (replies : (op : EnvironmentOp) → Option op.Reply)
  | clear

def takes : (op : SharedOp) → op.Reply → Option Nat → Option Nat
  | .session .abort, found, _ => found
  | _, _, before => before

variable {σ : Type}

namespace Overlap

def returned (overlap : Overlap σ) : Bool := overlap.clear.head.isNone

/-- A call of the device takes two steps: it begins, and it returns. -/
def step (policy : ResponsePolicy σ) (overlap : Overlap σ) : Side → Option (Overlap σ)
  | .sync replies =>
    match overlap.sync with
    | .pure _ => none
    | .request (.shared op) next =>
      some { overlap with
        shared := (op.apply policy overlap.shared).2
        sync := next (op.apply policy overlap.shared).1 }
    | .request (.environment op) next =>
      if (calls op).isSome ∧ overlap.call = none then some { overlap with call := some !overlap.returned }
      else (replies op).map fun reply => { overlap with sync := next reply, call := none }
  | .clear =>
    match overlap.clear with
    | .request (.shared op) next =>
      some { overlap with
        shared := (op.apply policy overlap.shared).2
        clear := next (op.apply policy overlap.shared).1
        aborted := takes op (op.apply policy overlap.shared).1 overlap.aborted }
    | _ => none

/-- The context of the call in progress, if that began before the clear returned. -/
def caught (overlap : Overlap σ) : Option Ctx :=
  match overlap.call, overlap.sync with
  | some true, .request (.environment op) _ => calls op
  | _, _ => none

/-- The server's context is never cancelled. -/
def Cancelled (overlap : Overlap σ) : Ctx → Prop
  | .server => False
  | .operation number => number ∈ overlap.shared.cancelled

/-- Once the clear has returned, whatever it caught has been cancelled. -/
def Abandoned (overlap : Overlap σ) : Prop := overlap.returned = true → ∀ ctx ∈ overlap.caught, overlap.Cancelled ctx

/-- Once the clear has returned, it has caught nothing but a call under the operation
that it found registered. -/
def Taken (overlap : Overlap σ) : Prop :=
  overlap.returned = true → ∀ ctx ∈ overlap.caught, overlap.aborted.map Ctx.operation = some ctx

instance (overlap : Overlap σ) : Decidable overlap.Taken := inferInstanceAs (Decidable (_ → ∀ ctx ∈ _, _))

end Overlap

section Holding

inductive Hold where
  | idle
  | made (number : Nat)
  | holding (number : Nat)
  | left (number : Nat)

def context : Op → Option Ctx
  | .environment op => calls op
  | .shared _ => none

/-- A context is registered as soon as it is made, all reads are under it, and it is
cancelled when it is unregistered. Without one, the loop calls under the server's. -/
def holds : Discipline Op Op.Reply Hold where
  allowed
    | .idle, op => (∀ ctx ∈ context op, ctx = .server) ∧ (kind op = .operation → op = .shared .withCancel)
    | .made number, op => op = .shared (.session (.register number))
    | .holding number, op => (∀ ctx ∈ context op, ctx = .operation number) ∧ kind op ≠ .operation
    | .left number, op => op = .shared (.cancel number)
  advance
    | .idle, .shared .withCancel, number => .made number
    | .made _, .shared (.session (.register number)), _ => .holding number
    | .holding number, .shared (.session .unregister), _ => .left number
    | .left _, .shared (.cancel _), _ => .idle
    | hold, _, _ => hold

variable {α β : Type} {kinds : List Kind} {hold : Hold} (config : Config) (message : Message)
  (writer : Option MessageWriter) (header : Header) {post : β → Hold → Prop} (fuel : Nat) {op : Op}

def plain : Kind → Bool
  | .operation | .release | .device | .deviceRead => false
  | _ => true

theorem context_plain (other : plain (kind op) = true) : context op = none := by
  cases op with
  | shared op => rfl
  | environment op => cases op <;> first | rfl | cases other

def Hold.settled : Hold → Bool
  | .idle | .holding _ => true
  | .made _ | .left _ => false

theorem plain_allowed (other : plain (kind op) = true) (settled : hold.settled = true) : holds.allowed hold op := by
  have quiet : kind op ≠ .operation := by
    intro same
    rw [same] at other
    cases other
  have none : ∀ ctx, ctx ∉ context op := by
    rw [context_plain other]
    exact fun _ => nofun
  cases hold with
  | idle => exact ⟨fun ctx member => absurd member (none ctx), fun same => absurd same quiet⟩
  | holding number => exact ⟨fun ctx member => absurd member (none ctx), quiet⟩
  | made number | left number => cases settled

theorem plain_advance (other : plain (kind op) = true) (settled : hold.settled = true) (reply : op.Reply) :
    holds.advance hold op reply = hold := by
  cases hold with
  | made number | left number => cases settled
  | idle =>
    cases op with
    | environment op => rfl
    | shared op => cases op <;> first | rfl | cases other
  | holding number =>
    cases op with
    | environment op => rfl
    | shared op =>
      cases op with
      | session op => cases op <;> first | rfl | cases other
      | _ => rfl

theorem idle_spares : Spares holds .idle (plain · = true) := fun _ other =>
    ⟨plain_allowed other rfl, plain_advance other rfl⟩

theorem holding_spares {number : Nat} : Spares holds (.holding number) (plain · = true) :=
  fun _ other => ⟨plain_allowed other rfl, plain_advance other rfl⟩

theorem server_step {op : EnvironmentOp} {next : op.Reply → Act β} (own : ∀ ctx ∈ calls op, ctx = .server)
    (resume : ∀ reply, Follows holds post (next reply) .idle) : Follows holds post (environment op >>= next) .idle := by
  refine ⟨⟨own, fun same => ?_⟩, fun reply _ => resume reply⟩
  cases op <;> cases same

theorem read_step {number size : Nat} {next : ReadResult → Act β}
    (resume : ∀ result, Follows holds post (next result) (.holding number)) :
    Follows holds post (environment (.read (.operation number) size) >>= next) (.holding number) :=
  ⟨⟨by rintro _ ⟨⟩; rfl, Kind.noConfusion⟩, fun reply _ => resume reply⟩

theorem receiveData_holds (payload : Bytes) :
    Follows holds (fun _ last => last = .idle) (receiveData header payload) .idle := by
  refine Follows.ite (fun _ => rfl) fun _ => idle_spares.step rfl fun _ => idle_spares.step rfl fun _ => ?_
  refine idle_spares.step (by split <;> rfl) fun (refused : Option Err) => ?_
  cases refused with
  | some err => exact rfl
  | none => exact server_step (by rintro _ ⟨⟩; rfl) fun _ => rfl

theorem trigger_holds : Follows holds (fun _ last => last = .idle) (trigger header) .idle := by
  refine Follows.ite (fun _ => rfl) fun _ => idle_spares.skip requireReady_within (by decide) fun refused => ?_
  cases refused with
  | some err => exact rfl
  | none =>
    refine idle_spares.step rfl fun _ => idle_spares.step rfl fun _ =>
      idle_spares.step rfl fun (refused : Option Err) => ?_
    cases refused with
    | some err => exact rfl
    | none =>
      refine server_step (by rintro _ ⟨⟩; rfl) fun (failed : Option Err) => ?_
      cases failed with
      | some err => exact rfl
      | none => exact idle_spares.step rfl fun _ => rfl

theorem completeDeviceClear_holds :
    Follows holds (fun _ last => last = .idle) (completeDeviceClear config header) .idle :=
  Follows.ite (fun _ => rfl) fun _ => idle_spares.step rfl fun _ => idle_spares.step rfl fun _ =>
    server_step nofun fun _ => rfl

theorem responseLoop_holds (number : Nat) (response : CheckedResponse) (fuel : Nat) (delivered : UInt64) :
    Follows holds (fun _ last => last = .holding number) (responseLoop (.operation number) response fuel delivered)
      (.holding number) := by
  induction fuel generalizing delivered with
  | zero => exact ⟨⟨fun _ => nofun, Kind.noConfusion⟩, fun reply => reply.elim⟩
  | succ fuel ih =>
    refine read_step fun result => holding_spares.skip (sendChunk_within response result) (by decide) fun sent => ?_
    cases sent with
    | error refused => exact rfl
    | ok sent =>
      cases result.err with
      | some err =>
        refine Follows.ite (fun _ => ?_) fun _ => ?_
        · exact holding_spares.rest (completeAbsentResponse_within response) (by decide)
        · exact holding_spares.rest (completeTruncatedResponse_within response) (by decide)
      | none =>
        exact Follows.ite (fun _ => holding_spares.rest (offerTerminator_within response _) (by decide)) fun _ => ih _

theorem sendResponse_holds (number : Nat) (response : Response) (fuel : Nat) :
    Follows holds (fun _ last => last = .holding number) (sendResponse (.operation number) response fuel)
      (.holding number) := by
  refine holding_spares.skip (validate_within response) (by decide) fun checked => ?_
  cases checked with
  | error err => exact rfl
  | ok checked =>
    refine holding_spares.step rfl fun (refused : Option Err) => ?_
    cases refused with
    | some err => exact rfl
    | none =>
      refine holding_spares.step rfl fun _ => ?_
      refine Follows.bind (responseLoop_holds number checked fuel 0) fun result last same => ?_
      subst same
      exact holding_spares.step rfl fun _ => rfl

theorem answerProgramMessage_holds (writer : Option MessageWriter) (fuel : Nat) :
    Follows holds (fun _ last => last = .idle) (answerProgramMessage config header writer fuel) .idle := by
  refine idle_spares.step rfl fun (found : Disposition) =>
    Follows.ite (fun _ => idle_spares.step rfl fun _ => rfl) fun _ => ?_
  refine ⟨⟨fun _ => nofun, fun _ => rfl⟩, fun number _ => ⟨rfl, fun _ _ => ?_⟩⟩
  refine holding_spares.step rfl fun async => holding_spares.step rfl fun limit => ?_
  refine holding_spares.skip syncPending_within (by decide) fun queued => ?_
  refine Follows.bind (sendResponse_holds number _ fuel) fun result last same => ?_
  subst same
  obtain ⟨outcome, err⟩ := result
  refine holding_spares.skip (countOutcome_within outcome) (by decide) fun _ => ?_
  have release : ∀ result : Option Err, Follows holds (fun _ last => last = .idle)
      (releaseOperation number >>= fun _ => Pure.pure result) (.holding number) :=
    fun result => ⟨⟨fun _ => nofun, Kind.noConfusion⟩, fun _ _ => ⟨rfl, fun _ _ => rfl⟩⟩
  cases err with
  | some err => exact holding_spares.skip (reportOperationError_within writer err) (by decide) release
  | none => exact release none

theorem handleData_holds :
    Follows holds (fun _ last => last = .idle) (handleData config message writer fuel) .idle := by
  refine Follows.bind (receiveData_holds _ _) fun result last same => ?_
  subst same
  obtain ⟨interrupted, err⟩ := result
  refine idle_spares.skip (countInterrupted_within interrupted) (by decide) fun _ => ?_
  have last : Follows holds (fun _ last => last = .idle) (if message.header.type ≠ .dataEnd then Pure.pure none
      else answerProgramMessage config message.header writer fuel) .idle :=
    Follows.ite (fun _ => rfl) fun _ => answerProgramMessage_holds config message.header writer fuel
  cases err with
  | some err => exact idle_spares.rest (reportOperationError_within writer err) (by decide)
  | none => exact Follows.ite (fun _ => idle_spares.step rfl fun _ => last) fun _ => last

theorem handleTrigger_holds : Follows holds (fun _ last => last = .idle) (handleTrigger message writer) .idle := by
  refine Follows.bind (trigger_holds _) fun result last same => ?_
  subst same
  obtain ⟨interrupted, err⟩ := result
  refine idle_spares.skip (countInterrupted_within interrupted) (by decide) fun _ => ?_
  cases err with
  | some err => exact idle_spares.rest (reportOperationError_within writer err) (by decide)
  | none => exact idle_spares.skip (last_within rfl : Within [.count] (count .triggers)) (by decide) fun _ => rfl

theorem handleDeviceClearComplete_holds :
    Follows holds (fun _ last => last = .idle) (handleDeviceClearComplete config message writer) .idle := by
  refine Follows.bind (completeDeviceClear_holds config message.header) fun result last same => ?_
  subst same
  obtain ⟨ack, clearErr⟩ := result
  refine idle_spares.skip (writeVia_only writer ack []) (by simp [plain]) fun failed => ?_
  cases failed with
  | some err => exact rfl
  | none =>
    refine idle_spares.skip (last_within rfl : Within [.count] (count .deviceClears)) (by decide) fun _ => ?_
    cases clearErr with
    | some err => exact idle_spares.rest (reportOperationError_within writer err) (by decide)
    | none => exact rfl

theorem handleSync_holds : Follows holds (fun _ last => last = .idle) (handleSync config message fuel) .idle :=
  idle_spares.handleSync config message fuel (by decide) (fun _ => rfl)
    (fun _ _ writer => handleData_holds config message writer fuel) (fun _ writer => handleTrigger_holds message writer)
    fun _ writer => handleDeviceClearComplete_holds config message writer

theorem handleEach_holds (messages : List Message) :
    Follows holds (fun _ last => last = .idle) (handleEach config fuel messages) .idle := by
  induction messages with
  | nil => exact rfl
  | cons message rest ih =>
    refine Follows.bind (handleSync_holds config message fuel) fun result last same => ?_
    subst same
    cases result with
    | some err => exact rfl
    | none => exact ih

end Holding

section Clearing

/-- How far a Device Clear has come with the operation it is to abandon. -/
inductive Progress where
  | waiting
  | cancelling (number : Nat)
  | done

def clears : Discipline Op Op.Reply Progress where
  allowed
    | .waiting, op => kind op = .operation → op = .shared (.session .abort)
    | .cancelling number, op => op = .shared (.cancel number)
    | .done, op => kind op ≠ .operation
  advance
    | .waiting, .shared (.session .abort), some number => .cancelling number
    | .waiting, .shared (.session .abort), none => .done
    | .cancelling _, .shared (.cancel _), _ => .done
    | progress, _, _ => progress

theorem requireReady_clears : Follows clears (fun _ progress => progress = .waiting) requireReady .waiting := by
  refine ⟨Kind.noConfusion, fun (state : State) _ => ?_⟩
  cases state <;> exact rfl

theorem abortOperation_clears : Follows clears (fun _ progress => progress = .done) abortOperation .waiting := by
  refine ⟨fun _ => rfl, fun (found : Option Nat) _ => ?_⟩
  cases found with
  | some number => exact ⟨rfl, fun _ _ => rfl⟩
  | none => exact rfl

theorem beginDeviceClear_clears (config : Config) :
    Follows clears (fun _ progress => ∀ number, progress ≠ .cancelling number) (beginDeviceClear config) .waiting := by
  refine Follows.bind requireReady_clears fun refused progress same => ?_
  subst same
  cases refused with
  | some err => exact fun _ => nofun
  | none =>
    refine Follows.bind abortOperation_clears fun _ progress same => ?_
    subst same
    refine ⟨Kind.noConfusion, fun _ _ => ⟨Kind.noConfusion, fun (refused : Option Err) _ => ?_⟩⟩
    cases refused with
    | some err => exact fun _ => nofun
    | none => exact ⟨Kind.noConfusion, fun _ _ => fun _ => nofun⟩

end Clearing

section Runs
variable {policy : ResponsePolicy σ} {overlap : Overlap σ}

theorem apply_quiet (policy : ResponsePolicy σ) {op : SharedOp} (quiet : kind (.shared op) ≠ .operation)
    (shared : Shared σ) :
    (op.apply policy shared).2.contexts = shared.contexts ∧ (op.apply policy shared).2.cancelled = shared.cancelled ∧
      ∀ number, (op.apply policy shared).2.session.opCancel = some number → shared.session.opCancel = some number := by
  cases op with
  | withCancel | cancel operation => exact absurd rfl quiet
  | locks op | count counter => exact ⟨rfl, rfl, fun _ same => same⟩
  | session op =>
    refine ⟨rfl, rfl, ?_⟩
    cases op with
    | register operation | abort => exact absurd rfl quiet
    | unregister | close => exact fun _ => nofun
    | attachAsync stream =>
      simp only [SharedOp.apply, SessionOp.apply, Session.attachAsync]
      repeat' split
      all_goals exact fun _ same => same
    | beginClear =>
      simp only [SharedOp.apply, SessionOp.apply, Session.beginClear]
      split <;> exact fun _ same => same
    | disposition =>
      simp only [SharedOp.apply, SessionOp.apply]
      cases shared.session.policy <;> exact fun _ same => same
    | _ => exact fun _ same => same

structure Numbered (shared : Shared σ) : Prop where
  cancelled : ∀ number ∈ shared.cancelled, number < shared.contexts
  registered : ∀ number, shared.session.opCancel = some number → number < shared.contexts

/-- A context that is not released yet is cancelled only by the clear that took it. -/
def Keeps (overlap : Overlap σ) : Hold → Prop
  | .idle => True
  | .made number | .holding number =>
    number < overlap.shared.contexts ∧ (number ∈ overlap.shared.cancelled → overlap.aborted = some number)
  | .left number => number < overlap.shared.contexts

def Reached (overlap : Overlap σ) : Progress → Prop
  | .waiting => overlap.aborted = none
  | .cancelling number => overlap.aborted = some number
  | .done => ∀ number, overlap.aborted = some number → number ∈ overlap.shared.cancelled

structure Sound (overlap : Overlap σ) : Prop where
  numbered : Numbered overlap.shared
  taken : ∀ number, overlap.aborted = some number → number < overlap.shared.contexts
  sync : ∃ hold, Follows holds (fun _ _ => True) overlap.sync hold ∧ Keeps overlap hold
  clear : ∃ progress, Follows clears (fun _ progress => ∀ number, progress ≠ .cancelling number) overlap.clear progress ∧
    Reached overlap progress

theorem Sound.start {shared : Shared σ} (numbered : Numbered shared) (config : Config) (fuel : Nat)
    (messages : List Message) :
    Sound ⟨shared, handleEach config fuel messages, beginDeviceClear config, none, none⟩ where
  numbered := numbered
  taken := fun _ => nofun
  sync := ⟨.idle, (handleEach_holds config fuel messages).mono fun _ _ _ => trivial, trivial⟩
  clear := ⟨.waiting, beginDeviceClear_clears config, rfl⟩

theorem mem_caught {ctx : Ctx} (caught : ctx ∈ overlap.caught) :
    ∃ op next, overlap.sync = .request (.environment op) next ∧ calls op = some ctx := by
  unfold Overlap.caught at caught
  split at caught
  next op next _ running => exact ⟨op, next, running, caught⟩
  next => cases caught

/-- What the clear caught was cancelled just when it was what the clear took. -/
theorem Sound.abandoned_iff (sound : Sound overlap) : overlap.Abandoned ↔ overlap.Taken := by
  refine forall_congr' fun returned => forall₂_congr fun ctx caught => ?_
  obtain ⟨op, next, running, called⟩ := mem_caught caught
  obtain ⟨hold, follows, keeps⟩ := sound.sync
  rw [running] at follows
  have under := follows.1
  cases hold with
  | idle =>
    obtain rfl := under.1 ctx called
    refine iff_of_false (fun cancelled => cancelled) fun same => ?_
    obtain ⟨number, -, other⟩ := Option.map_eq_some_iff.mp same
    cases other
  | holding number =>
    obtain rfl := under.1 ctx called
    refine ⟨fun cancelled => congrArg _ (keeps.2 cancelled), fun same => ?_⟩
    obtain ⟨taken, aborted, equal⟩ := Option.map_eq_some_iff.mp same
    cases equal
    obtain ⟨progress, ends, reached⟩ := sound.clear
    cases final : overlap.clear with
    | request op next =>
      rw [Overlap.returned, final] at returned
      cases returned
    | pure value =>
      rw [final] at ends
      cases progress with
      | waiting => exact absurd (aborted.symm.trans reached) (Option.some_ne_none _)
      | cancelling other => exact absurd rfl (ends other)
      | done => exact reached number aborted
  | made number | left number => cases under

section Steps
variable {overlap : Overlap σ} {hold : Hold} {progress : Progress} {op : SharedOp} {after : Overlap σ}

theorem Keeps.same (keeps : Keeps overlap hold) (contexts : after.shared.contexts = overlap.shared.contexts)
    (cancelled : after.shared.cancelled = overlap.shared.cancelled) (aborted : after.aborted = overlap.aborted) :
    Keeps after hold := by
  cases hold with
  | idle => trivial
  | made number | holding number =>
    refine ⟨contexts ▸ keeps.1, fun member => ?_⟩
    rw [aborted]
    exact keeps.2 (cancelled ▸ member)
  | left number => exact Nat.lt_of_lt_of_eq keeps contexts.symm

theorem Reached.same (reached : Reached overlap progress)
    (cancelled : after.shared.cancelled = overlap.shared.cancelled) (aborted : after.aborted = overlap.aborted) :
    Reached after progress := by
  cases progress with
  | waiting | cancelling number => exact aborted.trans reached
  | done =>
    intro number same
    rw [cancelled]
    exact reached number (aborted.symm.trans same)

theorem Numbered.quiet (numbered : Numbered overlap.shared) (quiet : kind (.shared op) ≠ .operation) :
    Numbered (op.apply policy overlap.shared).2 := by
  obtain ⟨contexts, cancelled, registered⟩ := apply_quiet policy quiet overlap.shared
  refine ⟨fun number member => ?_, fun number same => ?_⟩
  · rw [contexts]
    exact numbered.cancelled number (cancelled ▸ member)
  · rw [contexts]
    exact numbered.registered number (registered number same)

theorem Keeps.quiet (keeps : Keeps overlap hold) (quiet : kind (.shared op) ≠ .operation)
    (allowed : holds.allowed hold (.shared op)) (reply : op.Reply) :
    Keeps overlap (holds.advance hold (.shared op) reply) := by
  cases hold with
  | idle => cases op <;> trivial
  | holding number =>
    cases op with
    | session op => cases op <;> first | exact keeps.1 | exact keeps
    | _ => exact keeps
  | made number | left number =>
    cases allowed
    exact absurd rfl quiet

theorem Sound.sync_shared {next : op.Reply → Act (Option Err)} (sound : Sound overlap)
    (running : overlap.sync = .request (.shared op) next) :
    Sound { overlap with
      shared := (op.apply policy overlap.shared).2
      sync := next (op.apply policy overlap.shared).1 } := by
  obtain ⟨numbered, taken, ⟨hold, follows, keeps⟩, progress, ends, reached⟩ := sound
  rw [running] at follows
  have resume := follows.2 (op.apply policy overlap.shared).1 trivial
  by_cases quiet : kind (.shared op) = .operation
  · cases hold with
    | idle =>
      cases follows.1.2 quiet
      refine ⟨⟨fun number member => ?_, fun number same => ?_⟩, fun number same => ?_, ⟨_, resume, ?_⟩, progress, ends, ?_⟩
      · exact Nat.lt_succ_of_lt (numbered.cancelled number member)
      · exact Nat.lt_succ_of_lt (numbered.registered number same)
      · exact Nat.lt_succ_of_lt (taken number same)
      · exact ⟨Nat.lt_succ_self _, fun member => absurd (numbered.cancelled _ member) (Nat.lt_irrefl _)⟩
      · exact reached.same rfl rfl
    | made number =>
      cases follows.1
      refine ⟨⟨numbered.cancelled, fun other same => ?_⟩, taken, ⟨_, resume, keeps⟩, progress, ends, reached.same rfl rfl⟩
      cases same
      exact keeps.1
    | holding number => exact absurd quiet follows.1.2
    | left number =>
      cases follows.1
      refine ⟨⟨fun other member => ?_, numbered.registered⟩, taken, ⟨_, resume, trivial⟩, progress, ends, ?_⟩
      · obtain rfl | member := List.mem_cons.mp member
        · exact keeps
        · exact numbered.cancelled other member
      · cases progress with
        | waiting | cancelling other => exact reached
        | done => exact fun other same => List.mem_cons_of_mem _ (reached other same)
  · obtain ⟨contexts, cancelled, -⟩ := apply_quiet policy quiet overlap.shared
    have kept : Keeps overlap (holds.advance hold (.shared op) (op.apply policy overlap.shared).1) :=
      keeps.quiet quiet follows.1 _
    refine ⟨numbered.quiet quiet, fun number same => ?_, ⟨_, resume, kept.same contexts cancelled rfl⟩, progress, ends,
      reached.same cancelled rfl⟩
    exact Nat.lt_of_lt_of_eq (taken number same) contexts.symm

theorem takes_quiet (quiet : kind (.shared op) ≠ .operation) (reply : op.Reply) (before : Option Nat) :
    takes op reply before = before := by
  cases op with
  | session op => cases op <;> first | rfl | exact absurd rfl quiet
  | _ => rfl

theorem clears_quiet (quiet : kind (.shared op) ≠ .operation) (allowed : clears.allowed progress (.shared op))
    (reply : op.Reply) : clears.advance progress (.shared op) reply = progress := by
  cases progress with
  | waiting =>
    cases op with
    | session op => cases op <;> first | rfl | exact absurd rfl quiet
    | _ => rfl
  | cancelling number =>
    cases allowed
    exact absurd rfl quiet
  | done => rfl

theorem Sound.clear_shared {next : op.Reply → Act (Except Err Header)} (sound : Sound overlap)
    (running : overlap.clear = .request (.shared op) next) :
    Sound { overlap with
      shared := (op.apply policy overlap.shared).2
      clear := next (op.apply policy overlap.shared).1
      aborted := takes op (op.apply policy overlap.shared).1 overlap.aborted } := by
  obtain ⟨numbered, taken, ⟨hold, follows, keeps⟩, progress, ends, reached⟩ := sound
  rw [running] at ends
  have resume := ends.2 (op.apply policy overlap.shared).1 trivial
  by_cases quiet : kind (.shared op) = .operation
  · cases progress with
    | waiting =>
      cases ends.1 quiet
      refine ⟨⟨numbered.cancelled, fun _ => nofun⟩, numbered.registered, ⟨hold, follows, ?_⟩, _, resume, ?_⟩
      · -- Nothing of the loop's has been cancelled yet.
        have untouched : ∀ number, overlap.aborted ≠ some number := fun _ same => by cases reached.symm.trans same
        cases hold with
        | idle => trivial
        | made number | holding number => exact ⟨keeps.1, fun member => absurd (keeps.2 member) (untouched number)⟩
        | left number => exact keeps
      · show Reached _ (clears.advance .waiting (.shared (.session .abort)) overlap.shared.session.opCancel)
        cases found : overlap.shared.session.opCancel with
        | some number => exact found
        | none => exact fun number same => absurd (found.symm.trans same) nofun
    | cancelling number =>
      cases ends.1
      have bound : number < overlap.shared.contexts := taken number reached
      refine ⟨⟨fun other member => ?_, numbered.registered⟩, taken, ⟨hold, follows, ?_⟩, _, resume, fun other same => ?_⟩
      · obtain rfl | member := List.mem_cons.mp member
        · exact bound
        · exact numbered.cancelled other member
      · have still : ∀ other, (other ∈ overlap.shared.cancelled → overlap.aborted = some other) →
            other ∈ number :: overlap.shared.cancelled → overlap.aborted = some other := by
          intro other before member
          obtain rfl | member := List.mem_cons.mp member
          · exact reached
          · exact before member
        cases hold with
        | idle => trivial
        | made other | holding other => exact ⟨keeps.1, still other keeps.2⟩
        | left other => exact keeps
      · cases reached.symm.trans same
        exact List.mem_cons_self
    | done => exact absurd quiet ends.1
  · obtain ⟨contexts, cancelled, -⟩ := apply_quiet policy quiet overlap.shared
    have aborted := takes_quiet quiet (op.apply policy overlap.shared).1 overlap.aborted
    rw [clears_quiet quiet ends.1] at resume
    refine ⟨numbered.quiet quiet, fun number same => ?_, ⟨hold, follows, keeps.same contexts cancelled aborted⟩, progress,
      resume, reached.same cancelled aborted⟩
    exact Nat.lt_of_lt_of_eq (taken number (aborted ▸ same)) contexts.symm

end Steps

theorem Sound.step {overlap after : Overlap σ} {side : Side} (sound : Sound overlap)
    (moved : overlap.step policy side = some after) : Sound after := by
  cases side with
  | sync replies =>
    simp only [Overlap.step] at moved
    split at moved
    next => cases moved
    next op next running =>
      cases moved
      exact sound.sync_shared running
    next op next running =>
      split at moved
      next =>
        cases moved
        exact ⟨sound.numbered, sound.taken, sound.sync, sound.clear⟩
      next =>
        obtain ⟨reply, -, rfl⟩ := Option.map_eq_some_iff.mp moved
        obtain ⟨numbered, taken, ⟨hold, follows, keeps⟩, clear⟩ := sound
        rw [running] at follows
        have same : holds.advance hold (.environment op) reply = hold := by cases hold <;> rfl
        exact ⟨numbered, taken, ⟨hold, same ▸ follows.2 reply trivial, keeps⟩, clear⟩
  | clear =>
    simp only [Overlap.step] at moved
    split at moved
    next op next running =>
      cases moved
      exact sound.clear_shared running
    next => cases moved

end Runs

/-- A Device Clear abandons the call in progress exactly when that is made under the
operation that it found registered. -/
theorem abandoned_iff_taken (policy : ResponsePolicy σ) (config : Config) (fuel : Nat) (messages : List Message)
    (shared : Shared σ) (numbered : Numbered shared) (sides : List Side) :
    Always (Overlap.step policy) Overlap.Abandoned sides
        ⟨shared, handleEach config fuel messages, beginDeviceClear config, none, none⟩ ↔
      Always (Overlap.step policy) Overlap.Taken sides
        ⟨shared, handleEach config fuel messages, beginDeviceClear config, none, none⟩ :=
  always_congr (fun _ sound => sound.abandoned_iff) (fun _ _ _ sound moved => sound.step moved)
    (Sound.start numbered config fuel messages)

def between : Shared Unit where
  session := .paired .standard alwaysReadPolicy 1 .version10 Version.version10_current 0 1

theorem between_numbered : Numbered between := ⟨fun _ => nofun, fun _ => nofun⟩

def obligingly (op : EnvironmentOp) : Option op.Reply := (scripted op [⟨[65], true, none⟩]).1

def overlapping : Overlap Unit where
  shared := between
  sync := handleEach Profile.standard.toConfig 2 [{ header := { type := .dataEnd } }]
  clear := beginDeviceClear Profile.standard.toConfig

def whileReading : List Side := List.replicate 20 (.sync obligingly) ++ List.replicate 6 .clear

theorem read_abandoned :
    Numbered between ∧ Always (Overlap.step alwaysReadPolicy) Overlap.Abandoned whileReading overlapping ∧
      ∃ overlap, finish (Overlap.step alwaysReadPolicy) whileReading overlapping = some overlap ∧
        overlap.returned = true ∧ overlap.caught = some (.operation 0) ∧ overlap.Cancelled (.operation 0) := by
  have always : Always (Overlap.step alwaysReadPolicy) Overlap.Abandoned whileReading overlapping :=
    (abandoned_iff_taken alwaysReadPolicy Profile.standard.toConfig 2 [{ header := { type := .dataEnd } }] between
      between_numbered whileReading).mpr (by decide +kernel)
  exact ⟨between_numbered, always, _, rfl, rfl, rfl, always.finish rfl rfl _ rfl⟩

/-- A write is never cancelled. Neither is a read whose operation is registered after
the clear has looked for one. -/
theorem write_not_abandoned :
    (∃ overlap, finish (Overlap.step alwaysReadPolicy)
        (List.replicate 9 (.sync obligingly) ++ List.replicate 5 .clear) overlapping = some overlap ∧
      overlap.returned = true ∧ overlap.caught = some .server ∧ ¬ overlap.Abandoned) ∧
    ∃ overlap, finish (Overlap.step alwaysReadPolicy)
        (List.replicate 12 (.sync obligingly) ++ List.replicate 2 .clear ++ List.replicate 8 (.sync obligingly) ++
          List.replicate 3 .clear) overlapping = some overlap ∧
      overlap.returned = true ∧ overlap.caught = some (.operation 0) ∧ ¬ overlap.Abandoned := by
  refine ⟨⟨_, rfl, rfl, rfl, fun abandoned => abandoned rfl .server rfl⟩, _, rfl, rfl, rfl, fun abandoned => ?_⟩
  exact absurd (abandoned rfl (.operation 0) rfl) nofun

end Hislip.Proofs.AbandonedCalls
