import Hislip.Threads
import Hislip.Server.Execution
import Hislip.Server.Channels
import Hislip.Proofs.Footprint

/-! When a session is ready and when it can answer. The state that admits queries is
set before the asynchronous writer is installed, and a network write stands between the
two. -/

namespace Hislip.Proofs.Readiness
open Hislip.Server Hislip.Threads Transition Program Footprint

inductive Connection where
  | sync (header : Header) (subAddress : Except Err Bytes) (stream : Stream) (fuel : Nat) (turns : List Turn)
  | async (header : Header) (stream : Stream) (fuel : Nat) (turns : List Turn)

def Connection.program (profile : Profile) : Connection → ServerProgram (Option Err)
  | .sync header subAddress stream fuel turns =>
    ServerProgram.serveSyncChannel profile header subAddress stream fuel turns
  | .async header stream fuel turns => ServerProgram.serveAsyncChannel profile header stream fuel turns

inductive Answer where
  | idle | classified | validated
  deriving DecidableEq, Repr

/-- The policy expects a response, then the transaction does, which is the first thing
after `Response.validate`, and in the end the context of the operation is released. -/
def Answer.after : Answer → (op : SessionOp) → op.Reply → Answer
  | _, .disposition, .responseExpected => .classified
  | .classified, .tx .expectResponse, _ => .validated
  | _, .unregister, _ => .idle
  | answer, _, _ => answer

/-- The server, the answers in progress, and the sessions whose asynchronous writer has
been installed. -/
structure Seen (σ : Type) where
  registry : Registry σ := {}
  answer : Nat → Answer := fun _ => .idle
  installed : List Nat := []

def answers : (op : ServerOp) → op.Reply → (Nat → Answer) → Nat → Answer
  | .session number op, reply, answer => Function.update answer number ((answer number).after op reply)
  | _, _, answer => answer

def installs : ServerOp → List Nat
  | .session number (.setAsyncWriter _) => [number]
  | _ => []

variable {σ : Type}

def Seen.next (seen : Seen σ) (op : ServerOp) (reply : op.Reply) (registry : Registry σ) : Seen σ where
  registry
  answer := answers op reply seen.answer
  installed := installs op ++ seen.installed

def Seen.apply (profile : Profile) (policy : ResponsePolicy σ) (op : ServerOp) (outside : Outside) (seen : Seen σ) :
    Option (op.Reply × Seen σ) :=
  (op.apply profile policy outside seen.registry).map fun result => (result.1, seen.next op result.1 result.2)

abbrev Connections (σ : Type) : Type := Pool Connection (Seen σ) ServerOp.Reply (Option Err)

def Connections.step (profile : Profile) (policy : ResponsePolicy σ) :
    Connections σ → Move Connection Outside → Option (Connections σ) :=
  Pool.step (Seen.apply profile policy) (Connection.program profile)

/-- A ready session that answers a query has both writers, and no operation is released
before its response has passed `Response.validate`. -/
structure Usable (connections : Connections σ) : Prop where
  writers : ∀ (number : Nat) (session : Session σ), connections.shared.registry.made[number]? = some session →
    session.state = .ready → connections.shared.answer number ≠ .idle → session.syncW ≠ none ∧ session.asyncW ≠ none
  valid : ∀ thread ∈ connections.threads, ∀ number, thread.2.head = some (.session number .unregister) →
    connections.shared.answer number ≠ .classified

/-- The session whose program message the operation classifies as a query. -/
def classifies (policy : ResponsePolicy σ) (registry : Registry σ) : ServerOp → List Nat
  | .session number .disposition =>
    if registry.made[number]?.map (fun found => (SessionOp.disposition.apply policy found).1) = some .responseExpected
    then [number] else []
  | _ => []

def limits : ServerOp → List Nat
  | .session number (.setMaxTx _) => [number]
  | _ => []

/-- A query is classified only after the asynchronous writer was installed, and the
transmit limit does not change before the response has been validated. -/
def InOrder (policy : ResponsePolicy σ) (seen : Seen σ) (op : ServerOp) : Prop :=
  (∀ number ∈ classifies policy seen.registry op, number ∈ seen.installed) ∧
    ∀ number ∈ limits op, seen.answer number ≠ .classified

def Orderly (policy : ResponsePolicy σ) (connections : Connections σ) : Move Connection Outside → Prop
  | .start _ => True
  | .advance thread _ => ∀ running ∈ connections.threads[thread]?, ∀ op ∈ running.2.head,
      InOrder policy connections.shared op

instance (policy : ResponsePolicy σ) (seen : Seen σ) (op : ServerOp) : Decidable (InOrder policy seen op) :=
  inferInstanceAs (Decidable (_ ∧ _))

instance (policy : ResponsePolicy σ) (connections : Connections σ) :
    (move : Move Connection Outside) → Decidable (Orderly policy connections move)
  | .start _ => isTrue trivial
  | .advance _ _ => inferInstanceAs (Decidable (∀ running ∈ _, _))

section Replying

/-- How far the synchronous loop has come with a message. The limit it has read is
still the one of the session when the response is validated. -/
inductive Stage where
  | serving | classified | limited (limit : UInt64) | validated

namespace Stage

def answer : Stage → Answer
  | .serving => .idle
  | .classified | .limited _ => .classified
  | .validated => .validated

def after : Stage → (op : SessionOp) → op.Reply → Stage
  | _, .disposition, .responseExpected => .classified
  | .classified, .maxTx, limit => .limited limit
  | .classified, .tx .expectResponse, _ => .validated
  | .limited _, .tx .expectResponse, _ => .validated
  | _, .unregister, _ => .serving
  | stage, _, _ => stage

def Finds : Stage → (op : SessionOp) → op.Reply → Prop
  | _, .syncWriter, reply => reply ≠ none
  | .classified, .asyncWriter, reply => reply ≠ none
  | .classified, .maxTx, reply => 16 ≤ reply
  | .limited limit, .maxTx, reply => reply = limit
  | _, _, _ => True

theorem answer_after (stage : Stage) (op : SessionOp) (reply : op.Reply) :
    (stage.after op reply).answer = stage.answer.after op reply := by
  cases op with
  | disposition => cases stage <;> cases reply <;> rfl
  | tx op => cases stage <;> cases op <;> rfl
  | _ => cases stage <;> rfl

theorem after_serving {op : SessionOp} (other : op ≠ .disposition) (reply : op.Reply) :
    Stage.serving.after op reply = .serving := by
  cases op with
  | disposition => exact absurd rfl other
  | tx op => cases op <;> rfl
  | _ => rfl

theorem after_validated {op : SessionOp} (other : op ≠ .disposition) (kept : op ≠ .unregister) (reply : op.Reply) :
    Stage.validated.after op reply = .validated := by
  cases op with
  | disposition => exact absurd rfl other
  | unregister => exact absurd rfl kept
  | tx op => cases op <;> rfl
  | _ => rfl

end Stage

/-- The operation of a query is not released before the response is valid. -/
def replying : Discipline Op Op.Reply Stage where
  allowed stage op := stage.answer = .classified → kind op ≠ .release
  possible
    | stage, .shared (.session op), reply => stage.Finds op reply
    | _, _, _ => True
  advance
    | stage, .shared (.session op), reply => stage.after op reply
    | stage, _, _ => stage

variable {α β : Type} {kinds : List Kind} {post : α → Stage → Prop} {config : Config}

theorem advance_serving {op : Op} (other : kind op ≠ .disposition) (reply : op.Reply) :
    replying.advance .serving op reply = .serving := by
  cases op with
  | environment op => rfl
  | shared op =>
    cases op with
    | session op =>
      refine Stage.after_serving (fun same => ?_) reply
      subst same
      exact other rfl
    | _ => rfl

theorem advance_validated {op : Op} (other : kind op ≠ .disposition) (kept : kind op ≠ .release) (reply : op.Reply) :
    replying.advance .validated op reply = .validated := by
  cases op with
  | environment op => rfl
  | shared op =>
    cases op with
    | session op =>
      refine Stage.after_validated (fun same => ?_) (fun same => ?_) reply
      · subst same
        exact other rfl
      · subst same
        exact kept rfl
    | _ => rfl

theorem serving_spares : Spares replying .serving (· ≠ .disposition) := fun _ spared => ⟨nofun, advance_serving spared⟩

theorem validated_spares : Spares replying .validated (fun kind => kind ≠ .disposition ∧ kind ≠ .release) :=
  fun _ spared => ⟨nofun, advance_validated spared.1 spared.2⟩

theorem replying_step {op : SessionOp} {next : op.Reply → Act β} {post : β → Stage → Prop} {stage : Stage}
    (allowed : stage.answer = .classified → kind (.shared (.session op)) ≠ .release)
    (resume : ∀ reply, stage.Finds op reply → Follows replying post (next reply) (stage.after op reply)) :
    Follows replying post (Act.session op >>= next) stage := ⟨allowed, resume⟩

theorem responseScratch_fits {buffer limit : UInt64} (large : 16 ≤ buffer) (transmits : 16 ≤ limit) :
    responseScratch buffer.toNat limit ≠ 0 ∧ ¬ UInt64.ofNat (responseScratch buffer.toNat limit) > limit := by
  have room : 16 ≤ buffer.toNat := UInt64.le_iff_toNat_le.mp large
  have positive : 16 ≤ limit.toNat := UInt64.le_iff_toNat_le.mp transmits
  have nonzero : limit ≠ 0 := by
    rintro rfl
    exact absurd positive (by decide)
  unfold responseScratch
  split
  next covers =>
    refine ⟨by omega, UInt64.not_lt.mpr ?_⟩
    rw [UInt64.ofNat_toNat]
    exact UInt64.le_iff_toNat_le.mpr (covers.resolve_left nonzero)
  next =>
    refine ⟨by omega, UInt64.not_lt.mpr ?_⟩
    rw [UInt64.ofNat_toNat]
    exact UInt64.le_refl limit

theorem validate_valid {limit : UInt64} (sync async : MessageWriter) (messageID : MessageID) {scratch : Nat}
    (queued : InputQueued) (room : scratch ≠ 0) (fits : ¬ UInt64.ofNat scratch > limit) :
    Follows replying
      (fun result stage => result = .ok ⟨sync, async, messageID, scratch, queued⟩ ∧ stage = .limited limit)
      (Response.validate ⟨some sync, some async, messageID, scratch, some queued⟩) (.limited limit) := by
  refine Follows.ite (fun empty => absurd empty room) fun _ =>
    replying_step (fun _ => Kind.noConfusion) fun reply same => ?_
  obtain rfl : reply = limit := same
  exact Follows.ite (fun large => absurd large fits) fun _ => ⟨rfl, rfl⟩

theorem sendResponse_valid {limit : UInt64} (ctx : Ctx) (sync async : MessageWriter) (messageID : MessageID)
    {scratch : Nat} (queued : InputQueued) (fuel : Nat) (room : scratch ≠ 0) (fits : ¬ UInt64.ofNat scratch > limit) :
    Follows replying (fun _ stage => stage = .validated)
      (sendResponse ctx ⟨some sync, some async, messageID, scratch, some queued⟩ fuel) (.limited limit) := by
  refine Follows.bind (validate_valid sync async messageID queued room fits) fun result stage holds => ?_
  obtain ⟨rfl, rfl⟩ := holds
  refine replying_step (fun _ => Kind.noConfusion) fun (refused : Option Err) _ => ?_
  cases refused with
  | some err => exact rfl
  | none =>
    refine replying_step nofun fun _ _ =>
      validated_spares.skip (responseLoop_within ctx _ fuel 0) (by decide) fun result => ?_
    exact replying_step nofun fun _ _ => rfl

theorem syncPending_replies (limit : UInt64) :
    Follows replying (fun _ stage => stage = .limited limit) syncPending (.limited limit) :=
  replying_step (fun _ => Kind.noConfusion) fun _ _ => Follows.ite (fun _ => rfl) fun _ => rfl

theorem answerProgramMessage_replies (large : 16 ≤ config.maxTxPayload) (header : Header) (writer : MessageWriter)
    (fuel : Nat) :
    Follows replying (fun _ stage => stage = .serving)
      (answerProgramMessage config header (some writer) fuel) .serving := by
  refine replying_step nofun fun found _ => ?_
  cases found with
  | noResponseExpected => exact serving_spares.rest (last_within rfl) (show ∀ kind ∈ [Kind.tx], kind ≠ .disposition by decide)
  | unknown => exact serving_spares.rest (last_within rfl) (show ∀ kind ∈ [Kind.tx], kind ≠ .disposition by decide)
  | responseExpected =>
    refine Follows.ite (fun other => absurd rfl other) fun _ => ?_
    refine ⟨fun _ => Kind.noConfusion, fun number _ => replying_step (fun _ => Kind.noConfusion) fun _ _ => ?_⟩
    refine replying_step (fun _ => Kind.noConfusion) fun async installed => ?_
    obtain ⟨async, rfl⟩ := Option.ne_none_iff_exists'.mp installed
    refine replying_step (fun _ => Kind.noConfusion) fun limit transmits => ?_
    obtain ⟨room, fits⟩ := responseScratch_fits large transmits
    refine Follows.bind (syncPending_replies limit) fun queued stage same => ?_
    subst same
    refine Follows.bind (sendResponse_valid _ writer async _ queued fuel room fits) fun result stage same => ?_
    subst same
    obtain ⟨outcome, err⟩ := result
    refine validated_spares.skip (countOutcome_within outcome) (by decide) fun _ => ?_
    have release : ∀ result : Option Err, Follows replying (fun _ stage => stage = .serving)
        (releaseOperation number >>= fun _ => Pure.pure result) .validated :=
      fun result => replying_step nofun fun _ _ => ⟨nofun, fun _ _ => rfl⟩
    cases err with
    | some err => exact validated_spares.skip (reportOperationError_within (some writer) err) (by decide) release
    | none => exact release none

theorem handleData_replies (large : 16 ≤ config.maxTxPayload) (message : Message) (writer : MessageWriter)
    (fuel : Nat) :
    Follows replying (fun _ stage => stage = .serving) (handleData config message (some writer) fuel) .serving := by
  refine serving_spares.skip (receiveData_within _ _) (by decide) fun result => ?_
  obtain ⟨interrupted, err⟩ := result
  refine serving_spares.skip (countInterrupted_within interrupted) (by decide) fun _ => ?_
  have last : Follows replying (fun _ stage => stage = .serving) (if message.header.type ≠ .dataEnd then Pure.pure none
      else answerProgramMessage config message.header (some writer) fuel) .serving :=
    Follows.ite (fun _ => rfl) fun _ => answerProgramMessage_replies large message.header writer fuel
  cases err with
  | some err => exact serving_spares.rest (reportOperationError_within (some writer) err) (by decide)
  | none => exact Follows.ite (fun _ => replying_step nofun fun _ _ => last) fun _ => last

theorem handleSync_replies (large : 16 ≤ config.maxTxPayload) (message : Message) (fuel : Nat) :
    Follows replying (fun _ stage => stage = .serving) (handleSync config message fuel) .serving := by
  refine replying_step nofun fun writer installed => ?_
  obtain ⟨writer, rfl⟩ := Option.ne_none_iff_exists'.mp installed
  show Follows _ _ _ Stage.serving
  cases message.err with
  | some err => exact serving_spares.rest (reportReadError_within (some writer) err) (by decide)
  | none =>
    refine serving_spares.skip (discardDuringClear_within _) (by decide) fun _ => Follows.ite (fun _ => rfl) fun _ => ?_
    refine serving_spares.skip (accept_within _ _) (by decide) fun result => ?_
    cases result with
    | error err => exact serving_spares.rest (reportAcceptError_within (some writer) err) (by decide)
    | ok found =>
      refine Follows.ite (fun _ => handleData_replies large message writer fuel) fun _ => ?_
      refine Follows.ite (fun _ => serving_spares.rest (handleTrigger_within message _) (by decide)) fun _ => ?_
      refine Follows.ite
        (fun _ => serving_spares.rest (handleDeviceClearComplete_within config message _) (by decide)) fun _ => ?_
      exact serving_spares.rest (otherSync_within message.header found (some writer)) (by decide)

end Replying

section Roles

/-- What a handler of the server has to do with sessions: nothing in particular, or it
has made one and then serves its synchronous channel. -/
inductive Role where
  | free
  | owner (number : Nat)
  | loop (number : Nat) (stage : Stage)

def stirs : SessionOp → Bool
  | .disposition | .tx .expectResponse | .unregister => true
  | _ => false

def roles : Discipline ServerOp ServerOp.Reply Role where
  allowed
    | .free, .session _ op => stirs op = false
    | .free, _ => True
    | .owner number, .session other op => other = number ∧ stirs op = false
    | .loop number stage, .session other op =>
      other = number ∧ (stage.answer = .classified → kind (.shared (.session op)) ≠ .release)
    | _, .allocateSession _ _ => False
    | _, _ => True
  possible
    | .loop _ stage, .session _ op, reply => stage.Finds op reply
    | _, _, _ => True
  advance
    | .free, .allocateSession _ _, .ok (number, _) => .owner number
    | .owner number, .session _ (.setSyncWriter _), _ => .loop number .serving
    | .loop number stage, .session _ op, reply => .loop number (stage.after op reply)
    | role, _, _ => role

variable {α β : Type} {kinds : List Kind} (profile : Profile) {role : Role} (header : Header) {post : β → Role → Prop}
  (stream : Stream)

def stirring : Kind → Bool
  | .disposition | .expect | .release => true
  | _ => false

theorem stirs_eq (op : SessionOp) : stirs op = stirring (kind (.shared (.session op))) := by
  cases op with
  | tx op => cases op <;> rfl
  | _ => rfl

theorem follows_free {program : Act α} (within : Within kinds program) (spared : ∀ kind ∈ kinds, stirring kind = false)
    (number : Nat) : Follows roles (fun _ role => role = .free) (ServerProgram.ofLoop number program) .free := by
  induction program with
  | pure value => exact rfl
  | request op next ih =>
    have resume := fun reply => ih reply (within.2 reply trivial)
    cases op with
    | environment op => exact ⟨trivial, fun reply _ => resume reply⟩
    | shared op =>
      cases op with
      | session op => exact ⟨(stirs_eq op).trans (spared _ within.1), fun reply _ => resume reply⟩
      | _ => exact ⟨trivial, fun reply _ => resume reply⟩

theorem follows_loop {program : Act α} {stage : Stage} {post : α → Stage → Prop} (number : Nat)
    (follows : Follows replying post program stage) :
    Follows roles (fun value role => ∃ last, role = .loop number last ∧ post value last)
      (ServerProgram.ofLoop number program) (.loop number stage) := by
  refine follows.translate (Role.loop number) (fun stage op allowed => ?_) (fun stage op reply possible => ?_)
    fun stage op reply => ?_
  · cases op with
    | environment op => trivial
    | shared op =>
      cases op with
      | session op => exact ⟨rfl, allowed⟩
      | _ => trivial
  · cases op with
    | environment op => trivial
    | shared op =>
      cases op with
      | session op => exact possible
      | _ => trivial
  · cases op with
    | environment op => rfl
    | shared op => cases op <;> rfl

theorem roles_step {op : ServerOp} {next : op.Reply → ServerProgram β} (allowed : roles.allowed role op)
    (resume : ∀ reply, roles.possible role op reply → Follows roles post (next reply) (roles.advance role op reply)) :
    Follows roles post (ServerProgram.perform op >>= next) role := ⟨allowed, resume⟩

theorem write_role (writer : MessageWriter) (header : Header) (payload : Bytes) (role : Role) :
    Follows roles (fun _ last => last = role) (ServerProgram.write writer header payload) role := by
  unfold ServerProgram.write MessageWriter.write
  split
  next => exact rfl
  next =>
    split
    next => exact rfl
    next => cases role <;> exact ⟨trivial, fun _ _ => rfl⟩

theorem write_bind {writer : MessageWriter} {header : Header} {payload : Bytes} {next : Option Err → ServerProgram β}
    (resume : ∀ failed, Follows roles post (next failed) role) :
    Follows roles post (ServerProgram.write writer header payload >>= next) role := by
  refine Follows.bind (write_role writer header payload role) fun failed last same => ?_
  subst same
  exact resume failed

theorem closeStreams_role (streams : List Stream) (first : Option Err) (role : Role) :
    Follows roles (fun _ _ => True) (ServerProgram.closeStreams streams first) role := by
  induction streams generalizing first role with
  | nil => trivial
  | cons stream rest ih => cases role <;> exact roles_step trivial fun _ _ => ih _ _

theorem close_role {number : Nat} (closes : roles.allowed role (.session number .close)) :
    Follows roles (fun _ _ => True) (ServerProgram.close number) role := by
  refine roles_step closes fun reply _ => ?_
  obtain ⟨streams, _ | operation⟩ := reply
  · exact closeStreams_role streams none _
  · refine roles_step ?_ fun _ _ => closeStreams_role streams none _
    cases role <;> trivial

theorem removeSession_role {number : Nat} (closes : roles.allowed role (.session number .close)) :
    Follows roles (fun _ _ => True) (ServerProgram.removeSession number) role := by
  have keeps : ∀ reply, roles.advance role (.releaseAll number) reply = role := by cases role <;> exact fun _ => rfl
  have leaves : ∀ reply, roles.advance role (.unregister number) reply = role := by cases role <;> exact fun _ => rfl
  refine roles_step (by cases role <;> trivial) fun reply _ => ?_
  rw [keeps]
  refine roles_step (by cases role <;> trivial) fun reply _ => ?_
  rw [leaves]
  exact close_role closes

def Made (result : Except Err (Nat × Header)) (role : Role) : Prop :=
  match result with
  | .error _ => role = .free
  | .ok (number, _) => role = .owner number

theorem initializeRequest_role (subAddress : Bytes) (stream : Stream) :
    Follows roles Made (ServerProgram.initializeRequest profile header subAddress stream) .free := by
  unfold ServerProgram.initializeRequest
  refine Follows.ite (fun _ => rfl) fun _ => Follows.ite (fun _ => rfl) fun _ => Follows.ite (fun _ => rfl) fun _ => ?_
  split
  next current =>
    refine roles_step trivial fun reply _ => ?_
    obtain err | ⟨number, id⟩ := reply
    · exact rfl
    · exact rfl
  next => exact rfl

theorem asyncInitialize_role :
    Follows roles (fun _ role => role = .free) (ServerProgram.asyncInitialize profile header stream) .free := by
  unfold ServerProgram.asyncInitialize
  refine Follows.ite (fun _ => rfl) fun _ => Follows.ite (fun _ => rfl) fun _ => ?_
  refine roles_step trivial fun (found : Option Nat) _ => ?_
  cases found with
  | none => exact rfl
  | some number =>
    refine roles_step rfl fun (refused : Option Err) _ => ?_
    cases refused <;> exact rfl

theorem runLoop_role {turn : Turn → ServerProgram (Option (Option Err))}
    (takes : ∀ next, Follows roles (fun _ last => last = role) (turn next) role) (turns : List Turn) :
    Follows roles (fun _ last => last = role) (ServerProgram.runLoop turn turns) role := by
  induction turns with
  | nil => cases role <;> exact ⟨trivial, fun reply => reply.elim⟩
  | cons next rest ih =>
    refine Follows.bind (takes next) fun result last same => ?_
    subst same
    cases result with
    | some result => exact rfl
    | none => exact ih

theorem takeTurn_role {handle : Message → ServerProgram (Option Err)}
    (handles : ∀ message, Follows roles (fun _ last => last = role) (handle message) role) (turn : Turn) :
    Follows roles (fun _ last => last = role) (ServerProgram.takeTurn handle turn) role := by
  cases turn with
  | ending err => exact rfl
  | message message =>
    refine Follows.bind (handles message) fun result last same => ?_
    subst same
    cases result <;> exact rfl

theorem syncTurn_role {config : Config} (large : 16 ≤ config.maxTxPayload) (number fuel : Nat) (turn : Turn) :
    Follows roles (fun _ last => last = .loop number .serving) (ServerProgram.syncTurn config number fuel turn)
      (.loop number .serving) := by
  refine takeTurn_role (fun message => ?_) turn
  refine (follows_loop number (handleSync_replies large message fuel)).mono fun _ role holds => ?_
  obtain ⟨stage, rfl, rfl⟩ := holds
  rfl

theorem asyncTurn_role (config : Config) (number fuel : Nat) (turn : Turn) :
    Follows roles (fun _ last => last = .free) (ServerProgram.asyncTurn config number fuel turn) .free :=
  takeTurn_role (fun message => follows_free (handleAsync_within config message fuel) (by decide) number) turn

theorem serveSyncChannel_role (subAddress : Except Err Bytes) (stream : Stream) (fuel : Nat) (turns : List Turn) :
    Follows roles (fun _ _ => True) (ServerProgram.serveSyncChannel profile header subAddress stream fuel turns) .free := by
  cases subAddress with
  | error err => exact write_bind fun _ => roles_step trivial fun _ _ => trivial
  | ok subAddress =>
    refine Follows.bind (initializeRequest_role profile header subAddress stream) fun result role made => ?_
    cases result with
    | error err =>
      obtain rfl : role = .free := made
      refine write_bind fun _ => roles_step trivial fun _ _ => Follows.ite (fun _ => ?_) fun _ => ?_
      · exact roles_step trivial fun _ _ => roles_step trivial fun _ _ => trivial
      · exact roles_step trivial fun _ _ => trivial
    | ok found =>
      obtain ⟨number, response⟩ := found
      obtain rfl : role = .owner number := made
      refine write_bind fun failed => ?_
      cases failed with
      | some err =>
        refine Follows.bind (removeSession_role ?_) fun _ _ _ => trivial
        exact ⟨rfl, rfl⟩
      | none =>
        refine roles_step trivial fun _ _ => roles_step ⟨rfl, rfl⟩ fun _ _ => ?_
        refine Follows.bind (?_ : Follows roles (fun _ last => last = .loop number .serving) _ _) fun result role same => ?_
        · refine roles_step ⟨rfl, nofun⟩ fun _ _ => roles_step ⟨rfl, nofun⟩ fun _ _ => ?_
          exact runLoop_role (syncTurn_role profile.maxTxPayload_ge number fuel) turns
        · subst same
          refine Follows.bind (removeSession_role ?_) fun _ _ _ => trivial
          exact ⟨rfl, nofun⟩

theorem serveAsyncChannel_role (fuel : Nat) (turns : List Turn) :
    Follows roles (fun _ _ => True) (ServerProgram.serveAsyncChannel profile header stream fuel turns) .free := by
  refine Follows.bind (asyncInitialize_role profile header stream) fun result role same => ?_
  subst same
  cases result with
  | error err => exact write_bind fun _ => roles_step trivial fun _ _ => roles_step trivial fun _ _ => trivial
  | ok found =>
    obtain ⟨number, response⟩ := found
    refine write_bind fun failed => ?_
    cases failed with
    | some err => trivial
    | none =>
      refine roles_step rfl fun _ _ => roles_step rfl fun _ _ => ?_
      exact (runLoop_role (asyncTurn_role profile.toConfig number fuel) turns).mono fun _ _ _ => trivial

theorem connection_role (connection : Connection) :
    Follows roles (fun _ _ => True) (connection.program profile) .free := by
  cases connection with
  | sync header subAddress stream fuel turns => exact serveSyncChannel_role profile header subAddress stream fuel turns
  | async header stream fuel turns => exact serveAsyncChannel_role profile header stream fuel turns

end Roles

section Runs
variable {profile : Profile} {policy : ResponsePolicy σ}

structure Sound (seen : Seen σ) : Prop where
  installed : ∀ number ∈ seen.installed, ∃ session, seen.registry.made[number]? = some session ∧ session.asyncW ≠ none
  answering : ∀ number, seen.answer number ≠ .idle → number ∈ seen.installed ∧
    ∃ session, seen.registry.made[number]? = some session ∧ session.syncW ≠ none

def Backs (seen : Seen σ) : Role → Prop
  | .free => True
  | .owner number => number < seen.registry.made.length ∧ seen.answer number = .idle
  | .loop number stage => seen.answer number = stage.answer ∧
      ∃ session, seen.registry.made[number]? = some session ∧ session.syncW ≠ none ∧
        ∀ limit, stage = .limited limit → session.maxTx = limit

def Role.session : Role → Option Nat
  | .free => none
  | .owner number | .loop number _ => some number

def Apart (first second : Role) : Prop := ∀ number, first.session = some number → second.session ≠ some number

theorem apply_stays {op : ServerOp} {outside : Outside} {reply : op.Reply} {before after : Registry σ}
    (applied : op.apply profile policy outside before = some (reply, after)) {number : Nat} {session : Session σ}
    (standing : before.made[number]? = some session) :
    ∃ later, after.made[number]? = some later ∧ (session.syncW ≠ none → later.syncW ≠ none) ∧
      (session.asyncW ≠ none → later.asyncW ≠ none) ∧
      ((∀ limit, op ≠ .session number (.setMaxTx limit)) → later.maxTx = session.maxTx) := by
  have unchanged : after.made[number]? = some session → ∃ later, after.made[number]? = some later ∧
      (session.syncW ≠ none → later.syncW ≠ none) ∧ (session.asyncW ≠ none → later.asyncW ≠ none) ∧
      ((∀ limit, op ≠ .session number (.setMaxTx limit)) → later.maxTx = session.maxTx) :=
    fun still => ⟨session, still, fun kept => kept, fun kept => kept, fun _ => rfl⟩
  obtain ⟨made, -⟩ | ⟨other, inner, found, rfl, here, made, -⟩ | ⟨version, stream, id, rfl, made, -⟩ :=
    apply_cases applied
  · exact unchanged (made ▸ standing)
  · by_cases same : other = number
    · subst same
      obtain rfl := Option.some_inj.mp (standing.symm.trans here)
      have keeps := inner.apply_keeps policy session
      refine ⟨(inner.apply policy session).2, ?_, keeps.writers.1, keeps.writers.2,
        fun plain => keeps.maxTx fun limit equal => ?_⟩
      · rw [made]
        exact List.getElem?_set_self (List.getElem?_eq_some_iff.mp here).1
      · exact plain limit (equal ▸ rfl)
    · exact unchanged (by rw [made, List.getElem?_set_ne same, standing])
  · exact unchanged (by rw [made, List.getElem?_append_left (List.getElem?_eq_some_iff.mp standing).1, standing])

theorem Answer.after_quiet {op : SessionOp} (quiet : stirs op = false) (answer : Answer) (reply : op.Reply) :
    answer.after op reply = answer := by
  cases op with
  | disposition => cases quiet
  | unregister => cases quiet
  | tx op => cases op <;> cases answer <;> first | rfl | cases quiet
  | _ => cases answer <;> rfl

theorem answers_quiet {op : ServerOp} {number : Nat} (quiet : ∀ inner, op = .session number inner → stirs inner = false)
    (reply : op.Reply) (answer : Nat → Answer) : answers op reply answer number = answer number := by
  cases op with
  | session other inner =>
    by_cases same : other = number
    · subst same
      exact (Function.update_self ..).trans (Answer.after_quiet (quiet inner rfl) _ reply)
    · exact Function.update_of_ne (Ne.symm same) ..
  | _ => rfl

theorem Answer.after_idle {op : SessionOp} {session : Session σ}
    (begins : Answer.idle.after op (op.apply policy session).1 ≠ .idle) :
    op = .disposition ∧ (SessionOp.disposition.apply policy session).1 = .responseExpected := by
  cases op with
  | disposition =>
    refine ⟨rfl, ?_⟩
    cases found : (SessionOp.disposition.apply policy session).1 with
    | responseExpected => rfl
    | _ =>
      rw [found] at begins
      exact absurd rfl begins
  | tx op => cases op <;> exact absurd rfl begins
  | _ => exact absurd rfl begins

section Step
variable {op : ServerOp} {outside : Outside} {reply : op.Reply} {seen : Seen σ} {registry : Registry σ} {number : Nat}
  {role : Role} {inner : SessionOp}

theorem session_applied {reply : inner.Reply}
    (applied : (ServerOp.session number inner).apply profile policy outside seen.registry = some (reply, registry)) :
    ∃ found, seen.registry.made[number]? = some found ∧ reply = (inner.apply policy found).1 ∧
      registry.made[number]? = some (inner.apply policy found).2 := by
  obtain ⟨found, here, same⟩ := Option.map_eq_some_iff.mp applied
  cases same
  exact ⟨found, here, rfl, List.getElem?_set_self (List.getElem?_eq_some_iff.mp here).1⟩

theorem mem_installs (member : number ∈ installs op) : ∃ writer, op = .session number (.setAsyncWriter writer) := by
  unfold installs at member
  split at member
  next other writer =>
    obtain rfl := List.mem_singleton.mp member
    exact ⟨writer, rfl⟩
  next => cases member

theorem loop_of_stirs (allowed : roles.allowed role (.session number inner)) (stirred : stirs inner = true) :
    ∃ stage, role = .loop number stage := by
  cases role with
  | free => exact absurd (stirred.symm.trans allowed) Bool.noConfusion
  | owner other => exact absurd (stirred.symm.trans allowed.2) Bool.noConfusion
  | loop other stage =>
    obtain ⟨rfl, -⟩ := allowed
    exact ⟨stage, rfl⟩

theorem Sound.next (sound : Sound seen) (backs : Backs seen role) (allowed : roles.allowed role op)
    (order : InOrder policy seen op)
    (applied : op.apply profile policy outside seen.registry = some (reply, registry)) :
    Sound (seen.next op reply registry) := by
  refine ⟨fun number member => ?_, fun number answering => ?_⟩
  · obtain now | earlier := List.mem_append.mp member
    · obtain ⟨writer, rfl⟩ := mem_installs now
      obtain ⟨found, -, -, standing⟩ := session_applied applied
      exact ⟨_, standing, Option.some_ne_none writer⟩
    · obtain ⟨session, standing, writer⟩ := sound.installed number earlier
      obtain ⟨later, still, -, kept, -⟩ := apply_stays applied standing
      exact ⟨later, still, kept writer⟩
  · by_cases before : seen.answer number = .idle
    · cases op with
      | session other inner =>
        by_cases same : other = number
        · subst same
          obtain ⟨found, here, rfl, standing⟩ := session_applied applied
          have begins : Answer.idle.after inner (inner.apply policy found).1 ≠ .idle := by
            refine fun idle => answering ((Function.update_self ..).trans ?_)
            rw [before]
            exact idle
          obtain ⟨rfl, expected⟩ := Answer.after_idle begins
          obtain ⟨stage, rfl⟩ := loop_of_stirs allowed rfl
          obtain ⟨-, session, known, writer, -⟩ := backs
          obtain rfl := Option.some_inj.mp (known.symm.trans here)
          have query : other ∈ classifies policy seen.registry (.session other .disposition) := by
            simp [classifies, here, expected]
          exact ⟨List.mem_append_right _ (order.1 other query), _, standing,
            (SessionOp.apply_keeps policy .disposition session).writers.1 writer⟩
        · exact absurd ((Function.update_of_ne (Ne.symm same) ..).trans before) answering
      | _ => exact absurd before answering
    · obtain ⟨installed, session, standing, writer⟩ := sound.answering number before
      obtain ⟨later, still, kept, -⟩ := apply_stays applied standing
      exact ⟨List.mem_append_right _ installed, later, still, kept writer⟩

theorem possible_next (sound : Sound seen) (backs : Backs seen role) (allowed : roles.allowed role op)
    (applied : op.apply profile policy outside seen.registry = some (reply, registry)) :
    roles.possible role op reply := by
  cases role with
  | free | owner number => trivial
  | loop number stage =>
    cases op with
    | session other inner =>
      obtain ⟨rfl, -⟩ := allowed
      obtain ⟨answer, session, standing, writer, limited⟩ := backs
      obtain ⟨found, here, rfl, -⟩ := session_applied applied
      obtain rfl := Option.some_inj.mp (standing.symm.trans here)
      have async : stage = .classified → session.asyncW ≠ none := by
        rintro rfl
        obtain ⟨installed, -⟩ := sound.answering other (answer ▸ Answer.noConfusion)
        obtain ⟨known, there, writer⟩ := sound.installed other installed
        obtain rfl := Option.some_inj.mp (standing.symm.trans there)
        exact writer
      cases inner with
      | syncWriter => cases stage <;> exact writer
      | asyncWriter =>
        cases stage with
        | classified => exact async rfl
        | _ => trivial
      | maxTx =>
        cases stage with
        | classified => exact session.transmits
        | limited limit => exact limited limit rfl
        | _ => trivial
      | _ => cases stage <;> trivial
    | _ => trivial

theorem unlimited {limit : { limit : UInt64 // 256 ≤ limit }} (order : InOrder policy seen op)
    (classified : seen.answer number = .classified) : op ≠ .session number (.setMaxTx limit) := by
  rintro rfl
  exact order.2 number List.mem_cons_self classified

theorem Backs.bound (backs : Backs seen role) (own : role.session = some number) :
    number < seen.registry.made.length := by
  cases role with
  | free => cases own
  | owner other =>
    cases own
    exact backs.1
  | loop other stage =>
    cases own
    obtain ⟨-, session, standing, -⟩ := backs
    exact (List.getElem?_eq_some_iff.mp standing).1

theorem Backs.kept (backs : Backs seen role)
    (quiet : ∀ number, role.session = some number → ∀ inner, op = .session number inner → stirs inner = false)
    (order : InOrder policy seen op)
    (applied : op.apply profile policy outside seen.registry = some (reply, registry)) :
    Backs (seen.next op reply registry) role := by
  cases role with
  | free => trivial
  | owner number =>
    obtain ⟨later, still, -⟩ := apply_stays applied (List.getElem?_eq_getElem backs.1)
    exact ⟨(List.getElem?_eq_some_iff.mp still).1, (answers_quiet (quiet number rfl) reply _).trans backs.2⟩
  | loop number stage =>
    obtain ⟨answer, session, standing, writer, limited⟩ := backs
    obtain ⟨later, still, kept, -, limit⟩ := apply_stays applied standing
    refine ⟨(answers_quiet (quiet number rfl) reply _).trans answer, later, still, kept writer, fun bound same => ?_⟩
    subst same
    exact (limit fun _ => unlimited order answer).trans (limited bound rfl)

theorem Backs.other {role rest : Role} (backs : Backs seen rest) (apart : Apart role rest)
    (allowed : roles.allowed role op)
    (order : InOrder policy seen op) (applied : op.apply profile policy outside seen.registry = some (reply, registry)) :
    Backs (seen.next op reply registry) rest := by
  refine backs.kept (fun number own inner same => ?_) order applied
  subst same
  cases role with
  | free => exact allowed
  | owner other =>
    obtain ⟨rfl, -⟩ := allowed
    exact absurd own (apart number rfl)
  | loop other stage =>
    obtain ⟨rfl, -⟩ := allowed
    exact absurd own (apart number rfl)

theorem allocates {version : SessionVersion} {stream : Stream} {id : UInt16}
    (applied : (ServerOp.allocateSession version stream).apply profile policy outside seen.registry =
      some (.ok (number, id), registry)) :
    number = seen.registry.made.length ∧ number < registry.made.length := by
  have same : seen.registry.allocateSession profile policy version stream = (.ok (number, id), registry) :=
    Option.some_inj.mp applied
  unfold Registry.allocateSession at same
  split at same
  next => cases same
  next =>
    split at same
    next => cases same
    next =>
      cases same
      exact ⟨rfl, by simp⟩

theorem Stage.after_limited {stage : Stage} {op : SessionOp} {session : Session σ} {limit : UInt64}
    (limited : stage.after op (op.apply policy session).1 = .limited limit) :
    stage = .limited limit ∨ (stage = .classified ∧ op = .maxTx ∧ session.maxTx = limit) := by
  cases op with
  | disposition =>
    revert limited
    cases (SessionOp.disposition.apply policy session).1 <;> cases stage <;> first | exact .inl | nofun
  | unregister => cases stage <;> cases limited
  | maxTx =>
    cases stage with
    | classified =>
      cases limited
      exact .inr ⟨rfl, rfl, rfl⟩
    | _ => exact .inl limited
  | tx op => cases stage <;> cases op <;> first | exact .inl limited | cases limited
  | _ => cases stage <;> exact .inl limited

theorem Backs.next (sound : Sound seen) (backs : Backs seen role) (allowed : roles.allowed role op)
    (order : InOrder policy seen op)
    (applied : op.apply profile policy outside seen.registry = some (reply, registry)) :
    Backs (seen.next op reply registry) (roles.advance role op reply) := by
  cases role with
  | free =>
    cases op with
    | allocateSession version stream =>
      obtain err | ⟨number, id⟩ := reply
      · trivial
      · obtain ⟨rfl, bound⟩ := allocates applied
        refine ⟨bound, ?_⟩
        by_contra answering
        obtain ⟨-, session, standing, -⟩ := sound.answering _ answering
        exact absurd (List.getElem?_eq_some_iff.mp standing).1 (Nat.lt_irrefl _)
    | _ => trivial
  | owner number =>
    cases op with
    | allocateSession version stream => cases allowed
    | session other inner =>
      obtain ⟨rfl, quiet⟩ := allowed
      have kept : Backs (seen.next (.session other inner) reply registry) (.owner other) :=
        backs.kept (fun _ _ _ same => by cases same; exact quiet) order applied
      cases inner with
      | setSyncWriter writer =>
        obtain ⟨found, -, -, standing⟩ := session_applied applied
        exact ⟨kept.2, _, standing, Option.some_ne_none writer, fun _ => nofun⟩
      | _ => exact kept
    | _ => exact backs.kept (fun _ _ _ => nofun) order applied
  | loop number stage =>
    cases op with
    | allocateSession version stream => cases allowed
    | session other inner =>
      obtain ⟨rfl, -⟩ := allowed
      obtain ⟨answer, session, standing, writer, limited⟩ := backs
      obtain ⟨found, here, rfl, later⟩ := session_applied applied
      obtain rfl := Option.some_inj.mp (standing.symm.trans here)
      refine ⟨?_, _, later, (inner.apply_keeps policy session).writers.1 writer, fun limit same => ?_⟩
      · rw [Stage.answer_after, ← answer]
        exact Function.update_self ..
      · obtain rfl | ⟨rfl, rfl, now⟩ := Stage.after_limited same
        · refine ((inner.apply_keeps policy session).maxTx fun bound equal => ?_).trans (limited limit rfl)
          exact unlimited order answer (congrArg (ServerOp.session other) equal)
        · exact now
    | _ => exact backs.kept (fun _ _ _ => nofun) order applied

theorem Apart.symm {first second : Role} (apart : Apart first second) : Apart second first :=
  fun number own other => apart number other own

theorem advance_session (role : Role) (op : ServerOp) (reply : op.Reply) :
    (roles.advance role op reply).session = role.session ∨ ∃ version stream, op = .allocateSession version stream := by
  cases op with
  | allocateSession version stream => exact .inr ⟨version, stream, rfl⟩
  | session other inner => cases role <;> cases inner <;> exact .inl rfl
  | _ => cases role <;> exact .inl rfl

theorem Apart.next {role rest : Role} (apart : Apart role rest) (backs : Backs seen rest)
    (applied : op.apply profile policy outside seen.registry = some (reply, registry)) :
    Apart (roles.advance role op reply) rest := by
  obtain same | ⟨version, stream, rfl⟩ := advance_session role op reply
  · intro number own
    exact apart number (same ▸ own)
  · obtain err | ⟨number, id⟩ := reply
    · cases role <;> exact apart
    · cases role with
      | free =>
        obtain ⟨rfl, -⟩ := allocates applied
        intro other own held
        cases own
        exact absurd (backs.bound held) (Nat.lt_irrefl _)
      | _ => exact apart

end Step

abbrev Settled (connections : Connections σ) : Prop :=
  Guarded roles (fun _ _ => True) (fun _ role seen => Backs seen role) Apart Sound connections

theorem settled_step {connections after : Connections σ} {move : Move Connection Outside}
    (settled : Settled connections) (orderly : Orderly policy connections move)
    (moved : connections.step profile policy move = some after) : Settled after := by
  cases move with
  | start connection =>
    cases moved
    exact settled.start (connection_role profile connection) trivial fun _ _ _ _ => ⟨fun _ => nofun, fun _ _ => nofun⟩
  | advance thread outside =>
    obtain ⟨task, op, next, reply, later, running, applied, rfl⟩ := step_advance moved
    obtain ⟨⟨answer, registry⟩, performed, same⟩ := Option.map_eq_some_iff.mp applied
    cases same
    have order : InOrder policy connections.shared op := orderly _ running op rfl
    refine settled.advance running fun role backs allowed => ?_
    refine ⟨settled.shared.next backs allowed order performed, possible_next settled.shared backs allowed performed,
      Backs.next settled.shared backs allowed order performed, fun other _ rest apart _ held => ?_⟩
    have beside : Apart (roles.advance role op answer) rest := apart.next held performed
    exact ⟨held.other apart allowed order performed, beside, beside.symm⟩

theorem Settled.usable {connections : Connections σ} (settled : Settled connections) : Usable connections := by
  refine ⟨fun number session standing _ answering => ?_, fun thread member number releases => ?_⟩
  · obtain ⟨installed, known, sync, writer⟩ := settled.shared.answering number answering
    obtain ⟨other, async, asyncWriter⟩ := settled.shared.installed number installed
    obtain rfl := Option.some_inj.mp (standing.symm.trans sync)
    obtain rfl := Option.some_inj.mp (standing.symm.trans async)
    exact ⟨writer, asyncWriter⟩
  · obtain ⟨index, found⟩ := List.getElem?_of_mem member
    obtain ⟨task, _ | ⟨op, next⟩⟩ := thread
    · cases releases
    obtain ⟨role, follows, backs⟩ := settled.running found
    obtain rfl := Option.some_inj.mp releases
    obtain ⟨stage, rfl⟩ := loop_of_stirs follows.1 rfl
    intro classified
    exact follows.1.2 (backs.1.symm.trans classified) rfl

end Runs

/-- A ready session can answer when its queries are classified after both writers are in
place and the transmit limit is left alone until the response has been validated. -/
theorem ready_usable (profile : Profile) (policy : ResponsePolicy σ) (moves : List (Move Connection Outside))
    (orderly : Throughout (Connections.step profile policy) (Orderly policy) moves { shared := {} }) :
    Always (Connections.step profile policy) Usable moves { shared := {} } := by
  refine always_of_invariant (fun _ => Settled.usable) (fun _ _ _ settled orderly moved => settled_step settled orderly moved)
    (guarded_empty ?_ .free) orderly
  exact ⟨fun _ => nofun, fun _ answering => absurd rfl answering⟩

def obliging : Outside
  | .environment op => (scripted op [⟨[65], true, none⟩]).1
  | .closeStream _ => some none
  | _ => none

def querying : Connection :=
  .sync { type := .initializeRequest, parameter := 0x01000000 } (.ok []) 0 1 [.message { header := { type := .dataEnd } }]

def joining : Connection := .async { type := .asyncInitialize, parameter := 1 } 1 0 []

/-- Both channels are served until the synchronous loop waits for its first message
and the asynchronous one has been attached. -/
def attached : List (Move Connection Outside) :=
  [.start querying, .start joining] ++ List.replicate 6 (.advance 0 obliging) ++ List.replicate 2 (.advance 1 obliging)

def installedFirst : List (Move Connection Outside) :=
  attached ++ List.replicate 2 (.advance 1 obliging) ++ List.replicate 17 (.advance 0 obliging)

theorem ready_usable_installed :
    Throughout (Connections.step .standard alwaysReadPolicy) (Orderly alwaysReadPolicy) installedFirst
      { shared := {} } ∧
      ∃ connections, finish (Connections.step .standard alwaysReadPolicy) installedFirst { shared := {} } =
        some connections ∧
        connections.shared.answer 0 = .validated ∧ Usable connections := by
  have orderly : Throughout (Connections.step .standard alwaysReadPolicy) (Orderly alwaysReadPolicy) installedFirst
      { shared := {} } := by decide +kernel
  refine ⟨orderly, _, rfl, rfl, ?_⟩
  exact (ready_usable .standard alwaysReadPolicy installedFirst orderly).finish rfl

/-- The query is answered while the response to AsyncInitialize is being written: the
session is ready, but has no asynchronous writer, and its answer is refused. -/
theorem ready_without_writer :
    ∃ connections, finish (Connections.step .standard alwaysReadPolicy)
        (attached ++ List.replicate 18 (.advance 0 obliging)) { shared := {} } = some connections ∧
      connections.shared.registry.made.map (·.state) = [.ready] ∧
      connections.shared.registry.made.map (·.asyncW) = [none] ∧
      connections.shared.answer 0 = .classified ∧ ¬ Usable connections := by
  refine ⟨_, rfl, rfl, rfl, rfl, fun usable => ?_⟩
  exact absurd rfl (usable.valid _ (List.mem_cons_self ..) 0 rfl)

end Hislip.Proofs.Readiness
