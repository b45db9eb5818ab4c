import Hislip.Proofs.Footprint
import Hislip.Proofs.Overtaken
import Hislip.Proofs.SyncRuns
import Hislip.Simulation

/-! A session after a completed Device Clear beside a freshly paired one. They differ
in the identifier of the transaction, which nothing reads, and in what the response
policy has scanned. -/

namespace Hislip.Proofs.DeviceClear
open Hislip.Server Hislip.Proofs.Footprint Hislip.Proofs.SyncChannel Hislip.Proofs.SyncRuns Act Program

variable {σ δ : Type} {policy : ResponsePolicy σ} {environment : Environment δ}

def Framed (message : Message) : Prop := message.err = none → message.payload.length = message.header.length.toNat

def queries (policy : ResponsePolicy σ) : Option σ → List ProgramMessage → List Bool
  | _, [] => []
  | scanned, message :: later =>
    isQuery policy scanned message.toMessage :: queries policy (scan policy scanned message.toMessage) later

/-- The policy finds the same queries in any later messages from both states. -/
def Alike (policy : ResponsePolicy σ) (limit : UInt64) (left right : Option σ) : Prop :=
  ∀ messages : List ProgramMessage, (∀ message ∈ messages, WellFormed message.toMessage limit ∧ Framed message.toMessage) →
    queries policy left messages = queries policy right messages

namespace Alike
variable {limit : UInt64} {left right : Option σ}

theorem refl (scanned : Option σ) : Alike policy limit scanned scanned := fun _ _ => rfl

theorem step (alike : Alike policy limit left right) (message : ProgramMessage)
    (fine : WellFormed message.toMessage limit) (framed : Framed message.toMessage) :
    isQuery policy left message.toMessage = isQuery policy right message.toMessage ∧
      Alike policy limit (scan policy left message.toMessage) (scan policy right message.toMessage) := by
  have whole : ∀ later : List ProgramMessage,
      (∀ other ∈ later, WellFormed other.toMessage limit ∧ Framed other.toMessage) →
      queries policy left (message :: later) = queries policy right (message :: later) := by
    intro later good
    exact alike _ (List.forall_mem_cons.mpr ⟨⟨fine, framed⟩, good⟩)
  refine ⟨(List.cons_eq_cons.mp (whole [] fun _ member => nomatch member)).1, fun later good => ?_⟩
  exact (List.cons_eq_cons.mp (whole later good)).2

theorem heard (alike : Alike policy limit left right) {message : Message} (fine : WellFormed message limit)
    (framed : Framed message) :
    Alike policy limit (SyncChannel.heard policy message.payload left)
      (SyncChannel.heard policy message.payload right) :=
  (alike.step ⟨{ message with header := { message.header with type := .data } }, .inl rfl⟩ fine framed).2

private def emptyEnd : ProgramMessage := ⟨{ header := { type := .dataEnd } }, dataEnd_kind⟩

private theorem emptyEnd_step (alike : Alike policy limit left right) :
    isQuery policy left emptyEnd.toMessage = isQuery policy right emptyEnd.toMessage ∧
      Alike policy limit (scan policy left emptyEnd.toMessage) (scan policy right emptyEnd.toMessage) := by
  refine alike.step emptyEnd ⟨rfl, ?_⟩ fun _ => rfl
  simp [emptyEnd, checkLength]

theorem asked (alike : Alike policy limit left right) :
    classify policy left = .responseExpected ↔ classify policy right = .responseExpected := by
  have same := alike.emptyEnd_step.1
  simpa [isQuery, emptyEnd, SyncChannel.heard] using same

theorem settled (alike : Alike policy limit left right) :
    Alike policy limit (left.map policy.reset) (right.map policy.reset) :=
  alike.emptyEnd_step.2

end Alike

structure Core where
  id : UInt16
  version : Version
  sync : Option Stream
  async : Option Stream
  syncW : Option MessageWriter
  asyncW : Option MessageWriter
  pending : Bool
  maxRx : UInt64

def core (session : Session σ) : Core where
  id := session.id
  version := session.version
  sync := session.sync
  async := session.async
  syncW := session.syncW
  asyncW := session.asyncW
  pending := session.pending
  maxRx := session.maxRx

/-- Two worlds that differ at most in the identifier of the transaction and in alike
states of the policy. -/
structure Twins (policy : ResponsePolicy σ) (fixed : Core) (left right : World σ δ) : Prop where
  core : core left.session = fixed
  attached : left.session.state = .ready ∨ left.session.state = .clearing
  same : ∃ tx scanned, right = left.setSession { left.session with tx, policy := scanned } ∧
    tx.state = left.session.tx.state ∧ Alike policy fixed.maxRx left.session.policy scanned

variable {fixed : Core} {left right : World σ δ} {message : Message} (config : Config) {world : World σ δ}
  (header : Header)

theorem Twins.refl (attached : world.session.state = .ready ∨ world.session.state = .clearing) :
    Twins policy (DeviceClear.core world.session) world world :=
  ⟨rfl, attached, _, _, rfl, rfl, .refl _⟩

theorem beginClear_eq (session : Session σ) (attached : session.state = .ready ∨ session.state = .clearing) :
    session.beginClear = { session with state := .clearing } := by
  obtain ⟨_, _, _, state⟩ := session
  obtain rfl | rfl : state = .ready ∨ state = .clearing := attached <;> rfl

theorem completeClear_eq (session : Session σ) (attached : session.state = .ready ∨ session.state = .clearing)
    (overlap : Bool) :
    session.completeClear overlap =
      { session with
        overlap, rmt := {}, status := .newStatus, lastTx := MessageID.noMessageID, state := .ready } := by
  obtain ⟨_, _, _, state⟩ := session
  obtain rfl | rfl : state = .ready ∨ state = .clearing := attached <;> rfl

private theorem twins_session {op : SessionOp} (calm : rare (.shared (.session op)) = false)
    (twins : Twins policy fixed left right) :
    (op.apply policy left.session).1 = (op.apply policy right.session).1 ∧
      Twins policy fixed (left.setSession (op.apply policy left.session).2)
        (right.setSession (op.apply policy right.session).2) := by
  obtain ⟨core, attached, tx, scanned, rfl, state, alike⟩ := twins
  cases op with
  | feed | disposition | setSyncWriter | setAsyncWriter | setSyncPending | attachAsync | close => cases calm
  | tx op =>
    obtain ⟨replies, moves⟩ := op.apply_state state
    exact ⟨replies.symm, core, attached, _, _, rfl, moves, alike⟩
  | beginClear =>
    simp only [SessionOp.apply, World.session_setSession]
    rw [beginClear_eq left.session attached, beginClear_eq { left.session with tx, policy := scanned } attached]
    exact ⟨trivial, core, .inr rfl, tx, scanned, rfl, state, alike⟩
  | completeClear overlap =>
    simp only [SessionOp.apply, World.session_setSession]
    rw [completeClear_eq left.session attached, completeClear_eq { left.session with tx, policy := scanned } attached]
    exact ⟨trivial, core, .inl rfl, tx, scanned, rfl, state, alike⟩
  | _ => exact ⟨rfl, core, attached, tx, scanned, rfl, state, alike⟩

theorem twins_handler (op : Op) (left right : World σ δ) (calm : rare op = false)
    (twins : Twins policy fixed left right) :
    (handler policy environment op left).1 = (handler policy environment op right).1 ∧
      Twins policy fixed (handler policy environment op left).2 (handler policy environment op right).2 := by
  cases op with
  | shared op =>
    cases op with
    | session op =>
      obtain ⟨same, kept⟩ := twins_session calm twins
      exact ⟨congrArg some same, kept⟩
    | locks | withCancel | cancel | count =>
      obtain ⟨core, attached, tx, scanned, rfl, state, alike⟩ := twins
      exact ⟨rfl, core, attached, tx, scanned, rfl, state, alike⟩
  | environment op =>
    obtain ⟨core, attached, tx, scanned, rfl, state, alike⟩ := twins
    exact ⟨rfl, core, attached, tx, scanned, rfl, state, alike⟩

abbrev Matches {α : Type} (policy : ResponsePolicy σ) (environment : Environment δ) (fixed : Core) (program : Act α)
    (post : α → Prop) : Prop :=
  Agrees (handler policy environment) (Twins policy fixed) program post

theorem matches_rare {α : Type} {program : Act α} (avoids : Avoids rare program) :
    Matches policy environment fixed program fun _ => True :=
  avoids.agrees fun op left right calm twins => twins_handler op left right calm twins

theorem matches_feed (fine : WellFormed message fixed.maxRx) (framed : Framed message)
    (nonempty : message.payload.length ≠ 0) :
    Matches policy environment fixed (session (.feed message.payload)) fun _ => True := by
  rintro left right ⟨core, attached, tx, scanned, rfl, state, alike⟩
  have fed := alike.heard fine framed
  simp only [heard, if_pos nonempty] at fed
  exact ⟨rfl, ⟨core, attached, tx, _, rfl, state, fed⟩, fun _ _ => trivial⟩

private theorem Twins.asked (twins : Twins policy fixed left right) :
    classify policy left.session.policy = .responseExpected ↔
      classify policy right.session.policy = .responseExpected := by
  obtain ⟨-, -, tx, scanned, rfl, -, alike⟩ := twins
  exact alike.asked

private theorem Twins.settled (twins : Twins policy fixed left right) :
    Twins policy fixed (left.setSession { left.session with policy := left.session.policy.map policy.reset })
      (right.setSession { right.session with policy := right.session.policy.map policy.reset }) := by
  obtain ⟨core, attached, tx, scanned, rfl, state, alike⟩ := twins
  exact ⟨core, attached, tx, _, rfl, state, alike.settled⟩

/-- Two replies to `disposition` may differ, but not in whether a response is expected. -/
theorem matches_disposition {α : Type} {unasked asked : Act α} {post : α → Prop}
    (first : Matches policy environment fixed unasked post) (second : Matches policy environment fixed asked post) :
    Matches policy environment fixed
      (session .disposition >>= fun disposition => if disposition ≠ .responseExpected then unasked else asked) post := by
  intro left right twins
  simp only [exec_bind, exec_disposition, disposition_apply, andThen_some]
  by_cases expected : classify policy left.session.policy = .responseExpected
  · have other : ¬ classify policy right.session.policy ≠ .responseExpected := fun differs =>
    differs (twins.asked.mp expected)
    have here : ¬ classify policy left.session.policy ≠ .responseExpected := fun differs => differs expected
    rw [if_neg here, if_neg other]
    exact second _ _ twins.settled
  · have other : classify policy right.session.policy ≠ .responseExpected := fun same => expected (twins.asked.mpr same)
    rw [if_pos expected, if_pos other]
    exact first _ _ twins.settled

theorem answerProgramMessage_matches (writer : Option MessageWriter) (fuel : Nat) :
    Matches policy environment fixed (answerProgramMessage config header writer fuel) fun _ => True := by
  refine matches_disposition (matches_rare (session_avoids rfl)) (matches_rare ?_)
  refine (operation_within.rare (by decide)).bind fun number => (session_avoids rfl).bind fun async => ?_
  refine (session_avoids rfl).bind fun limit => (syncPending_within.rare (by decide)).bind fun queued => ?_
  refine ((sendResponse_within _ _ fuel).rare (by decide)).bind fun
    | (outcome, err) => ((countOutcome_within outcome).rare (by decide)).bind fun _ => ?_
  cases err with
  | some err =>
    exact ((reportOperationError_within writer err).rare (by decide)).bind fun _ =>
      ((releaseOperation_within number).rare (by decide)).bind fun _ => trivial
  | none => exact ((releaseOperation_within number).rare (by decide)).bind fun _ => trivial

theorem handleData_matches (fine : WellFormed message fixed.maxRx) (framed : Framed message)
    (writer : Option MessageWriter) (fuel : Nat) :
    Matches policy environment fixed (handleData config message writer fuel) fun _ => True := by
  refine (matches_rare ((receiveData_within _ _).rare (by decide))).bind fun
    | (interrupted, err), _ => (matches_rare ((countInterrupted_within interrupted).rare (by decide))).bind fun _ _ => ?_
  cases err with
  | some err => exact matches_rare ((reportOperationError_within writer err).rare (by decide))
  | none =>
    have ending : Matches policy environment fixed
        (if message.header.type ≠ .dataEnd then return none
          else answerProgramMessage config message.header writer fuel) fun _ => True := by
      split
      · exact Agrees.pure trivial
      · exact answerProgramMessage_matches config message.header writer fuel
    simp only
    split
    next nonempty => exact (matches_feed fine framed nonempty).bind fun _ _ => ending
    next => exact ending

private theorem accept_checked {header : Header} {channel : Channel} {found : Server.Class}
    (returned : (exec (handler policy environment) (accept header channel) world).1 = some (.ok found)) :
    checkLength header.length world.session.maxRx = none := by
  unfold accept at returned
  split at returned
  · cases returned
  split at returned
  · cases returned
  split at returned
  · cases returned
  simp only [exec_bind, exec_version, andThen_some] at returned
  split at returned
  · cases returned
  split at returned
  · cases returned
  simp only [exec_bind, exec_maxRx, andThen_some] at returned
  split at returned
  · cases returned
  next passed => exact passed

private theorem accept_matches (channel : Channel) :
    Matches policy environment fixed (accept header channel) fun result =>
      ∀ found, result = .ok found → checkLength header.length fixed.maxRx = none := by
  intro left right twins
  have accepts : Matches policy environment fixed (accept header channel) _ :=
    matches_rare ((accept_within header channel).rare (by decide))
  obtain ⟨same, kept, -⟩ := accepts left right twins
  refine ⟨same, kept, ?_⟩
  rintro _ returned found rfl
  rw [← twins.core]
  exact accept_checked returned

theorem handleSync_matches (framed : Framed message) (fuel : Nat) :
    Matches policy environment fixed (handleSync config message fuel) fun _ => True := by
  refine (matches_rare (session_avoids rfl)).bind fun writer _ => ?_
  cases read : message.err with
  | some err => exact matches_rare ((reportReadError_within writer err).rare (by decide))
  | none =>
    refine (matches_rare ((discardDuringClear_within _).rare (by decide))).bind fun _ _ =>
      Agrees.ite (fun _ => Agrees.pure trivial) fun _ => ?_
    refine (accept_matches _ _).bind fun result checked => ?_
    cases result with
    | error err => exact matches_rare ((reportAcceptError_within writer err).rare (by decide))
    | ok found =>
      have fine : WellFormed message fixed.maxRx := ⟨read, checked found rfl⟩
      refine Agrees.ite (fun _ => handleData_matches config fine framed writer fuel) fun _ => ?_
      refine Agrees.ite (fun _ => matches_rare ((handleTrigger_within message writer).rare (by decide))) fun _ => ?_
      refine Agrees.ite (fun _ => matches_rare ((handleDeviceClearComplete_within config message writer).rare
        (by decide))) fun _ => ?_
      exact matches_rare ((otherSync_within message.header found writer).rare (by decide))

/-- A message as one of the readers hands it to its loop; `fuel` bounds the loops of
its handler. -/
inductive ClientMessage where
  | sync (message : Message) (framed : Framed message) (fuel : Nat)
  | async (message : Message) (framed : Framed message) (fuel : Nat)

def ClientMessage.handle (config : Config) : ClientMessage → Act (Option Err)
  | .sync message _ fuel => handleSync config message fuel
  | .async message _ fuel => handleAsync config message fuel

/-- Handle the messages of both channels in turn, up to the first that ends a loop. -/
def handleAll (config : Config) : List ClientMessage → Act (Option Err)
  | [] => return none
  | message :: later => do
    match ← message.handle config with
    | some err => return some err
    | none => handleAll config later

theorem handleAll_matches (policy : ResponsePolicy σ) (environment : Environment δ) (config : Config)
    (messages : List ClientMessage) : Matches policy environment fixed (handleAll config messages) fun _ => True := by
  induction messages with
  | nil => exact Agrees.pure trivial
  | cons message later ih =>
    have handled : Matches policy environment fixed (message.handle config) fun _ => True := by
      cases message with
      | sync message framed fuel => exact handleSync_matches config framed fuel
      | async message framed fuel => exact matches_rare ((handleAsync_within config message fuel).rare (by decide))
    exact handled.bind fun
      | some err, _ => Agrees.pure trivial
      | none, _ => ih

section Clear
variable {world begun cleared : World σ δ}

private theorem requireReady_attached (attached : world.session.state = .ready ∨ world.session.state = .clearing) :
    exec (handler policy environment) requireReady world = (some none, world) := by
  rw [requireReady, exec_bind, exec_state, andThen_some]
  obtain ready | clearing := attached
  · rw [ready]
    rfl
  · rw [clearing]
    rfl

theorem begun_session (attached : world.session.state = .ready ∨ world.session.state = .clearing) {config : Config}
    {ack : Header}
    (begins : exec (handler policy environment) (beginDeviceClear config) world = (some (.ok ack), begun)) :
    ∃ status tx, begun.session = { world.session with opCancel := none, status, tx, state := .clearing } := by
  obtain ⟨aborted, aborts, same, -⟩ := Overtaken.exec_abortOperation policy environment world
  simp only [beginDeviceClear, exec_bind, requireReady_attached attached, andThen_some, aborts,
    exec_setResponsePending, exec_tx] at begins
  split at begins
  · cases begins
  · simp only [exec_bind, exec_beginClear, andThen_some, pure_eq, exec_pure] at begins
    cases begins
    have moved : ∀ status tx, { aborted.session with status, tx }.beginClear =
        { world.session with opCancel := none, status, tx, state := .clearing } := by
      intro status tx
      rw [same]
      exact beginClear_eq { world.session with opCancel := none, status, tx } attached
    exact ⟨_, _, moved _ _⟩

/-- A completed Device Clear resets everything but what pairing fixed, the transmit
limit and the policy. -/
theorem cleared_session (profile : Profile)
    (attached : world.session.state = .ready ∨ world.session.state = .clearing) {ack header : Header}
    {reply : Header × Option Err} (kind : header.type = .deviceClearComplete)
    (begins : exec (handler policy environment) (beginDeviceClear profile.toConfig) world = (some (.ok ack), begun))
    (completes : exec (handler policy environment) (completeDeviceClear profile.toConfig header) begun =
      (some reply, cleared)) :
    cleared.session =
      { world.session with
        overlap := false, state := .ready, rmt := {}, status := .newStatus, lastTx := MessageID.noMessageID,
        opCancel := none, tx := ⟨.idle, MessageID.noMessageID⟩ } := by
  obtain ⟨status, tx, same⟩ := begun_session attached begins
  have guard : ¬ header.type ≠ .deviceClearComplete := fun other => other kind
  have clearing : begun.session.state = .ready ∨ begun.session.state = .clearing := .inr (by rw [same])
  have synchronized : (profile.featureBitmap header.control &&& featureOverlapped != 0) = false := by simp
  simp only [completeDeviceClear, if_neg guard, exec_bind, exec_completeClear, exec_tx, exec_clear, andThen_some] at completes
  obtain ⟨err, after, cleans, returns⟩ := andThen_eq_some.mp completes
  cases returns
  obtain ⟨-, rfl⟩ := Prod.mk.inj cleans
  rw [World.session_call, World.session_setTx, World.session_setSession, synchronized, completeClear_eq _ clearing, same]
  rfl

end Clear

section Observation

/-- What client and device can see: the messages written and the device calls. -/
def visible : EnvironmentOp → Bool
  | .pending | .select _ | .remaining | .exhausted => false
  | _ => true

def observed (trace : List Event) : List EnvironmentOp := (trace.map Event.operation).filter visible

theorem observed_append (first second : List Event) :
    observed (first ++ second) = observed first ++ observed second := by
  rw [observed, List.map_append, List.filter_append]
  rfl

/-- For each Write or Trigger call, whether anything but another one follows it. -/
def responded : List EnvironmentOp → List Bool
  | [] => []
  | op :: rest =>
    if isDeviceCall op then (rest.head?.any fun next => !isDeviceCall next) :: responded rest else responded rest

private theorem responded_skip {quiet : List EnvironmentOp} (none : ∀ op ∈ quiet, isDeviceCall op = false)
    (rest : List EnvironmentOp) : responded (quiet ++ rest) = responded rest := by
  induction quiet with
  | nil => rfl
  | cons op later ih =>
    rw [List.cons_append, responded, if_neg (by simp [none op List.mem_cons_self])]
    exact ih fun other member => none other (List.mem_cons_of_mem _ member)

private theorem observed_call {call : Event} {message : Message} (calls : call.operation = deviceCall message)
    (rest : List Event) : observed (call :: rest) = deviceCall message :: observed rest := by
  have shown : visible (deviceCall message) = true := by
    unfold deviceCall
    split <;> rfl
  rw [observed, List.map_cons, calls, List.filter_cons_of_pos shown]
  rfl

variable {events : List Event} {scanned : Option σ} {messages : List ProgramMessage}

private theorem answered_observed {id : MessageID} (answered : Answering.Answered id events) :
    observed events ≠ [] := by
  obtain ⟨work, last, rfl, -, ending⟩ := answered
  rw [observed_append]
  apply List.append_ne_nil_of_right_ne_nil
  cases ending with
  | dataEnd payload sent =>
    rw [observed, List.map_singleton, sent]
    exact List.cons_ne_nil _ _
  | interrupted announced sent =>
    rw [observed, List.map_cons, announced]
    exact List.cons_ne_nil _ _

private theorem responds_observed {message : Message} (responds : Responds policy scanned message events) :
    (∀ op ∈ observed events, isDeviceCall op = false) ∧ (observed events ≠ [] ↔ isQuery policy scanned message) := by
  constructor
  · intro op member
    obtain ⟨event, inside, rfl⟩ := List.mem_map.mp (List.mem_filter.mp member).1
    exact (responds.plain event inside).1
  · unfold Responds at responds
    split at responds
    next query => exact ⟨fun _ => query, fun _ => answered_observed responds⟩
    next plain =>
      subst responds
      exact ⟨fun some => absurd rfl some, fun query => absurd query plain⟩

private theorem served_head (served : ServedInTurn policy scanned messages events) :
    (observed events).head?.any (fun next => !isDeviceCall next) = false := by
  cases messages with
  | nil =>
    cases served
    rfl
  | cons message later =>
    obtain ⟨call, response, rest, rfl, calls, -, -⟩ := served
    rw [observed_call calls, List.head?_cons, Option.any_some, (deviceCall_kind _).1]
    rfl

theorem responded_observed (served : ServedInTurn policy scanned messages events) :
    responded (observed events) = queries policy scanned messages := by
  induction messages generalizing scanned events with
  | nil =>
    cases served
    rfl
  | cons message later ih =>
    obtain ⟨call, response, rest, rfl, calls, responds, served⟩ := served
    obtain ⟨quiet, shown⟩ := responds_observed responds
    rw [observed_call calls, observed_append, responded, if_pos (deviceCall_kind _).1, responded_skip quiet, ih served, queries]
    congr 1
    cases found : observed response with
    | nil =>
      rw [List.nil_append, served_head served]
      simpa [found] using shown
    | cons next others =>
      have query := shown.mp (by rw [found]; exact List.cons_ne_nil _ _)
      have other := quiet next (by rw [found]; exact List.mem_cons_self)
      rw [query, List.cons_append, List.head?_cons, Option.any_some, other]
      rfl

end Observation

section Fresh
variable {profile : Profile} {id : UInt16} {version : Version} {current : version.less .version10 = false}
  {sync async : Stream}

def fresh (profile : Profile) (policy : ResponsePolicy σ) (id : UInt16) (version : Version)
    (current : version.less .version10 = false) (sync async : Stream) (session : Session σ) : Session σ :=
  { Session.paired profile policy id version current sync async with
    maxTx := session.maxTx, transmits := session.transmits }

private theorem fresh_eq {session : Session σ}
    (kept : core session = core (Session.paired profile policy id version current sync async)) :
    fresh profile policy id version current sync async session =
      { session with
        overlap := false, state := .ready, rmt := {}, status := .newStatus, lastTx := MessageID.noMessageID,
        opCancel := none, tx := {}, policy := some policy.fresh } := by
  obtain ⟨oldID, oldVersion, _, _, oldSync, oldAsync, _, _, _, oldMaxRx, _, _, _, oldSyncW, oldAsyncW, oldPending, _⟩ :=
    session
  have kept : Core.mk oldID oldVersion oldSync oldAsync oldSyncW oldAsyncW oldPending oldMaxRx =
    ⟨id, version, sync, async, some ⟨.synchronous⟩, some ⟨.asynchronous⟩, true, profile.maxRxPayload⟩ := kept
  cases kept
  rfl

def resume (shared : Shared σ) (state : δ) : World σ δ where
  shared
  environment := state

private theorem handleAll_runMessages (config : Config) (fuel : Nat) {messages : List ProgramMessage}
    (framed : ∀ message ∈ messages, Framed message.toMessage) :
    ∃ clients, handleAll config clients = runMessages config fuel messages := by
  induction messages with
  | nil => exact ⟨[], rfl⟩
  | cons message later ih =>
    obtain ⟨clients, same⟩ := ih fun other member => framed other (List.mem_cons_of_mem _ member)
    refine ⟨.sync message.toMessage (framed message List.mem_cons_self) fuel :: clients, ?_⟩
    rw [handleAll, runMessages, same]
    rfl

variable {world begun cleared : World σ δ} {ack : Header} {reply : Header × Option Err}

/-- Nothing that client and device can see tells the two shared states apart. -/
def Indistinct (profile : Profile) (policy : ResponsePolicy σ) (left right : Shared σ) : Prop :=
  ∀ (δ : Type) (environment : Environment δ) (state : δ) (messages : List ClientMessage),
    observed (exec (handler policy environment) (handleAll profile.toConfig messages) (resume left state)).2.trace =
      observed (exec (handler policy environment) (handleAll profile.toConfig messages) (resume right state)).2.trace

/-- A paired session between two messages, with nothing under way. -/
structure Settled (profile : Profile) (session : Session σ) : Prop where
  wired : Wired (Answering.setup session)
  paired : session.asyncW ≠ none
  idle : session.tx.state = .idle
  limit : session.maxRx = profile.maxRxPayload

/-- A device that takes everything and answers at once shows what the policy finds. -/
theorem alike_of_indistinct {left right : Shared σ} (here : Settled profile left.session)
    (there : Settled profile right.session) (indistinct : Indistinct profile policy left right) :
    Alike policy profile.maxRxPayload left.session.policy right.session.policy := by
  intro messages good
  have obliging : Obliging replaying := ⟨fun _ _ _ => rfl, fun _ => rfl⟩
  have serves : ∀ shared : Shared σ, Settled profile shared.session → ∃ after events enough, (∀ fuel, enough ≤ fuel →
        exec (handler policy replaying) (runMessages profile.toConfig fuel messages) (resume shared []) =
          (some none, after)) ∧
      after.trace = events ∧ ServedInTurn policy shared.session.policy messages events := by
    intro shared settled
    obtain ⟨after, events, enough, runs, -, traced, served⟩ := runMessages_serves policy replaying_accepting obliging
      replaying_readsEnd profile messages (resume shared []) settled.wired settled.paired (.inl settled.idle)
      fun message member => by
        have limit : (resume shared ([] : List ReadResult)).session.maxRx = profile.maxRxPayload := settled.limit
        rw [limit]
        exact (good message member).1
    exact ⟨after, events, enough, runs, traced, served⟩
  obtain ⟨after, events, enough, runs, rfl, served⟩ := serves left here
  obtain ⟨after', events', enough', runs', rfl, served'⟩ := serves right there
  obtain ⟨clients, same⟩ := handleAll_runMessages profile.toConfig (max enough enough') fun message member =>
    (good message member).2
  have observations := indistinct _ replaying [] clients
  rw [same, runs _ (Nat.le_max_left _ _), runs' _ (Nat.le_max_right _ _)] at observations
  exact (responded_observed served).symm.trans ((congrArg responded observations).trans (responded_observed served'))

/-- After a completed Device Clear a session looks freshly paired, in every
environment and for every sequence of messages, exactly when its policy cannot be
told from a fresh one. -/
theorem cleared_as_fresh_iff (environment : Environment δ) (start : World σ δ)
    (paired : start.session = Session.paired profile policy id version current sync async)
    (history : List ClientMessage) (header : Header) (kind : header.type = .deviceClearComplete)
    (reached : exec (handler policy environment) (handleAll profile.toConfig history) start = (some none, world))
    (begins : exec (handler policy environment) (beginDeviceClear profile.toConfig) world = (some (.ok ack), begun))
    (completes : exec (handler policy environment) (completeDeviceClear profile.toConfig header) begun =
      (some reply, cleared)) :
    Indistinct profile policy cleared.shared
        { cleared.shared with session := fresh profile policy id version current sync async cleared.session } ↔
      Alike policy profile.maxRxPayload cleared.session.policy (some policy.fresh) := by
  have attached : start.session.state = .ready ∨ start.session.state = .clearing := .inl (by rw [paired]; rfl)
  obtain ⟨-, twins, -⟩ := handleAll_matches policy environment profile.toConfig history start start (Twins.refl attached)
  rw [reached] at twins
  have same := cleared_session profile twins.attached kind begins completes
  have kept : core cleared.session = core (Session.paired profile policy id version current sync async) := by
    rw [same, ← paired]
    exact twins.core
  have ready : cleared.session.state = .ready := by rw [same]
  have idle : cleared.session.tx.state = .idle := by rw [same]
  constructor
  · refine alike_of_indistinct ⟨⟨ready, congrArg Core.syncW kept, .inr (congrArg Core.asyncW kept)⟩, ?_, idle,
      congrArg Core.maxRx kept⟩ ⟨⟨rfl, rfl, .inr rfl⟩, Option.some_ne_none _, rfl, rfl⟩
    exact (congrArg Core.asyncW kept).trans_ne (Option.some_ne_none _)
  · intro alike τ later state messages
    have isFresh : fresh profile policy id version current sync async cleared.session =
        { cleared.session with tx := {}, policy := some policy.fresh } := by
      rw [fresh_eq kept, same]
    have twins : Twins policy (core cleared.session) (resume cleared.shared state)
        (resume { cleared.shared with session := fresh profile policy id version current sync async cleared.session } state) := by
      refine ⟨rfl, .inl ready, {}, some policy.fresh, ?_, idle.symm, ?_⟩
      · rw [isFresh]
        rfl
      · rw [kept]
        exact alike
    obtain ⟨-, ⟨-, -, tx, scanned, isRight, -⟩, -⟩ := handleAll_matches policy later profile.toConfig messages _ _ twins
    rw [isRight]
    rfl

def identifying : List ClientMessage :=
  [.sync { header := { type := .dataEnd, length := 5 }, payload := [42, 73, 68, 78, 63] } (fun _ => rfl) 1]

/-- A query was sent as a whole message and answered, and then the client clears the device. -/
def identified : World SCPIQueryPolicy (List ReadResult) :=
  (exec (handler scpiQueryPolicy scripted) (handleAll Profile.standard.toConfig identifying)
    (freshlyPaired scpiQueryPolicy [⟨[72, 80], true, none⟩])).2

def clearing : World SCPIQueryPolicy (List ReadResult) :=
  (exec (handler scpiQueryPolicy scripted) (beginDeviceClear Profile.standard.toConfig) identified).2

def afterClear : World SCPIQueryPolicy (List ReadResult) :=
  (exec (handler scpiQueryPolicy scripted) (completeDeviceClear Profile.standard.toConfig { type := .deviceClearComplete })
    clearing).2

/-- Such a query leaves nothing with the policy. -/
theorem cleared_as_fresh_identified :
    exec (handler scpiQueryPolicy scripted) (handleAll Profile.standard.toConfig identifying)
        (freshlyPaired scpiQueryPolicy [⟨[72, 80], true, none⟩]) = (some none, identified) ∧
      identified.environment = [] ∧
      Indistinct .standard scpiQueryPolicy afterClear.shared
        { afterClear.shared with session := fresh .standard scpiQueryPolicy 1 .version10 rfl 0 1 afterClear.session } := by
  have reached : exec (handler scpiQueryPolicy scripted) (handleAll Profile.standard.toConfig identifying)
      (freshlyPaired scpiQueryPolicy [⟨[72, 80], true, none⟩]) = (some none, identified) :=
    Prod.ext (by decide +kernel) rfl
  have begins : exec (handler scpiQueryPolicy scripted) (beginDeviceClear Profile.standard.toConfig) identified =
      (some (.ok { type := .asyncDeviceClearAcknowledge }), clearing) := Prod.ext (by decide +kernel) rfl
  have completes : exec (handler scpiQueryPolicy scripted)
      (completeDeviceClear Profile.standard.toConfig { type := .deviceClearComplete }) clearing =
        (some ({ type := .deviceClearAcknowledge }, none), afterClear) := Prod.ext (by decide +kernel) rfl
  have renewed : afterClear.session.policy = some scpiQueryPolicy.fresh := by decide +kernel
  refine ⟨reached, by decide +kernel, (cleared_as_fresh_iff scripted _ rfl identifying _ rfl reached begins completes).mpr ?_⟩
  rw [renewed]
  exact .refl _

/-- A Data message leaves a question mark with the policy. The Device Clear does not
take it back: the next message is answered, where a fresh session answers nothing. -/
theorem question_survives_clear :
    ∃ world begun cleared ack reply,
      exec (handler scpiQueryPolicy replaying) (handleAll Profile.standard.toConfig
          [.sync { header := { type := .data, length := 1 }, payload := [63] } (fun _ => rfl) 1])
          (freshlyPaired scpiQueryPolicy []) = (some none, world) ∧
        exec (handler scpiQueryPolicy replaying) (beginDeviceClear Profile.standard.toConfig) world =
          (some (.ok ack), begun) ∧
        exec (handler scpiQueryPolicy replaying) (completeDeviceClear Profile.standard.toConfig { type := .deviceClearComplete })
          begun = (some reply, cleared) ∧
        ¬ Indistinct .standard scpiQueryPolicy cleared.shared
          { cleared.shared with session := fresh .standard scpiQueryPolicy 1 .version10 rfl 0 1 cleared.session } := by
  refine ⟨_, _, _, _, _, rfl, rfl, rfl, fun indistinct => ?_⟩
  have same := indistinct _ replaying []
    [.sync { header := { type := .dataEnd, length := 4 }, payload := [42, 82, 83, 84] } (fun _ => rfl) 1]
  revert same
  decide +kernel

end Fresh

end Hislip.Proofs.DeviceClear
