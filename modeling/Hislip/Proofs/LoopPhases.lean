import Hislip.Proofs.Footprint
import Hislip.Proofs.SyncChannel

/-! Which of the operations that client and server agree on RMT-delivered by the two
loops perform, and in which order: a message is judged once and before anything else,
and nothing stands between the write of a DataEnd and the expectation it raises. -/

namespace Hislip.Proofs.LoopPhases
open Hislip.Server Footprint SyncChannel Act Program

inductive SyncPhase where
  | resting | judged | answering | wrote | resetting | reset
  | taken (delivered : Bool)
  | committed (delivered : Bool)
  deriving DecidableEq, Repr

inductive AsyncPhase where
  | resting | polled | preparing | begun
  | querying (delivered : Bool)
  deriving DecidableEq, Repr

def possible (maxRx : UInt64) : (op : Op) → op.Reply → Prop
  | .shared (.session .state), reply => reply = .ready ∨ reply = .clearing
  | .shared (.session .version), reply => reply.less .version10 = false
  | .shared (.session .maxRx), reply => reply = maxRx
  | .shared (.session .syncWriter), reply => reply = some ⟨.synchronous⟩
  | .shared (.session .asyncWriter), reply => reply = some ⟨.asynchronous⟩
  | _, _ => True

namespace SyncPhase

def steady : SyncPhase → Bool
  | .taken _ | .wrote => false
  | _ => true

def mayRest : SyncPhase → Bool
  | .taken _ | .committed _ | .wrote => false
  | _ => true

def allowed : SyncPhase → Op → Prop
  | phase, .shared (.session (.rmt (.receivedSyncMessage delivered))) => phase = .committed delivered
  | phase, .shared (.session (.rmt .sentDataEnd)) => phase = .wrote
  | phase, .shared (.session .disposition) => phase = .judged
  | phase, .shared (.session (.completeClear _)) => phase = .resetting
  | phase, .shared (.session (.feed _)) => phase ≠ .wrote
  | phase, .environment (.send channel header _) =>
    phase ≠ .wrote ∧
      (concluding header.type = true →
        channel = .synchronous ∧
          (header.type = .dataEnd ∧ phase = .answering ∨ header.type = .deviceClearAcknowledge ∧ phase = .reset))
  | phase, op => phase ≠ .wrote ∧ marked op = false

def advance : SyncPhase → (op : Op) → op.Reply → SyncPhase
  | .taken delivered, .shared (.session .state), reply => if reply = .clearing then .resting else .committed delivered
  | .committed _, .shared (.session (.rmt _)), _ => .judged
  | .judged, .shared (.session .disposition), reply => if reply = .responseExpected then .answering else .judged
  | .answering, .environment (.send _ header _), reply =>
    if header.type = .dataEnd ∧ reply = none then .wrote else .answering
  | .wrote, .shared (.session (.rmt _)), _ => .resting
  | .resetting, .shared (.session (.completeClear _)), _ => .reset
  | .reset, .environment (.send _ header _), reply =>
    if header.type = .deviceClearAcknowledge ∧ reply = none then .resting else .reset
  | phase, _, _ => phase

end SyncPhase

namespace AsyncPhase

def mayRest : AsyncPhase → Bool
  | .querying _ => false
  | _ => true

def allowed : AsyncPhase → Op → Prop
  | phase, .shared (.session (.rmt (.receivedStatusQuery delivered))) => phase = .querying delivered
  | phase, .shared (.session .beginClear) => phase = .preparing
  | phase, .environment (.send channel header _) =>
    concluding header.type = true →
      channel = .asynchronous ∧
        (header.type = .asyncStatusResponse ∧ phase = .polled ∨
          header.type = .asyncDeviceClearAcknowledge ∧ phase = .begun)
  | _, op => marked op = false

def advance : AsyncPhase → (op : Op) → op.Reply → AsyncPhase
  | .querying _, .shared (.session (.rmt _)), _ => .polled
  | .preparing, .shared (.session .beginClear), _ => .begun
  | .polled, .environment (.send _ header _), reply =>
    if header.type = .asyncStatusResponse ∧ reply = none then .resting else .polled
  | .begun, .environment (.send _ header _), reply =>
    if header.type = .asyncDeviceClearAcknowledge ∧ reply = none then .resting else .begun
  | phase, _, _ => phase

end AsyncPhase

def syncDiscipline (maxRx : UInt64) : Discipline Op Op.Reply SyncPhase where
  allowed := SyncPhase.allowed
  possible _ := possible maxRx
  advance := SyncPhase.advance

def asyncDiscipline (maxRx : UInt64) : Discipline Op Op.Reply AsyncPhase where
  allowed := AsyncPhase.allowed
  possible _ := possible maxRx
  advance := AsyncPhase.advance

section Calm
variable {α : Type} {maxRx : UInt64} {middle : α → Prop} {post : α → Prop}

private theorem not_concluding {type other : MessageType} (plain : concluding type = false)
    (ends : concluding other = true) : type ≠ other := fun same => by
  rw [same, ends] at plain
  cases plain

theorem SyncPhase.allowed_of_calm {phase : SyncPhase} (steady : phase.steady = true) {op : Op}
    (calm : marked op = false) : phase.allowed op := by
  have working : phase ≠ .wrote := fun wrote => by rw [wrote] at steady; cases steady
  unfold SyncPhase.allowed
  split
  case h_6 => exact ⟨working, fun ends => absurd (ends.symm.trans calm) nofun⟩
  case h_7 => exact ⟨working, calm⟩
  all_goals exact absurd (show true = false from calm) nofun

theorem SyncPhase.advance_of_calm {phase : SyncPhase} {op : Op} (calm : marked op = false)
    (steady : phase.steady = true ∨ op ≠ .shared (.session .state)) (reply : op.Reply) :
    phase.advance op reply = phase := by
  unfold SyncPhase.advance
  split
  case h_1 => exact steady.elim nofun fun other => absurd rfl other
  case h_4 => exact if_neg fun ends => not_concluding calm rfl ends.1
  case h_7 => exact if_neg fun ends => not_concluding calm rfl ends.1
  case h_8 => rfl
  all_goals exact absurd (show true = false from calm) nofun

theorem AsyncPhase.allowed_of_calm {phase : AsyncPhase} {op : Op} (calm : marked op = false) : phase.allowed op := by
  unfold AsyncPhase.allowed
  split
  case h_3 => exact fun ends => absurd (ends.symm.trans calm) nofun
  case h_4 => exact calm
  all_goals exact absurd (show true = false from calm) nofun

theorem AsyncPhase.advance_of_calm {phase : AsyncPhase} {op : Op} (calm : marked op = false) (reply : op.Reply) :
    phase.advance op reply = phase := by
  unfold AsyncPhase.advance
  split
  case h_3 => exact if_neg fun ends => not_concluding calm rfl ends.1
  case h_4 => exact if_neg fun ends => not_concluding calm rfl ends.1
  case h_5 => rfl
  all_goals exact absurd (show true = false from calm) nofun

def calmDiscipline (maxRx : UInt64) : Discipline Op Op.Reply Unit where
  allowed _ op := marked op = false
  possible _ := possible maxRx
  advance _ _ _ := ()

/-- A part of a handler without marked operations, and what it returns. -/
abbrev Calm (maxRx : UInt64) (program : Act α) (post : α → Prop) : Prop :=
  program.Follows (calmDiscipline maxRx) (fun value _ => post value) ()

theorem Calm.of_avoids {program : Act α} (avoids : Avoids marked program) : Calm maxRx program fun _ => True := by
  have rests : program.Follows (calmDiscipline maxRx) (fun _ phase => True ∧ phase = ()) () :=
    Follows.rests avoids (fun _ _ allowed => ⟨allowed, fun _ _ => ⟨trivial, rfl⟩⟩) fun _ _ holds => holds
  exact rests.mono fun _ _ => And.left

theorem Calm.of_performs {kinds : List Kind} {program : Act α} (performs : Performs kinds program post)
    (plain : ∀ kind ∈ kinds, kind.marked = false) : Calm maxRx program post :=
  (performs.rests fun op member => ⟨(kinds_eq op).2.1.trans (plain _ member), fun _ => rfl⟩).mono fun _ _ => And.left

theorem Calm.bind {β : Type} {program : Act α} {next : α → Act β} {post : β → Prop}
    (first : Calm maxRx program middle) (second : ∀ value, middle value → Calm maxRx (next value) post) :
    Calm maxRx (program >>= next) post := Follows.bind first fun value _ => second value

theorem Calm.sync {program : Act α} (calm : Calm maxRx program post) {phase : SyncPhase}
    (steady : phase.steady = true) :
    program.Follows (syncDiscipline maxRx) (fun value after => post value ∧ after = phase) phase := by
  refine Follows.rests calm (fun _ op plain => ?_) fun _ _ met => met
  exact ⟨SyncPhase.allowed_of_calm steady plain, fun reply occurs =>
    ⟨occurs, SyncPhase.advance_of_calm plain (.inl steady) reply⟩⟩

theorem Calm.async {program : Act α} (calm : Calm maxRx program post) (phase : AsyncPhase) :
    program.Follows (asyncDiscipline maxRx) (fun value after => post value ∧ after = phase) phase := by
  refine Follows.rests calm (fun _ op plain => ?_) fun _ _ met => met
  exact ⟨AsyncPhase.allowed_of_calm plain, fun reply occurs => ⟨occurs, AsyncPhase.advance_of_calm plain reply⟩⟩

theorem Calm.sync_bind {β : Type} {program : Act α} {next : α → Act β} {post : β → SyncPhase → Prop}
    (calm : Calm maxRx program middle) {phase : SyncPhase} (steady : phase.steady = true)
    (resume : ∀ value, middle value → (next value).Follows (syncDiscipline maxRx) post phase) :
    (program >>= next).Follows (syncDiscipline maxRx) post phase :=
  Follows.bind (calm.sync steady) fun value _ ⟨found, same⟩ => same ▸ resume value found

theorem Calm.async_bind {β : Type} {program : Act α} {next : α → Act β} {post : β → AsyncPhase → Prop}
    (calm : Calm maxRx program middle) {phase : AsyncPhase}
    (resume : ∀ value, middle value → (next value).Follows (asyncDiscipline maxRx) post phase) :
    (program >>= next).Follows (asyncDiscipline maxRx) post phase :=
  Follows.bind (calm.async phase) fun value _ ⟨found, same⟩ => same ▸ resume value found

theorem sync_bind {β : Type} {program : Act α} {next : α → Act β} {post : β → SyncPhase → Prop}
    (avoids : Avoids marked program) {phase : SyncPhase} (steady : phase.steady = true)
    (resume : ∀ value, (next value).Follows (syncDiscipline maxRx) post phase) :
    (program >>= next).Follows (syncDiscipline maxRx) post phase :=
  (Calm.of_avoids avoids).sync_bind steady fun value _ => resume value

theorem async_bind {β : Type} {program : Act α} {next : α → Act β} {post : β → AsyncPhase → Prop}
    (avoids : Avoids marked program) {phase : AsyncPhase}
    (resume : ∀ value, (next value).Follows (asyncDiscipline maxRx) post phase) :
    (program >>= next).Follows (asyncDiscipline maxRx) post phase :=
  (Calm.of_avoids avoids).async_bind fun value _ => resume value

end Calm

section Accepted
variable {maxRx : UInt64}

def Admissible (type : MessageType) (channel : Channel) : Prop :=
  type.reserved = false ∧ type.defined = true ∧ type.legalOn channel = true ∧ type.minVersion = .version10 ∧
    classOf type ≠ .undefined

instance (type : MessageType) (channel : Channel) : Decidable (Admissible type channel) :=
  inferInstanceAs (Decidable (_ ∧ _))

theorem admissible_program (message : ProgramMessage) : Admissible message.header.type .synchronous := by
  obtain kind | kind | kind := message.kind <;> rw [kind] <;> decide

private theorem reply_possible {op : SessionOp} (calm : marked (.shared (.session op)) = false) :
    Calm maxRx (session op) (possible maxRx (.shared (.session op))) := ⟨calm, fun _ occurs => occurs⟩

theorem requireReady_passes : Calm maxRx requireReady fun err => err = none :=
  ⟨rfl, fun
    | .ready, _ | .clearing, _ => rfl
    | .closed, occurs | .pairing, occurs => occurs.elim nofun nofun⟩

theorem accept_passes {header : Header} {channel : Channel} (admissible : Admissible header.type channel)
    (fits : checkLength header.length maxRx = none) :
    Calm maxRx (accept header channel) fun found => ∃ kind, found = .ok kind := by
  obtain ⟨reserved, defined, legal, version, known⟩ := admissible
  unfold accept
  simp only [reserved, defined, legal, version, Bool.false_eq_true, if_false, not_true_eq_false, false_and]
  refine Calm.bind (reply_possible rfl) fun version (current : version.less .version10 = false) => ?_
  rw [current, if_neg Bool.false_ne_true, if_neg known]
  refine Calm.bind (reply_possible rfl) fun limit (same : limit = maxRx) => ?_
  rw [same, fits]
  simp only
  split
  · exact ⟨_, rfl⟩
  · refine Calm.bind requireReady_passes fun err passes => ?_
    rw [passes]
    exact ⟨_, rfl⟩

end Accepted

section Responses
variable {maxRx : UInt64} {response : CheckedResponse}

abbrev Concluded {α : Type} (_ : α) (phase : SyncPhase) : Prop := phase = .answering ∨ phase = .resting

private theorem concluded_of_calm {α : Type} {program : Act α} (calm : Avoids marked program) {phase : SyncPhase}
    (concluded : phase = .answering ∨ phase = .resting) : program.Follows (syncDiscipline maxRx) Concluded phase :=
  ((Calm.of_avoids calm).sync (by obtain rfl | rfl := concluded <;> rfl)).mono fun _ _ ⟨_, same⟩ => same ▸ concluded

theorem writeEnd_follows {header : Header} (final : header.type = .dataEnd) (payload : Bytes) :
    (MessageWriter.write ⟨.synchronous⟩ header payload).Follows (syncDiscipline maxRx)
      (fun err phase => phase = if err = none then .wrote else .answering) .answering := by
  unfold MessageWriter.write
  split
  · rfl
  split
  · rfl
  refine ⟨⟨nofun, fun _ => ⟨rfl, .inl ⟨final, rfl⟩⟩⟩, fun reply _ => ?_⟩
  cases reply with
  | none => exact if_pos ⟨final, rfl⟩
  | some err => exact if_neg fun written => nomatch written.2

section
variable (writer : response.sync = ⟨.synchronous⟩)
include writer

theorem terminate_follows (final : Bytes) :
    (terminate response final).Follows (syncDiscipline maxRx) Concluded .answering := by
  unfold terminate
  rw [writer]
  refine Follows.bind (writeEnd_follows rfl final) fun
    | some _, _, same => .inl same
    | none, _, same => ?_
  subst same
  exact ⟨rfl, fun _ _ => sync_bind (session_avoids rfl) rfl fun _ =>
    concluded_of_calm (session_avoids rfl) (.inr rfl)⟩

theorem completeAbsentResponse_follows :
    (completeAbsentResponse response).Follows (syncDiscipline maxRx) Concluded .answering :=
  sync_bind (write_calm _ _ rfl) rfl fun
    | some _ => .inl rfl
    | none => sync_bind (session_avoids rfl) rfl fun
      | some _ => .inl rfl
      | none => Follows.bind (terminate_follows writer _) fun _ _ concluded => concluded

theorem completeTruncatedResponse_follows :
    (completeTruncatedResponse response).Follows (syncDiscipline maxRx) Concluded .answering :=
  sync_bind (write_calm _ _ rfl) rfl fun
    | some _ => .inl rfl
    | none => Follows.bind (terminate_follows writer _) fun _ _ concluded => concluded

theorem offerTerminator_follows (final : Bytes) :
    (offerTerminator response final).Follows (syncDiscipline maxRx) Concluded .answering :=
  sync_bind ((ask_within _).calm (by decide)) rfl fun
    | true => sync_bind ((sendInterrupted_within _).calm (by decide)) rfl fun _ => .inl rfl
    | false => sync_bind (session_avoids rfl) rfl fun
      | some _ => .inl rfl
      | none => Follows.bind (terminate_follows writer final) fun _ _ concluded => concluded

end

theorem responseLoop_follows (ctx : Ctx) (writer : response.sync = ⟨.synchronous⟩) (fuel : Nat) (delivered : UInt64) :
    (responseLoop ctx response fuel delivered).Follows (syncDiscipline maxRx) Concluded .answering := by
  induction fuel generalizing delivered with
  | zero => exact ⟨⟨nofun, rfl⟩, fun reply => nomatch reply⟩
  | succ fuel ih =>
    refine sync_bind (environment_avoids rfl) rfl fun (result : ReadResult) =>
      sync_bind ((sendChunk_within _ _).calm (by decide)) rfl fun
      | .error _ => .inl rfl
      | .ok sent => ?_
    simp only
    split
    next =>
      split
      · exact completeAbsentResponse_follows writer
      · exact completeTruncatedResponse_follows writer
    next =>
      split
      · exact offerTerminator_follows writer _
      · exact ih _

private theorem validate_returns (response : Response) :
    Calm maxRx response.validate fun checked => ∀ found, checked = .ok found → response.sync = some found.sync := by
  unfold Response.validate
  split
  next sync async synced _ =>
    split
    · exact fun _ => nofun
    refine Calm.bind (Calm.of_avoids (session_avoids rfl)) fun limit _ => ?_
    split
    · exact fun _ => nofun
    split
    · intro found same
      cases same
      exact synced
    · exact fun _ => nofun
  next => exact fun _ => nofun

theorem sendResponse_follows (ctx : Ctx) {response : Response} (writer : response.sync = some ⟨.synchronous⟩)
    (fuel : Nat) : (sendResponse ctx response fuel).Follows (syncDiscipline maxRx) Concluded .answering := by
  refine (validate_returns response).sync_bind rfl fun
    | .error _, _ => .inl rfl
    | .ok checked, found => ?_
  have synchronous : checked.sync = ⟨.synchronous⟩ := Option.some_inj.mp ((found checked rfl).symm.trans writer)
  refine sync_bind (session_avoids rfl) rfl fun
    | some _ => .inl rfl
    | none => sync_bind (session_avoids rfl) rfl fun _ => ?_
  exact Follows.bind (responseLoop_follows ctx synchronous fuel 0) fun _ _ concluded =>
    Follows.bind (concluded_of_calm (session_avoids rfl) concluded) fun _ _ concluded => concluded

end Responses

section Synchronous
variable {maxRx : UInt64} (config : Config) {message : Message} {header : Header}

abbrev Rests {α : Type} (_ : α) (phase : SyncPhase) : Prop := phase.mayRest = true

theorem rests_of_calm {α : Type} {program : Act α} (calm : Avoids marked program) {phase : SyncPhase}
    (rests : phase.mayRest = true) : program.Follows (syncDiscipline maxRx) Rests phase := by
  have steady : phase.steady = true := by revert rests; cases phase <;> first | exact id | nofun
  exact ((Calm.of_avoids calm).sync steady).mono fun _ _ ⟨_, same⟩ => same ▸ rests

theorem answerProgramMessage_follows (header : Header) (fuel : Nat) :
    (answerProgramMessage config header (some ⟨.synchronous⟩) fuel).Follows (syncDiscipline maxRx) Rests .judged := by
  refine ⟨rfl, fun (found : Disposition) _ => ?_⟩
  change (if found ≠ .responseExpected then tx .complete else _).Follows _ _
    (if found = .responseExpected then SyncPhase.answering else SyncPhase.judged)
  by_cases expected : found = .responseExpected
  · rw [if_neg (not_not.mpr expected), if_pos expected]
    refine sync_bind (operation_within.calm (by decide)) rfl fun number =>
      sync_bind (session_avoids rfl) rfl fun async =>
      sync_bind (session_avoids rfl) rfl fun limit => sync_bind (syncPending_within.calm (by decide)) rfl fun queued =>
      Follows.bind (sendResponse_follows _ rfl fuel) fun (outcome, err) phase concluded => ?_
    have rests : phase.mayRest = true ∧ phase.steady = true := by obtain rfl | rfl := concluded <;> exact ⟨rfl, rfl⟩
    refine sync_bind ((countOutcome_within _).calm (by decide)) rests.2 fun _ => ?_
    cases err with
    | none => exact sync_bind ((releaseOperation_within _).calm (by decide)) rests.2 fun _ => rests.1
    | some err =>
      exact sync_bind ((reportOperationError_within _ _).calm (by decide)) rests.2 fun _ =>
        sync_bind ((releaseOperation_within _).calm (by decide)) rests.2 fun _ => rests.1
  · rw [if_pos expected, if_neg expected]
    exact rests_of_calm (session_avoids rfl) rfl

theorem receiveData_follows (kind : header.type = .data ∨ header.type = .dataEnd) (payload : Bytes) :
    (receiveData header payload).Follows (syncDiscipline maxRx) (fun _ phase => phase = .judged)
      (.committed header.rmtDelivered) := by
  have known : ¬ (header.type ≠ .data ∧ ¬ header.type = .dataEnd) := fun other => kind.elim other.1 other.2
  unfold receiveData
  simp only
  rw [if_neg known]
  refine ⟨rfl, fun interrupted _ => sync_bind (session_avoids rfl) rfl fun _ => sync_bind (session_avoids rfl) rfl fun
    | some _ => rfl
    | none => sync_bind (environment_avoids rfl) rfl fun _ => rfl⟩

theorem trigger_follows (kind : header.type = .trigger) :
    (trigger header).Follows (syncDiscipline maxRx) (fun _ phase => phase = .judged)
    (.committed header.rmtDelivered) := by
  unfold trigger
  rw [if_neg (not_not.mpr kind)]
  refine requireReady_passes.sync_bind rfl fun err passes => ?_
  subst passes
  exact ⟨rfl, fun interrupted _ => sync_bind (session_avoids rfl) rfl fun _ => sync_bind (session_avoids rfl) rfl fun
    | some _ => rfl
    | none => sync_bind (environment_avoids rfl) rfl fun
      | some _ => rfl
      | none => sync_bind (session_avoids rfl) rfl fun _ => rfl⟩

theorem handleData_follows (kind : message.header.type = .data ∨ message.header.type = .dataEnd) (fuel : Nat) :
    (handleData config message (some ⟨.synchronous⟩) fuel).Follows (syncDiscipline maxRx) Rests
      (.committed message.header.rmtDelivered) := by
  refine Follows.bind (receiveData_follows kind message.payload) fun (interrupted, err) _ same => ?_
  subst same
  refine sync_bind ((countInterrupted_within _).calm (by decide)) rfl fun _ => ?_
  cases err with
  | some err => exact rests_of_calm ((reportOperationError_within _ _).calm (by decide)) rfl
  | none =>
    have last : (if message.header.type ≠ .dataEnd then Pure.pure none
        else answerProgramMessage config message.header (some ⟨.synchronous⟩) fuel).Follows (syncDiscipline maxRx)
          Rests .judged := by
      split
      · rfl
      · exact answerProgramMessage_follows config message.header fuel
    simp only
    split
    · exact ⟨nofun, fun _ _ => last⟩
    · exact last

theorem handleTrigger_follows (kind : message.header.type = .trigger) :
    (handleTrigger message (some ⟨.synchronous⟩)).Follows (syncDiscipline maxRx) Rests
      (.committed message.header.rmtDelivered) := by
  refine Follows.bind (trigger_follows kind) fun (interrupted, err) _ same => ?_
  subst same
  refine sync_bind ((countInterrupted_within _).calm (by decide)) rfl fun _ => ?_
  cases err with
  | some err => exact rests_of_calm ((reportOperationError_within _ _).calm (by decide)) rfl
  | none => exact sync_bind (count_calm _) rfl fun _ => rfl

theorem discardDuringClear_commits (message : ProgramMessage) :
    (discardDuringClear message.header).Follows (syncDiscipline maxRx)
      (fun discarded phase => phase = if discarded then .resting else .committed message.header.rmtDelivered)
      (.taken message.header.rmtDelivered) := by
  have other : message.header.type ≠ .deviceClearComplete := by
    obtain kind | kind | kind := message.kind <;> rw [kind] <;> decide
  refine ⟨⟨nofun, rfl⟩, fun (state : State) _ => ?_⟩
  change (if state ≠ .clearing then Pure.pure false else Pure.pure (decide (message.header.type ≠ .deviceClearComplete))
    : Act Bool).Follows _ _ (if state = .clearing then SyncPhase.resting else .committed message.header.rmtDelivered)
  by_cases clearing : state = .clearing
  · rw [if_neg (not_not.mpr clearing), if_pos clearing, decide_eq_true other]
    rfl
  · rw [if_pos clearing, if_neg clearing]
    rfl

private theorem syncWriter_installed {delivered : Bool} :
    (session .syncWriter).Follows (syncDiscipline maxRx)
      (fun writer phase => writer = some ⟨.synchronous⟩ ∧ phase = .taken delivered) (.taken delivered) :=
  ⟨⟨nofun, rfl⟩, fun _ installed => ⟨installed, rfl⟩⟩

/-- A program message is judged unless it is discarded. -/
theorem handleSync_program {message : ProgramMessage} (fine : WellFormed message.toMessage maxRx) (fuel : Nat) :
    (handleSync config message.toMessage fuel).Follows (syncDiscipline maxRx) Rests
      (.taken message.header.rmtDelivered) := by
  refine Follows.bind syncWriter_installed fun writer _ ⟨installed, same⟩ => ?_
  subst installed same
  simp only [fine.1]
  refine Follows.bind (discardDuringClear_commits message) fun
    | true, _, same => by subst same; rfl
    | false, _, same => ?_
  subst same
  refine (accept_passes (admissible_program message) fine.2).sync_bind rfl fun found passes => ?_
  obtain ⟨kind, rfl⟩ := passes
  simp only
  split
  next written => exact handleData_follows config written fuel
  next unwritten =>
    have triggers : message.header.type = .trigger := by
      obtain data | dataEnd | trigger := message.kind
      · exact absurd (.inl data) unwritten
      · exact absurd (.inr dataEnd) unwritten
      · exact trigger
    rw [if_pos triggers]
    exact handleTrigger_follows triggers

theorem completeDeviceClear_follows (kind : header.type = .deviceClearComplete) :
    (completeDeviceClear config header).Follows (syncDiscipline maxRx)
      (fun result phase => result.1.type = .deviceClearAcknowledge ∧ phase = .reset) .resetting := by
  unfold completeDeviceClear
  rw [if_neg (not_not.mpr kind)]
  exact ⟨rfl, fun _ _ => sync_bind (session_avoids rfl) rfl fun _ => sync_bind (environment_avoids rfl) rfl fun _ =>
    ⟨rfl, rfl⟩⟩

theorem writeAcknowledge_follows (final : header.type = .deviceClearAcknowledge) (payload : Bytes) :
    (MessageWriter.write ⟨.synchronous⟩ header payload).Follows (syncDiscipline maxRx)
      (fun _ phase => phase = .resting ∨ phase = .reset) .reset := by
  unfold MessageWriter.write
  split
  · exact .inr rfl
  split
  · exact .inr rfl
  refine ⟨⟨nofun, fun _ => ⟨rfl, .inr ⟨final, rfl⟩⟩⟩, fun reply _ => ?_⟩
  cases reply with
  | none => exact .inl (if_pos ⟨final, rfl⟩)
  | some err => exact .inr (if_neg fun written => nomatch written.2)

theorem handleDeviceClearComplete_follows (kind : message.header.type = .deviceClearComplete) :
    (handleDeviceClearComplete config message (some ⟨.synchronous⟩)).Follows (syncDiscipline maxRx) Rests
      .resetting := by
  refine Follows.bind (completeDeviceClear_follows config kind) fun (ack, failed) _ ⟨final, same⟩ => ?_
  subst same
  refine Follows.bind (writeAcknowledge_follows final []) fun err phase tried => ?_
  have rests : phase.mayRest = true ∧ phase.steady = true := by obtain rfl | rfl := tried <;> exact ⟨rfl, rfl⟩
  cases err with
  | some err => exact rests.1
  | none =>
    refine sync_bind (count_calm _) rests.2 fun _ => ?_
    cases failed with
    | some err => exact rests_of_calm ((reportOperationError_within _ _).calm (by decide)) rests.1
    | none => exact rests.1

theorem handleSync_complete (fine : message.err = none) (kind : message.header.type = .deviceClearComplete)
    (fuel : Nat) : (handleSync config message fuel).Follows (syncDiscipline maxRx) Rests .resetting := by
  refine Calm.sync_bind (reply_possible rfl) rfl fun writer (installed : writer = some ⟨.synchronous⟩) => ?_
  subst installed
  simp only [fine]
  refine sync_bind ((discardDuringClear_within _).calm (by decide)) rfl fun
    | true => rfl
    | false => sync_bind ((accept_within _ _).calm (by decide)) rfl fun
      | .error _ => rests_of_calm ((reportAcceptError_within _ _).calm (by decide)) rfl
      | .ok _ => ?_
  have unwritten : ¬ (message.header.type = .data ∨ message.header.type = .dataEnd) := by rw [kind]; decide
  have untriggered : ¬ message.header.type = .trigger := by rw [kind]; decide
  simp only
  rw [if_neg unwritten, if_neg untriggered, if_pos kind]
  exact handleDeviceClearComplete_follows config kind

def Unremarkable (message : Message) : Prop :=
  message.err = none → message.header.type ≠ .data ∧ message.header.type ≠ .dataEnd ∧
    message.header.type ≠ .trigger ∧ message.header.type ≠ .deviceClearComplete

instance (message : Message) : Decidable (Unremarkable message) := inferInstanceAs (Decidable (_ → _))

theorem handleSync_calm (other : Unremarkable message) (fuel : Nat) :
    Avoids marked (handleSync config message fuel) := by
  refine (session_avoids rfl).bind fun writer => ?_
  split
  · exact (reportReadError_within _ _).calm (by decide)
  next read =>
    obtain ⟨data, dataEnd, trigger, complete⟩ := other read
    refine ((discardDuringClear_within _).calm (by decide)).bind fun
      | true => trivial
      | false => ((accept_within _ _).calm (by decide)).bind fun
        | .error _ => (reportAcceptError_within _ _).calm (by decide)
        | .ok _ => ?_
    simp only
    rw [if_neg (not_or.mpr ⟨data, dataEnd⟩), if_neg trigger, if_neg complete]
    refine Follows.ite (fun _ => (count_calm _).bind fun _ => trivial) fun _ => ?_
    refine Follows.ite (fun _ => (count_calm _).bind fun _ => trivial) fun _ => ?_
    refine Follows.ite (fun _ => (writeVia_calm _ _ rfl).bind fun _ => trivial) fun _ => ?_
    exact Follows.ite (fun _ => (count_calm _).bind fun _ => writeVia_calm _ _ rfl)
      fun _ => (count_calm _).bind fun _ => writeVia_calm _ _ rfl

end Synchronous

section Asynchronous
variable {maxRx : UInt64} (config : Config) {message : Message}

abbrev RestsAsync {α : Type} (_ : α) (phase : AsyncPhase) : Prop := phase.mayRest = true

theorem restsAsync_of_calm {α : Type} {program : Act α} (calm : Avoids marked program) {phase : AsyncPhase}
    (rests : phase.mayRest = true) : program.Follows (asyncDiscipline maxRx) RestsAsync phase :=
  ((Calm.of_avoids calm).async phase).mono fun _ _ ⟨_, same⟩ => same ▸ rests

theorem writeAnswer_follows {header : Header} {phase : AsyncPhase} (rests : phase.mayRest = true)
    (due : header.type = .asyncStatusResponse ∧ phase = .polled ∨ header.type = .asyncDeviceClearAcknowledge ∧
      phase = .begun)
    (payload : Bytes) :
    (MessageWriter.write ⟨.asynchronous⟩ header payload).Follows (asyncDiscipline maxRx) RestsAsync phase := by
  unfold MessageWriter.write
  split
  · exact rests
  split
  · exact rests
  refine ⟨fun _ => ⟨rfl, due⟩, fun reply _ => ?_⟩
  obtain ⟨-, rfl⟩ | ⟨-, rfl⟩ := due
  · change AsyncPhase.mayRest (if _ then .resting else .polled) = true
    split <;> rfl
  · change AsyncPhase.mayRest (if _ then .resting else .begun) = true
    split <;> rfl

theorem answerAsync_follows {answer : Except Err Header} {phase : AsyncPhase} (rests : phase.mayRest = true)
    (due : ∀ header, answer = .ok header → header.type = .asyncStatusResponse ∧ phase = .polled ∨
      header.type = .asyncDeviceClearAcknowledge ∧ phase = .begun) :
    (answerAsync ⟨.asynchronous⟩ answer).Follows (asyncDiscipline maxRx) RestsAsync phase :=
  match answer, due with
  | .error _, _ => restsAsync_of_calm ((reportOperationError_within _ _).calm (by decide)) rests
  | .ok header, due => writeAnswer_follows rests (due header rfl) []

theorem statusQuery_follows {header : Header} (kind : header.type = .asyncStatusQuery) :
    (statusQuery header).Follows (asyncDiscipline maxRx)
      (fun answer phase => phase = .polled ∧ ∀ response, answer = .ok response → response.type = .asyncStatusResponse)
      (.querying header.rmtDelivered) := by
  unfold statusQuery
  rw [if_neg (not_not.mpr kind)]
  refine requireReady_passes.async_bind fun err passes => ?_
  subst passes
  refine ⟨rfl, fun _ _ => async_bind (environment_avoids rfl) fun
    | .error _ => ⟨rfl, fun _ => nofun⟩
    | .ok _ => async_bind (session_avoids rfl) fun byte => async_bind (session_avoids rfl) fun
      | true => ⟨rfl, fun response same => ?_⟩
      | false => ⟨rfl, fun response same => ?_⟩⟩ <;>
    cases same <;> rfl

theorem beginDeviceClear_follows :
    (beginDeviceClear config).Follows (asyncDiscipline maxRx)
      (fun answer phase => phase.mayRest = true ∧ ∀ response, answer = .ok response →
        response.type = .asyncDeviceClearAcknowledge ∧ phase = .begun) .preparing := by
  refine async_bind (requireReady_within.calm (by decide)) fun
    | some _ => ⟨rfl, fun _ => nofun⟩
    | none => async_bind (abortOperation_within.calm (by decide)) fun _ => async_bind (session_avoids rfl) fun _ =>
      async_bind (session_avoids rfl) fun
        | some _ => ⟨rfl, fun _ => nofun⟩
        | none => ⟨rfl, fun _ _ => ⟨rfl, fun response same => ?_⟩⟩
  cases same
  exact ⟨rfl, rfl⟩

theorem handleAsync_query (fine : WellFormed message maxRx) (kind : message.header.type = .asyncStatusQuery)
    (fuel : Nat) :
    (handleAsync config message fuel).Follows (asyncDiscipline maxRx) RestsAsync
      (.querying message.header.rmtDelivered) := by
  refine Calm.async_bind (reply_possible rfl) fun writer (installed : writer = some ⟨.asynchronous⟩) => ?_
  subst installed
  simp only [fine.1]
  refine (accept_passes (by rw [kind]; decide) fine.2).async_bind fun found passes => ?_
  obtain ⟨_, rfl⟩ := passes
  have other : ¬ message.header.type = .asyncDeviceClear := by rw [kind]; decide
  simp only
  rw [if_neg other, if_pos kind]
  refine Follows.bind (statusQuery_follows kind) fun answer _ ⟨same, due⟩ => ?_
  subst same
  exact async_bind (count_calm _) fun _ => answerAsync_follows rfl fun header found => .inl ⟨due header found, rfl⟩

theorem handleAsync_clear (fine : message.err = none) (kind : message.header.type = .asyncDeviceClear) (fuel : Nat) :
    (handleAsync config message fuel).Follows (asyncDiscipline maxRx) RestsAsync .preparing := by
  refine Calm.async_bind (reply_possible rfl) fun writer (installed : writer = some ⟨.asynchronous⟩) => ?_
  subst installed
  simp only [fine]
  refine async_bind ((accept_within _ _).calm (by decide)) fun
    | .error _ => restsAsync_of_calm ((reportAcceptError_within _ _).calm (by decide)) rfl
    | .ok _ => ?_
  simp only
  rw [if_pos kind]
  refine Follows.bind (beginDeviceClear_follows config) fun answer _ ⟨rests, due⟩ => ?_
  exact answerAsync_follows rests fun header found => .inr (due header found)

def UnremarkableAsync (message : Message) : Prop :=
  message.err = none → message.header.type ≠ .asyncStatusQuery ∧ message.header.type ≠ .asyncDeviceClear

instance (message : Message) : Decidable (UnremarkableAsync message) := inferInstanceAs (Decidable (_ → _))

theorem answerAsync_calm {type : MessageType} {answer : Except Err Header} (answers : Answers type answer)
    (plain : concluding type = false) (writer : MessageWriter) : Avoids marked (answerAsync writer answer) := by
  cases answer with
  | error err => exact (reportOperationError_within _ _).calm (by decide)
  | ok header => exact write_calm writer [] (answers header rfl ▸ plain)

theorem handleAsync_calm (other : UnremarkableAsync message) (fuel : Nat) :
    Calm maxRx (handleAsync config message fuel) fun _ => True := by
  refine Calm.bind (Calm.of_avoids (session_avoids rfl)) fun
    | none, _ => trivial
    | some writer, _ => ?_
  simp only
  split
  · exact Calm.of_avoids ((reportReadError_within _ _).calm (by decide))
  next read =>
    obtain ⟨query, clear⟩ := other read
    refine Calm.bind (Calm.of_avoids ((accept_within _ _).calm (by decide))) fun
      | .error _, _ => Calm.of_avoids ((reportAcceptError_within _ _).calm (by decide))
      | .ok _, _ => ?_
    simp only
    rw [if_neg clear, if_neg query]
    refine Follows.ite (fun _ => (Calm.of_performs (lock_within _ _ fuel) (by decide)).bind fun _ answers =>
      Calm.of_avoids (answerAsync_calm answers rfl writer)) fun _ => ?_
    refine Follows.ite (fun _ => (Calm.of_performs (lockInfo_within _) (by decide)).bind fun _ answers =>
      Calm.of_avoids (answerAsync_calm answers rfl writer)) fun _ => ?_
    refine Follows.ite (fun _ => (Calm.of_performs (remoteLocal_within _) (by decide)).bind fun _ answers =>
      Calm.of_avoids (answerAsync_calm answers rfl writer)) fun _ => ?_
    refine Follows.ite (fun _ => (Calm.of_performs (maximumMessageSize_within _ _) (by decide)).bind fun _ typed =>
      Calm.of_avoids (write_calm _ _ (by rw [typed]; rfl))) fun _ => ?_
    refine Follows.ite (fun _ => Calm.of_avoids ((write_calm _ _ rfl).bind fun _ => trivial)) fun _ => ?_
    refine Follows.ite (fun _ => Calm.of_avoids ((count_calm _).bind fun _ => trivial)) fun _ => ?_
    exact Follows.ite (fun _ => Calm.of_avoids ((count_calm _).bind fun _ => trivial))
      fun _ => Calm.of_avoids ((count_calm _).bind fun _ => write_calm _ _ rfl)

end Asynchronous

end Hislip.Proofs.LoopPhases
