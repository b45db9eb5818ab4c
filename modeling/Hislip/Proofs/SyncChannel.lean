import Hislip.Proofs.Answering
import Hislip.Server.Serve

/-! One program message, handled alone: the checks before the device, the device
call, and what follows it. The transaction is listening before each message, and
after it unless the device failed on the end of a message. -/

namespace Hislip.Proofs.SyncChannel
open Hislip.Server Hislip.Proofs.Answering Act Program

variable {σ δ : Type} {policy : ResponsePolicy σ} {environment : Environment δ} {world : World σ δ}

structure ProgramMessage extends Message where
  kind : header.type = .data ∨ header.type = .dataEnd ∨ header.type = .trigger

theorem data_kind : MessageType.data = .data ∨ MessageType.data = .dataEnd ∨ MessageType.data = .trigger := .inl rfl

theorem dataEnd_kind :
    MessageType.dataEnd = .data ∨ MessageType.dataEnd = .dataEnd ∨ MessageType.dataEnd = .trigger := .inr (.inl rfl)

theorem ProgramMessage.written {message : ProgramMessage} (other : ¬ message.header.type = .trigger) :
    message.header.type = .data ∨ message.header.type = .dataEnd :=
  message.kind.imp_right fun later => later.resolve_right other

/-- Nothing is wrong with the message as it was read, and it is within the limit. -/
def WellFormed (message : Message) (limit : UInt64) : Prop :=
  message.err = none ∧ checkLength message.header.length limit = none

instance (message : Message) (limit : UInt64) : Decidable (WellFormed message limit) :=
  inferInstanceAs (Decidable (_ ∧ _))

/-- A ready session whose synchronous loop has installed its writer; the other
loop installs its own when it starts. -/
structure Wired (setup : Setup) : Prop where
  ready : setup.state = .ready
  syncW : setup.syncW = some ⟨.synchronous⟩
  asyncW : setup.asyncW = none ∨ setup.asyncW = some ⟨.asynchronous⟩

def Listening (world : World σ δ) : Prop := world.session.tx.state = .idle ∨ world.session.tx.state = .receivingInput

private theorem tx_listening {transaction : Transaction}
    (listening : transaction.state = .idle ∨ transaction.state = .receivingInput) (id : MessageID) :
    TxOp.beginInput.apply transaction = (none, { transaction with state := .receivingInput }) ∧
      (TxOp.completeInput id).apply transaction = (none, ⟨.inputComplete, id⟩) := by
  obtain ⟨state, old⟩ := transaction
  obtain rfl | rfl := listening <;> exact ⟨rfl, rfl⟩

private theorem kind_accepted {type : MessageType} (kind : type = .data ∨ type = .dataEnd ∨ type = .trigger) :
    type.reserved = false ∧ type.defined = true ∧ type.legalOn .synchronous = true ∧ type.minVersion = .version10 ∧
      classOf type = .syncOrdered := by
  obtain rfl | rfl | rfl := kind <;> decide

theorem exec_requireReady (ready : world.session.state = .ready) :
    exec (handler policy environment) requireReady world = (some none, world) := by
  simp only [requireReady, exec_bind, exec_state, andThen_some, ready, pure_eq, exec_pure]

theorem exec_accept (ready : world.session.state = .ready) (message : ProgramMessage) :
    exec (handler policy environment) (accept message.header .synchronous) world =
      (some (match checkLength message.header.length world.session.maxRx with
        | some err => .error err
        | none => .ok .syncOrdered), world) := by
  obtain ⟨reserved, defined, legal, version, ordered⟩ := kind_accepted message.kind
  have current := world.session.current
  simp only [accept, reserved, defined, legal, ordered, version, current, exec_bind, exec_version, exec_maxRx,
    andThen_some, Bool.false_eq_true, if_false, not_true_eq_false, false_and, reduceCtorEq]
  cases checkLength message.header.length world.session.maxRx with
  | some err => rfl
  | none => simp only [exec_bind, exec_requireReady ready, andThen_some, pure_eq, exec_pure]

/-- What is left to do with a Data or DataEnd message once the device replied. -/
def afterWrite (config : Config) (message : Message) (fuel : Nat) (interrupted : Interrupted) (err : Option Err) :
    Act (Option Err) := do
  countInterrupted interrupted
  match err with
  | some err => reportOperationError (some ⟨.synchronous⟩) err
  | none =>
    if message.payload.length ≠ 0 then session (.feed message.payload)
    if message.header.type ≠ .dataEnd then return none
    else answerProgramMessage config message.header (some ⟨.synchronous⟩) fuel

/-- What is left to do with a Trigger message once the device replied. -/
def afterTrigger (interrupted : Interrupted) (err : Option Err) : Act (Option Err) := do
  let err ← match err with
    | some err => Pure.pure (some err)
    | none => tx .complete
  countInterrupted interrupted
  match err with
  | some err => reportOperationError (some ⟨.synchronous⟩) err
  | none =>
    count .triggers
    return none

def inputTx (header : Header) (transaction : Transaction) : Transaction :=
  if header.type = .data then { transaction with state := .receivingInput } else ⟨.inputComplete, header.messageID⟩

/-- The world when a program message is about to reach the device. -/
def taken (header : Header) (world : World σ δ) : World σ δ :=
  world.setSession
    { world.session with
      rmt := ((RMTOp.receivedSyncMessage header.rmtDelivered).apply world.session.rmt).2
      status := world.session.status.receivedSyncMessage header.messageID
      tx := inputTx header world.session.tx }

theorem taken_continues (header : Header) (world : World σ δ) : Continues world (taken header world) [] :=
  ⟨(List.append_nil _).symm, rfl, rfl⟩

def judged (header : Header) (world : World σ δ) : Interrupted :=
  ((RMTOp.receivedSyncMessage header.rmtDelivered).apply world.session.rmt).1

theorem exec_receiveData (listening : Listening world) {header : Header} (payload : Bytes)
    (kind : header.type = .data ∨ header.type = .dataEnd) :
    exec (handler policy environment) (receiveData header payload) world =
      andThen ((environment (.write .server payload (header.type = .dataEnd)) world.environment).1,
          (taken header world).call environment (.write .server payload (header.type = .dataEnd)))
        fun err after => (some (judged header world, err), after) := by
  obtain ⟨begins, completes⟩ := tx_listening listening header.messageID
  have guard : ¬ (header.type ≠ .data ∧ ¬ header.type = .dataEnd) := by
    rintro ⟨first, second⟩
    exact kind.elim first second
  simp only [receiveData, if_neg guard, exec_bind, exec_rmt, exec_receivedSyncMessage, andThen_some, exec_tx,
    World.session_setSession, taken, judged, inputTx]
  by_cases last : header.type = .dataEnd
  · have other : ¬ header.type = .data := by rw [last]; decide
    simp only [if_pos last, if_neg other, completes, exec_bind, exec_write, pure_eq, exec_pure]
    rfl
  · simp only [if_neg last, if_pos (kind.resolve_right last), begins, exec_bind, exec_write, pure_eq, exec_pure]
    rfl

theorem exec_trigger_message (listening : Listening world) (ready : world.session.state = .ready) {header : Header}
    (kind : header.type = .trigger) :
    exec (handler policy environment) (trigger header) world =
      andThen ((environment (.trigger .server) world.environment).1,
          (taken header world).call environment (.trigger .server))
        fun err after => exec (handler policy environment)
          (match err with
            | some err => return (judged header world, some err)
            | none => return (judged header world, ← tx .complete)) after := by
  obtain ⟨-, completes⟩ := tx_listening listening header.messageID
  have guard : ¬ header.type ≠ .trigger := fun other => other kind
  have other : ¬ header.type = .data := by rw [kind]; decide
  simp only [trigger, if_neg guard, exec_bind, exec_requireReady ready, exec_rmt, exec_receivedSyncMessage, andThen_some,
    exec_tx, World.session_setSession, completes, exec_trigger, taken, judged, inputTx, if_neg other]
  rfl

section Handle
variable {world : World σ δ}

private theorem exec_discardDuringClear (wired : Wired (setup world.session)) (header : Header) :
    exec (handler policy environment) (discardDuringClear header) world = (some false, world) := by
  have ready : world.session.state = .ready := wired.ready
  simp [discardDuringClear, ready]

variable (wired : Wired (setup world.session)) (listening : Listening world) (config : Config)
  {message : ProgramMessage} (fine : WellFormed message.toMessage world.session.maxRx)
include wired listening fine

theorem exec_handleSync_data (kind : message.header.type = .data ∨ message.header.type = .dataEnd) (fuel : Nat) :
    exec (handler policy environment) (handleSync config message.toMessage fuel) world =
      andThen ((environment (.write .server message.payload (message.header.type = .dataEnd)) world.environment).1,
          (taken message.header world).call environment
            (.write .server message.payload (message.header.type = .dataEnd)))
        fun err after => exec (handler policy environment)
          (afterWrite config message.toMessage fuel (judged message.header world) err) after := by
  have syncW : world.session.syncW = some ⟨.synchronous⟩ := wired.syncW
  simp only [handleSync, exec_bind, exec_syncWriter, syncW, andThen_some, fine.1, exec_discardDuringClear wired,
    Bool.false_eq_true, if_false, exec_accept wired.ready message, fine.2, if_pos kind, handleData,
    exec_receiveData listening _ kind, andThen_assoc]
  congr 1
  funext err after
  exact (exec_bind _ _ _ _).symm

theorem exec_handleSync_trigger (kind : message.header.type = .trigger) (fuel : Nat) :
    exec (handler policy environment) (handleSync config message.toMessage fuel) world =
      andThen ((environment (.trigger .server) world.environment).1,
          (taken message.header world).call environment (.trigger .server))
        fun err after => exec (handler policy environment) (afterTrigger (judged message.header world) err) after := by
  have syncW : world.session.syncW = some ⟨.synchronous⟩ := wired.syncW
  have other : ¬ (message.header.type = .data ∨ message.header.type = .dataEnd) := by rw [kind]; decide
  simp only [handleSync, exec_bind, exec_syncWriter, syncW, andThen_some, fine.1, exec_discardDuringClear wired,
    Bool.false_eq_true, if_false, exec_accept wired.ready message, fine.2, if_neg other, if_pos kind, handleTrigger,
    exec_trigger_message listening wired.ready kind, andThen_assoc]
  congr 1
  funext err after
  cases err with
  | some err => simp only [afterTrigger, exec_bind, pure_eq, exec_pure, andThen_some]
  | none =>
    cases complete : (TxOp.complete.apply after.session.tx).1 <;>
      simp only [afterTrigger, exec_bind, exec_tx, complete, pure_eq, exec_pure, andThen_some]

end Handle

/-- What the policy has scanned once the chunk is fed; an empty chunk is not. -/
def heard (policy : ResponsePolicy σ) (payload : Bytes) (scanned : Option σ) : Option σ :=
  if payload.length ≠ 0 then scanned.map (policy.feed · payload) else scanned

def classify (policy : ResponsePolicy σ) (scanned : Option σ) : Disposition :=
  (scanned.map policy.disposition).getD .noResponseExpected

/-- A part of a run that adds these events, keeps the setup and leaves the policy
with what it has scanned by then. -/
structure Handled (before after : World σ δ) (scanned : Option σ) (events : List Event) : Prop where
  trace : after.trace = before.trace ++ events
  setup : setup after.session = setup before.session
  policy : after.session.policy = scanned

namespace Handled
variable {first middle last : World σ δ} {scanned heard : Option σ} {events later : List Event}

theorem ofContinues (continues : Continues first last events) : Handled first last first.session.policy events :=
  ⟨continues.trace, continues.setup, continues.policy⟩

theorem trans (one : Handled first middle heard events) (two : Handled middle last scanned later) :
    Handled first last scanned (events ++ later) :=
  ⟨by rw [two.trace, one.trace, List.append_assoc], two.setup.trans one.setup, two.policy⟩

theorem after (one : Handled first middle scanned events) (two : Continues middle last later) :
    Handled first last scanned (events ++ later) :=
  ⟨by rw [two.trace, one.trace, List.append_assoc], two.setup.trans one.setup, two.policy.trans one.policy⟩

end Handled

section Parts
variable (world : World σ δ)

private theorem countInterrupted_keeps (interrupted : Interrupted) :
    Yields (handler policy environment) (countInterrupted interrupted) world fun _ after =>
      after.session = world.session ∧ after.environment = world.environment ∧ Continues world after [] := by
  cases interrupted <;> exact ⟨_, _, rfl, rfl, rfl, ⟨(List.append_nil _).symm, rfl, rfl⟩⟩

private theorem countOutcome_keeps (outcome : ResponseOutcome) :
    Yields (handler policy environment) (countOutcome outcome) world fun _ after =>
      after.session = world.session ∧ Continues world after [] := by
  cases outcome <;> exact ⟨_, _, rfl, rfl, ⟨(List.append_nil _).symm, rfl, rfl⟩⟩

theorem reportError_keeps (accepting : Accepting environment) (err : Err) (code : ErrorCode → ErrorCode) :
    Yields (handler policy environment) (reportError (some ⟨.synchronous⟩) err code) world fun _ after =>
      after.session = world.session ∧ ∃ events, Continues world after events := by
  have legal : MessageType.error.legalOn .synchronous := by decide
  have fatal : MessageType.fatalError.legalOn .synchronous := by decide
  unfold reportError
  cases wireErrorFor err with
  | fatal found =>
    simp only [Yields, MessageWriter.writeFatalError, exec_bind, exec_count, andThen_some,
      exec_write_accepted accepting, fatal, true_or, pure_eq, exec_pure]
    exact ⟨_, _, rfl, rfl, _, rfl, rfl, rfl⟩
  | nonFatal found =>
    simp only [Yields, MessageWriter.writeError, exec_bind, exec_count, andThen_some,
      exec_write_accepted accepting, legal, true_or]
    exact ⟨_, _, rfl, rfl, _, rfl, rfl, rfl⟩

theorem reportReadError_keeps (accepting : Accepting environment) (err : Err) :
    Yields (handler policy environment) (reportReadError (some ⟨.synchronous⟩) err) world fun _ after =>
      after.session = world.session ∧ ∃ events, Continues world after events := by
  have legal : MessageType.error.legalOn .synchronous := by decide
  unfold reportReadError
  split
  next =>
    simp only [Yields, MessageWriter.writeError, exec_bind, exec_count, andThen_some,
      exec_write_accepted accepting, legal, true_or]
    exact ⟨_, _, rfl, rfl, _, rfl, rfl, rfl⟩
  next => exact ⟨_, _, rfl, rfl, [], .refl world⟩

theorem reportAcceptError_keeps (accepting : Accepting environment) (err : Err) :
    Yields (handler policy environment) (reportAcceptError (some ⟨.synchronous⟩) err) world fun _ after =>
      after.session = world.session ∧ ∃ events, Continues world after events := by
  unfold reportAcceptError
  split
  next =>
    have counted : Yields (handler policy environment) (count .wrongChannel) world fun _ after =>
      after.session = world.session ∧ Continues world after [] := ⟨_, _, rfl, rfl, (List.append_nil _).symm, rfl, rfl⟩
    refine counted.bind ?_
    rintro _ middle ⟨same, first⟩
    refine (reportError_keeps middle accepting err id).mono ?_
    rintro _ after ⟨kept, events, second⟩
    exact ⟨kept.trans same, _, first.trans second⟩
  next => exact reportError_keeps world accepting err id

theorem disposition_apply (session : Session σ) :
    SessionOp.disposition.apply policy session =
      (classify policy session.policy, { session with policy := session.policy.map policy.reset }) := by
  obtain ⟨_, _, _, _, _, _, _, _, _, _, _, _, _, _, _, _, scanned⟩ := session
  cases scanned <;> rfl

end Parts

section Answer
variable {world : World σ δ}

/-- What `answerProgramMessage` does with the result of the response loop. -/
def finishResponse (number : Nat) (result : ResponseOutcome × Option Err) : Act (Option Err) := do
  session (.setResponsePending false)
  countOutcome result.1
  let reported ← match result.2 with
    | some err => reportOperationError (some ⟨.synchronous⟩) err
    | none => Pure.pure none
  releaseOperation number
  return reported

theorem finishResponse_keeps (number : Nat) (outcome : ResponseOutcome) (world : World σ δ) :
    Yields (handler policy environment) (finishResponse number (outcome, none)) world fun result after =>
      result = none ∧ after.session.tx = world.session.tx ∧ Continues world after [] := by
  have lowered : Yields (handler policy environment) (session (.setResponsePending false)) world fun _ after =>
      after.session.tx = world.session.tx ∧ Continues world after [] :=
        ⟨_, _, rfl, rfl, (List.append_nil _).symm, rfl, rfl⟩
  refine lowered.bind ?_
  rintro _ middle ⟨same, first⟩
  refine (countOutcome_keeps middle outcome).bind ?_
  rintro _ counted ⟨kept, second⟩
  simp only [Yields, pure_eq, pure_bind, releaseOperation, exec_bind, exec_unregister, exec_cancel, andThen_some, exec_pure]
  refine ⟨_, _, rfl, rfl, ?_, ?_⟩
  · exact (congrArg Session.tx kept).trans same
  · exact (first.trans second).trans ⟨(List.append_nil _).symm, rfl, rfl⟩

private theorem responseScratch_fits {buffer limit : UInt64} (holds : 16 ≤ buffer) (takes : 16 ≤ limit) :
    responseScratch buffer.toNat limit ≠ 0 ∧ ¬ UInt64.ofNat (responseScratch buffer.toNat limit) > limit := by
  have positive : 16 ≤ buffer.toNat := holds
  have wide : 16 ≤ limit.toNat := takes
  have nonzero : limit ≠ 0 := by
    rintro rfl
    exact absurd wide (by decide)
  unfold responseScratch
  split
  next fits =>
    have room := fits.resolve_left nonzero
    rw [UInt64.ofNat_toNat]
    exact ⟨by omega, UInt64.not_lt.mpr room⟩
  next =>
    rw [UInt64.ofNat_toNat]
    exact ⟨by omega, UInt64.not_lt.mpr (UInt64.le_refl _)⟩

theorem exec_answer_unasked (environment : Environment δ) (config : Config) (header : Header)
    (complete : world.session.tx.state = .inputComplete)
    (quiet : classify policy world.session.policy ≠ .responseExpected) :
    ∃ after, after.session.tx.state = .idle ∧ Handled world after (world.session.policy.map policy.reset) [] ∧ ∀ fuel,
      exec (handler policy environment) (answerProgramMessage config header (some ⟨.synchronous⟩) fuel) world =
        (some none, after) := by
  have completes : TxOp.complete.apply world.session.tx = (none, ⟨.idle, MessageID.noMessageID⟩) := by
    rw [TxOp.apply, Transaction.toWith, Transaction.moveTo, complete]
    rfl
  simp only [answerProgramMessage, exec_bind, exec_disposition, disposition_apply, andThen_some, if_pos quiet,
    exec_tx, World.session_setSession, completes]
  refine ⟨_, ?_, ?_, fun _ => rfl⟩
  · rfl
  · exact ⟨(List.append_nil _).symm, rfl, rfl⟩

private theorem exec_syncPending_ask (world : World σ δ) :
    exec (handler policy environment) syncPending world =
      (some (if world.session.pending then InputQueued.reader else .never), world) := by
  rw [Server.syncPending, exec_bind, exec_syncPending, andThen_some]
  split <;> rfl

private theorem operation_keeps (world : World σ δ) :
    Yields (handler policy environment) operation world fun _ after =>
      after.session.tx = world.session.tx ∧ after.environment = world.environment ∧ Continues world after [] :=
  ⟨_, _, rfl, rfl, rfl, (List.append_nil _).symm, rfl, rfl⟩

private theorem validate_accepts (policy : ResponsePolicy σ) (environment : Environment δ) (response : Response)
    (world : World σ δ) (nonempty : response.scratch ≠ 0) (fits : ¬ UInt64.ofNat response.scratch > world.session.maxTx)
    {sync async : MessageWriter} {queued : InputQueued} (first : response.sync = some sync)
    (second : response.async = some async) (asks : response.inputQueued = some queued) :
    ∃ checked, checked.sync = sync ∧ checked.async = async ∧ checked.messageID = response.messageID ∧
      0 < checked.scratch ∧
      exec (handler policy environment) response.validate world = (some (.ok checked), world) := by
  simp only [Response.validate, first, second, if_neg nonempty, exec_bind, exec_maxTx, andThen_some, if_neg fits,
    asks, pure_eq, exec_pure]
  exact ⟨_, rfl, rfl, rfl, Nat.pos_of_ne_zero nonempty, rfl⟩

private theorem exec_sendResponse (complete : world.session.tx.state = .inputComplete) {response : Response}
    {checked : CheckedResponse}
    (valid : exec (handler policy environment) response.validate world = (some (.ok checked), world)) (ctx : Ctx) :
    ∃ before, Responding before ∧ before.environment = world.environment ∧ Continues world before [] ∧
      ∀ fuel, exec (handler policy environment) (sendResponse ctx response fuel) world =
        andThen (exec (handler policy environment) (responseLoop ctx checked fuel 0) before)
          fun result after => exec (handler policy environment) (do
            session (.setResponsePending false)
            return result) after := by
  have expects : TxOp.expectResponse.apply world.session.tx =
      (none, { world.session.tx with state := .responsePending }) := by
    rw [TxOp.apply, Transaction.moveTo, complete]
    rfl
  simp only [sendResponse, exec_bind, valid, andThen_some, exec_tx, expects, exec_setResponsePending]
  refine ⟨_, ?_, ?_, ?_, fun fuel => rfl⟩
  · exact .inl rfl
  · rfl
  · exact ⟨(List.append_nil _).symm, rfl, rfl⟩

/-- A query with both writers installed comes to the response loop, and what
follows the loop does not depend on its fuel. -/
theorem exec_answer_query (profile : Profile) {header : Header} (async : world.session.asyncW = some ⟨.asynchronous⟩)
    (complete : world.session.tx.state = .inputComplete)
    (asked : classify policy world.session.policy = .responseExpected) :
    ∃ number checked before, checked.sync = ⟨.synchronous⟩ ∧ checked.async = ⟨.asynchronous⟩ ∧
      checked.messageID = header.messageID ∧ 0 < checked.scratch ∧ Responding before ∧
        before.environment = world.environment ∧
      Handled world before (world.session.policy.map policy.reset) [] ∧
      ∀ fuel, exec (handler policy environment)
          (answerProgramMessage profile.toConfig header (some ⟨.synchronous⟩) fuel) world =
        andThen (exec (handler policy environment) (responseLoop (.operation number) checked fuel 0) before)
          fun result after => exec (handler policy environment) (finishResponse number result) after := by
  have expected : ¬ classify policy world.session.policy ≠ .responseExpected := fun other => other asked
  simp only [answerProgramMessage, exec_bind, exec_disposition, disposition_apply, andThen_some, if_neg expected]
  obtain ⟨settled, isSettled⟩ : ∃ settled, settled = world.setSession
    { world.session with policy := world.session.policy.map policy.reset } := ⟨_, rfl⟩
  have reset : Handled world settled (world.session.policy.map policy.reset) [] := by
    rw [isSettled]
    exact ⟨(List.append_nil _).symm, rfl, rfl⟩
  have tx : settled.session.tx = world.session.tx := by rw [isSettled]; rfl
  rw [← isSettled]
  have starts : Yields (handler policy environment) operation settled _ := operation_keeps settled
  obtain ⟨number, begun, operates, kept, still, continues⟩ := starts
  have wired : setup begun.session = setup world.session := continues.setup.trans reset.setup
  have writer : begun.session.asyncW = some ⟨.asynchronous⟩ := (congrArg Setup.asyncW wired).trans async
  obtain ⟨nonempty, fits⟩ := responseScratch_fits profile.maxTxPayload_ge begun.session.transmits
  have listening : begun.session.tx.state = .inputComplete := by rw [kept, tx, complete]
  obtain ⟨checked, first, second, same, holds, valid⟩ := validate_accepts policy environment
    ⟨some ⟨.synchronous⟩, begun.session.asyncW, header.messageID,
      responseScratch profile.maxTxPayload.toNat begun.session.maxTx,
      some (if begun.session.pending then .reader else .never)⟩ begun nonempty fits rfl writer rfl
  obtain ⟨before, responding, unchanged, more, sends⟩ := exec_sendResponse listening valid (.operation number)
  refine ⟨number, checked, before, first, second, same, holds, responding, ?_, reset.after (continues.trans more),
    fun fuel => ?_⟩
  · rw [unchanged, still, isSettled]
    rfl
  · simp only [operates, andThen_some, exec_asyncWriter, exec_maxTx, exec_syncPending_ask, sends, andThen_assoc,
      exec_bind, pure_eq, exec_pure]
    congr 1
    funext result after
    obtain ⟨outcome, _ | err⟩ := result <;> simp only [finishResponse, exec_bind, pure_eq, exec_pure, andThen_some]

/-- Before the asynchronous loop has installed its writer a query is refused, and
the transaction stays where the message left it. -/
theorem exec_answer_unpaired (accepting : Accepting environment) (config : Config) (header : Header)
    (async : world.session.asyncW = none) (asked : classify policy world.session.policy = .responseExpected)
    (fuel : Nat) :
    Yields (handler policy environment) (answerProgramMessage config header (some ⟨.synchronous⟩) fuel) world fun _ after =>
      after.session.tx = world.session.tx ∧ setup after.session = setup world.session := by
  have expected : ¬ classify policy world.session.policy ≠ .responseExpected := fun other => other asked
  have asks : Yields (handler policy environment) (session .disposition) world fun disposition after =>
      ¬ disposition ≠ .responseExpected ∧ after.session.tx = world.session.tx ∧
        setup after.session = setup world.session := by
    refine ⟨_, _, exec_disposition world, ?_, ?_, ?_⟩
    · rwa [disposition_apply]
    · rw [disposition_apply]; rfl
    · rw [disposition_apply]; rfl
  refine asks.bind ?_
  rintro disposition settled ⟨sought, tx, kept⟩
  rw [if_neg sought]
  refine (operation_keeps settled).bind ?_
  rintro number begun ⟨same, -, continues⟩
  have missing : begun.session.asyncW = none := (congrArg Setup.asyncW (continues.setup.trans kept)).trans async
  have refused : ∀ response : Response, response.async = none → exec (handler policy environment)
      (sendResponse (.operation number) response fuel) begun =
        (some (ResponseOutcome.absent, some (Sentinel.invalidConfig : Err)), begun) := by
    rintro ⟨sync, _, _, _, _⟩ rfl
    cases sync <;> rfl
  have counting : Yields (handler policy environment) (countOutcome .absent) begun _ := countOutcome_keeps begun .absent
  obtain ⟨_, counted, counts, unchanged, more⟩ := counting
  have reporting : Yields (handler policy environment) (reportOperationError _ Sentinel.invalidConfig) counted _ :=
    reportError_keeps counted accepting _ _
  obtain ⟨result, after, reported, still, events, last⟩ := reporting
  refine ⟨result, ?_, ?_, ?_, ?_⟩
  rotate_left 1
  · simp only [exec_bind, exec_asyncWriter, exec_maxTx, exec_syncPending_ask, andThen_some, missing, refused, counts,
      reported, releaseOperation, exec_unregister, exec_cancel, pure_eq, exec_pure]
    rfl
  · exact (congrArg Session.tx (still.trans unchanged)).trans (same.trans tx)
  · exact (last.setup.trans more.setup).trans (continues.setup.trans kept)

end Answer

section Device
variable {world : World σ δ} (interrupted : Interrupted)

theorem afterWrite_failed (accepting : Accepting environment) (config : Config) (message : Message) (fuel : Nat)
    (err : Err) :
    Yields (handler policy environment) (afterWrite config message fuel interrupted (some err)) world fun _ after =>
      after.session.tx = world.session.tx ∧ setup after.session = setup world.session := by
  refine (countInterrupted_keeps world interrupted).bind ?_
  rintro _ counted ⟨same, -, -⟩
  refine (reportError_keeps counted accepting err _).mono ?_
  rintro _ after ⟨kept, -⟩
  rw [kept, same]
  exact ⟨rfl, rfl⟩

theorem exec_afterWrite (policy : ResponsePolicy σ) (environment : Environment δ) (config : Config) (message : Message)
    (world : World σ δ) :
    ∃ before, before.session.tx = world.session.tx ∧ before.environment = world.environment ∧
      Handled world before (heard policy message.payload world.session.policy) [] ∧
      ∀ fuel, exec (handler policy environment) (afterWrite config message fuel interrupted none) world =
        exec (handler policy environment)
          (if message.header.type ≠ .dataEnd then return none
            else answerProgramMessage config message.header (some ⟨.synchronous⟩) fuel) before := by
  have counting : Yields (handler policy environment) (countInterrupted interrupted) world _ :=
    countInterrupted_keeps world interrupted
  obtain ⟨_, counted, counts, same, still, continues⟩ := counting
  have tx : counted.session.tx = world.session.tx := congrArg Session.tx same
  simp only [afterWrite, exec_bind, counts, andThen_some, heard]
  by_cases empty : message.payload.length ≠ 0
  · simp only [if_pos empty, exec_bind, exec_feed, andThen_some]
    refine ⟨_, ?_, ?_, ?_, fun fuel => rfl⟩
    · exact tx
    · exact still
    · exact ⟨continues.trace, continues.setup, congrArg (Option.map _) continues.policy⟩
  · simp only [if_neg empty]
    exact ⟨counted, tx, still, .ofContinues continues, fun fuel => rfl⟩

theorem afterTrigger_failed (accepting : Accepting environment) (err : Err) :
    Yields (handler policy environment) (afterTrigger interrupted (some err)) world fun _ after =>
      after.session.tx = world.session.tx ∧ setup after.session = setup world.session := by
  refine (countInterrupted_keeps world interrupted).bind ?_
  rintro _ counted ⟨same, -, -⟩
  refine (reportError_keeps counted accepting err _).mono ?_
  rintro _ after ⟨kept, -⟩
  rw [kept, same]
  exact ⟨rfl, rfl⟩

theorem afterTrigger_done (complete : world.session.tx.state = .inputComplete) :
    Yields (handler policy environment) (afterTrigger interrupted none) world fun result after =>
      result = none ∧ after.session.tx.state = .idle ∧ Continues world after [] := by
  have completes : TxOp.complete.apply world.session.tx = (none, ⟨.idle, MessageID.noMessageID⟩) := by
    rw [TxOp.apply, Transaction.toWith, Transaction.moveTo, complete]
    rfl
  have moves : Yields (handler policy environment) (tx .complete) world fun err after =>
      err = none ∧ after.session.tx.state = .idle ∧ Continues world after [] := by
    simp only [Yields, exec_tx, completes]
    exact ⟨_, _, rfl, rfl, rfl, (List.append_nil _).symm, rfl, rfl⟩
  refine moves.bind ?_
  rintro _ moved ⟨rfl, idle, first⟩
  refine (countInterrupted_keeps moved interrupted).bind ?_
  rintro _ counted ⟨same, -, second⟩
  refine ⟨_, _, rfl, rfl, ?_, (first.trans second).trans ⟨(List.append_nil _).symm, rfl, rfl⟩⟩
  exact (congrArg (·.tx.state) same).trans idle

end Device

def deviceCall (message : Message) : EnvironmentOp :=
  if message.header.type = .trigger then .trigger .server
  else .write .server message.payload (message.header.type = .dataEnd)

/-- The device's reply to a program message; `none` when the call never returns. -/
def deviceReply (environment : Environment δ) (message : Message) (state : δ) : Option (Option Err) :=
  if message.header.type = .trigger then (environment (.trigger .server) state).1
  else (environment (.write .server message.payload (message.header.type = .dataEnd)) state).1

section Reply
variable {world : World σ δ} {message : ProgramMessage}

theorem handleSync_refused (accepting : Accepting environment) (wired : Wired (setup world.session)) (config : Config)
    (refused : ¬ WellFormed message.toMessage world.session.maxRx) (fuel : Nat) :
    Yields (handler policy environment) (handleSync config message.toMessage fuel) world fun _ after =>
      after.session = world.session := by
  have syncW : world.session.syncW = some ⟨.synchronous⟩ := wired.syncW
  cases read : message.err with
  | some err =>
    rw [Yields, handleSync, exec_bind, exec_syncWriter, andThen_some, read, syncW]
    exact (reportReadError_keeps world accepting err).mono fun _ _ kept => kept.1
  | none =>
    cases long : checkLength message.header.length world.session.maxRx with
    | none => exact absurd ⟨read, long⟩ refused
    | some err =>
      simp only [Yields, handleSync, exec_bind, exec_syncWriter, syncW, andThen_some, read,
        exec_discardDuringClear wired, Bool.false_eq_true, if_false, exec_accept wired.ready message, long]
      exact (reportAcceptError_keeps world accepting err).mono fun _ _ kept => kept.1

private theorem andThen_trace {α β : Type} (policy : ResponsePolicy σ) (environment : Environment δ) (reply : Option β)
    (world : World σ δ) (next : β → Act α) :
    ∃ later, (andThen (reply, world) fun value after => exec (handler policy environment) (next value) after).2.trace =
      world.trace ++ later := by
  cases reply with
  | none => exact ⟨[], (List.append_nil _).symm⟩
  | some value => exact exec_trace (next value) world

section Accepted
variable (policy) (wired : Wired (setup world.session)) (listening : Listening world) (config : Config)
  (fine : WellFormed message.toMessage world.session.maxRx)
include wired listening fine

theorem exec_handleSync_written (kind : message.header.type = .data ∨ message.header.type = .dataEnd)
    (accepted : deviceReply environment message.toMessage world.environment = some none) :
    ∃ call before, call.operation = deviceCall message.toMessage ∧
      before.session.tx = inputTx message.header world.session.tx ∧
      Handled world before (heard policy message.payload world.session.policy) [call] ∧
      ∀ fuel, exec (handler policy environment) (handleSync config message.toMessage fuel) world =
        exec (handler policy environment)
          (if message.header.type ≠ .dataEnd then return none
            else answerProgramMessage config message.header (some ⟨.synchronous⟩) fuel) before := by
  have other : ¬ message.header.type = .trigger := by
    obtain kind | kind := kind <;> rw [kind] <;> decide
  rw [deviceReply, if_neg other] at accepted
  obtain ⟨before, tx, -, handled, same⟩ := exec_afterWrite (judged message.header world) policy environment config
    message.toMessage ((taken message.header world).call environment (.write .server message.payload _))
  refine ⟨_, before, (if_neg other).symm, tx,
    (Handled.ofContinues ((taken_continues message.header world).call _)).trans handled, fun fuel => ?_⟩
  rw [exec_handleSync_data wired listening config fine kind, accepted, andThen_some]
  exact same fuel

theorem exec_handleSync_triggered (kind : message.header.type = .trigger)
    (accepted : deviceReply environment message.toMessage world.environment = some none) :
    ∃ call after, call.operation = deviceCall message.toMessage ∧ after.session.tx.state = .idle ∧
      Handled world after world.session.policy [call] ∧
      ∀ fuel, exec (handler policy environment) (handleSync config message.toMessage fuel) world =
        (some none, after) := by
  have other : ¬ message.header.type = .data := by rw [kind]; decide
  rw [deviceReply, if_pos kind] at accepted
  have complete : ((taken message.header world).call environment (.trigger .server)).session.tx.state =
    .inputComplete :=
    congrArg Transaction.state (if_neg other)
  have finishes : Yields (handler policy environment) (afterTrigger (judged message.header world) none) _ _ :=
    afterTrigger_done _ complete
  obtain ⟨_, after, same, rfl, idle, continues⟩ := finishes
  have whole := ((taken_continues message.header world).call (.trigger .server)).trans continues
  refine ⟨_, after, (if_pos kind).symm, idle, .ofContinues whole, fun fuel => ?_⟩
  rw [exec_handleSync_trigger wired listening config fine kind, accepted, andThen_some]
  exact same

/-- A device error leaves the transaction where the message took it. -/
theorem handleSync_rejected (accepting : Accepting environment) {err : Err}
    (rejected : deviceReply environment message.toMessage world.environment = some (some err)) (fuel : Nat) :
    Yields (handler policy environment) (handleSync config message.toMessage fuel) world fun _ after =>
      after.session.tx = inputTx message.header world.session.tx ∧ setup after.session = setup world.session := by
  by_cases kind : message.header.type = .trigger
  · rw [deviceReply, if_pos kind] at rejected
    rw [Yields, exec_handleSync_trigger wired listening config fine kind, rejected, andThen_some]
    exact afterTrigger_failed _ accepting err
  · rw [deviceReply, if_neg kind] at rejected
    rw [Yields, exec_handleSync_data wired listening config fine (ProgramMessage.written kind), rejected, andThen_some]
    exact afterWrite_failed _ accepting config message.toMessage fuel err

theorem handleSync_unanswered (silent : deviceReply environment message.toMessage world.environment = none)
    (fuel : Nat) :
    (exec (handler policy environment) (handleSync config message.toMessage fuel) world).1 = none := by
  by_cases kind : message.header.type = .trigger
  · rw [deviceReply, if_pos kind] at silent
    rw [exec_handleSync_trigger wired listening config fine kind, silent, andThen_none]
  · rw [deviceReply, if_neg kind] at silent
    rw [exec_handleSync_data wired listening config fine (ProgramMessage.written kind), silent, andThen_none]

theorem handleSync_reaches (fuel : Nat) :
    ∃ call later, call.operation = deviceCall message.toMessage ∧
      (exec (handler policy environment) (handleSync config message.toMessage fuel) world).2.trace =
        world.trace ++ call :: later := by
  by_cases kind : message.header.type = .trigger
  · rw [exec_handleSync_trigger wired listening config fine kind]
    obtain ⟨later, traced⟩ := andThen_trace policy environment (environment (.trigger .server) world.environment).1
      ((taken message.header world).call environment (.trigger .server)) (afterTrigger (judged message.header world))
    exact ⟨_, later, (if_pos kind).symm, traced.trans (List.append_assoc _ _ _)⟩
  · rw [exec_handleSync_data wired listening config fine (ProgramMessage.written kind)]
    obtain ⟨later, traced⟩ := andThen_trace policy environment
      (environment (.write .server message.payload (message.header.type = .dataEnd)) world.environment).1
      ((taken message.header world).call environment (.write .server message.payload (message.header.type = .dataEnd)))
      (afterWrite config message.toMessage fuel (judged message.header world))
    exact ⟨_, later, (if_neg kind).symm, traced.trans (List.append_assoc _ _ _)⟩

end Accepted

end Reply

end Hislip.Proofs.SyncChannel
