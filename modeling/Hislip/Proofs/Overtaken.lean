import Hislip.Discipline
import Hislip.Server.Async
import Hislip.Server.Execution
import Hislip.Proofs.Footprint

/-! A Device Clear that begins while a response is inside a device read. The
transaction refuses every transition of the response after that, and every exit of
the response loop but one asks the transaction first. -/

namespace Hislip.Proofs.Overtaken
open Hislip.Server Act Program Footprint

variable {σ δ : Type} {policy : ResponsePolicy σ} {environment : Environment δ} {response : CheckedResponse}
  {before world : World σ δ} {delivered : UInt64} {transaction : Transaction} {ctx : Ctx} {result : ReadResult}
  {fuel count : Nat}

def isRead : Op → Bool
  | .environment (.read _ _) => true
  | _ => false

private theorem isRead_eq (op : Op) : isRead op = decide (kind op = .deviceRead) := by
  cases op with
  | shared op =>
    cases op with
    | session op =>
      cases op with
      | tx op => cases op <;> rfl
      | _ => rfl
    | _ => rfl
  | environment op => cases op <;> rfl

private theorem unread {α : Type} {kinds : List Kind} {program : Act α} (within : Within kinds program)
    (other : Kind.deviceRead ∉ kinds) : Avoids isRead program := by
  refine within.avoids fun op member => ?_
  rw [isRead_eq, decide_eq_false_iff_not]
  intro same
  exact other (same ▸ member)

def answers (event : Event) : Bool :=
  match event.operation with
  | .send .synchronous header _ => header.type = .data || header.type = .dataEnd
  | _ => false

def answerBytes (event : Event) : Nat :=
  match event.operation with
  | .send .synchronous header payload => if header.type = .data ∨ header.type = .dataEnd then payload.length else 0
  | _ => 0

/-- What the response loop counts, in 64 bits, when it sends these parts. -/
def answerCount (events : List Event) : UInt64 := UInt64.ofNat (events.map answerBytes).sum

theorem answerCount_concat (events : List Event) (event : Event) :
    answerCount (events ++ [event]) = answerCount events + UInt64.ofNat (answerBytes event) := by
  rw [answerCount, List.map_append, List.sum_append, UInt64.ofNat_add]
  simp [answerCount]

def Between (before after : World σ δ) (events : List Event) : Prop := after.trace = before.trace ++ events

theorem Between.call {before after : World σ δ} {events : List Event} (between : Between before after events)
    (op : EnvironmentOp) : Between before (after.call environment op)
      (events ++ [⟨op, (environment op after.environment).1⟩]) := by
  rw [Between, World.trace_call, between, List.append_assoc]

/-- A response is between two reads: the transaction is in its response states
and `delivered` is the count of what was sent of the response. -/
structure Reading (start world : World σ δ) (delivered : UInt64) : Prop where
  state : world.session.state = start.session.state
  tx : world.session.tx.state = .responsePending ∨ world.session.tx.state = .sendingResponse
  sent : ∃ events, Between start world events ∧ delivered = answerCount events

private theorem tx_beginResponse
    (reading : transaction.state = .responsePending ∨ transaction.state = .sendingResponse) :
    TxOp.beginResponse.apply transaction = (none, { transaction with state := .sendingResponse }) := by
  obtain ⟨state, id⟩ := transaction
  obtain rfl | rfl := reading <;> rfl

theorem Reading.sendChunk {start world after : World σ δ} {sent : Nat} (reading : Reading start world delivered)
    (sync : response.sync.channel = .synchronous)
    (chunk : exec (handler policy environment) (sendChunk response result) world = (some (.ok sent), after))
    (more : result.last = false) : Reading start after (delivered + UInt64.ofNat sent) := by
  unfold Server.sendChunk at chunk
  by_cases empty : result.data.length = 0
  · simp only [empty, if_true, pure_eq, exec_pure] at chunk
    cases chunk
    have none_sent : delivered + UInt64.ofNat 0 = delivered := UInt64.add_zero delivered
    rw [none_sent]
    exact reading
  · have legal : (MessageType.data).legalOn response.sync.channel := by rw [sync]; decide
    simp only [empty, if_false, exec_bind, exec_tx, andThen_some, tx_beginResponse reading.tx, more,
      Bool.false_eq_true, not_false_eq_true, true_or, if_true] at chunk
    rw [MessageWriter.write_eq legal (.inr rfl), exec_environment, andThen_eq_some] at chunk
    obtain ⟨err, middle, wrote, done⟩ := chunk
    obtain ⟨replied, rfl⟩ := Prod.mk.inj wrote
    cases err with
    | some err => cases done
    | none =>
      cases done
      obtain ⟨events, between, told⟩ := reading.sent
      have called : Between start (world.setTx { world.session.tx with state := .sendingResponse }) events := between
      refine ⟨reading.state, .inr rfl, _, called.call _, ?_⟩
      rw [answerCount_concat, told, answerBytes, sync]
      rfl

theorem Reading.call {start world : World σ δ} (reading : Reading start world delivered) {op : EnvironmentOp}
    (silent : ∀ reply, answerBytes ⟨op, reply⟩ = 0) : Reading start (world.call environment op) delivered := by
  obtain ⟨events, between, told⟩ := reading.sent
  refine ⟨reading.state, reading.tx, _, between.call op, ?_⟩
  rw [answerCount_concat, silent, told]
  exact (UInt64.add_zero _).symm

theorem suspend_responseLoop {α : Type} (sync : response.sync.channel = .synchronous)
    {finish : ResponseOutcome × Option Err → Act α} (quiet : ∀ value, Avoids isRead (finish value))
    {start world inside : World σ δ} {rest : Act α} (reading : Reading start world delivered)
    (found : suspend (handler policy environment) isRead (responseLoop ctx response fuel delivered >>= finish) count
      world = some (rest, inside)) :
    ∃ left delivered, fuel = count + (left + 1) ∧ rest = responseLoop ctx response (left + 1) delivered >>= finish ∧
      Reading start inside delivered := by
  induction fuel generalizing count delivered world with
  | zero =>
    have avoids : Avoids isRead (responseLoop ctx response 0 delivered >>= finish) := ⟨rfl, fun reply => nomatch reply⟩
    rw [avoids.suspend] at found
    cases found
  | succ fuel ih =>
    simp only [responseLoop, Program.bind_assoc] at found
    cases count with
    | zero =>
      rw [Act.environment, suspend_perform_zero rfl] at found
      cases found
      refine ⟨fuel, delivered, by omega, ?_, reading⟩
      simp only [responseLoop, Program.bind_assoc]
      rfl
    | succ count =>
      obtain ⟨result, middle, read, remaining⟩ := suspend_perform_succ rfl found
      obtain ⟨-, rfl⟩ := Prod.mk.inj read
      have between : Reading start (world.call environment (.read ctx response.scratch)) delivered :=
        reading.call fun _ => rfl
      obtain ⟨chunk, after, sent, last⟩ := (unread (sendChunk_within response result) (by decide)).suspend_bind _ _ remaining
      cases chunk with
      | error failed =>
        have settled : suspend (handler policy environment) isRead (finish (failed.1, some failed.2)) count after =
          some (rest, inside) := last
        rw [(quiet _).suspend] at settled
        cases settled
      | ok sent =>
        simp only at last
        split at last
        next =>
          split at last
          next =>
            rw [((unread (completeAbsentResponse_within response) (by decide)).bind quiet).suspend] at last
            cases last
          next =>
            rw [((unread (completeTruncatedResponse_within response) (by decide)).bind quiet).suspend] at last
            cases last
        next =>
          split at last
          next =>
            rw [((unread (offerTerminator_within response result.data) (by decide)).bind quiet).suspend] at last
            cases last
          next more =>
            obtain ⟨left, delivered, total, rfl, now⟩ :=
              ih (between.sendChunk sync sent (by simpa using more)) last
            exact ⟨left, delivered, by omega, rfl, now⟩

def finishResponse (result : ResponseOutcome × Option Err) : Act (ResponseOutcome × Option Err) := do
  session (.setResponsePending false)
  return result

private theorem validate_ok {response : Response} {checked : CheckedResponse} {world after : World σ δ}
    (valid : exec (handler policy environment) response.validate world = (some (.ok checked), after)) :
    after = world ∧ response.sync = some checked.sync ∧ checked.scratch = response.scratch := by
  obtain ⟨sync, async, messageID, scratch, inputQueued⟩ := response
  unfold Response.validate at valid
  split at valid
  next =>
    split at valid
    next => cases valid
    next =>
      simp only [exec_bind, exec_maxTx, andThen_some] at valid
      split at valid
      next => cases valid
      next =>
        split at valid
        next found => cases valid; exact ⟨rfl, ‹_›, rfl⟩
        next => cases valid
  next => cases valid

private theorem tx_expectResponse (moved : (TxOp.expectResponse.apply transaction).1 = none) :
    (TxOp.expectResponse.apply transaction).2.state = .responsePending := by
  obtain ⟨state, id⟩ := transaction
  cases state <;> first | rfl | cases moved

theorem suspend_sendResponse {response : Response} (sync : response.sync = some ⟨.synchronous⟩)
    {world inside : World σ δ} {rest : Act (ResponseOutcome × Option Err)}
    (found : suspend (handler policy environment) isRead (sendResponse ctx response fuel) count world =
      some (rest, inside)) :
    ∃ checked left delivered, checked.sync = ⟨.synchronous⟩ ∧ checked.scratch = response.scratch ∧
      fuel = count + (left + 1) ∧ rest = responseLoop ctx checked (left + 1) delivered >>= finishResponse ∧
      Reading world inside delivered := by
  obtain ⟨checked | checked, after, valid, remaining⟩ :=
    (unread (validate_within response) (by decide)).suspend_bind _ _ found
  · cases remaining
  · obtain ⟨rfl, same, scratch⟩ := validate_ok valid
    have asks : Avoids isRead (tx .expectResponse) := session_avoids rfl
    obtain ⟨refused, middle, expected, looping⟩ := asks.suspend_bind _ _ remaining
    rw [exec_tx] at expected
    obtain ⟨moved, rfl⟩ := Prod.mk.inj expected
    cases refused with
    | some err => cases looping
    | none =>
      have notes : Avoids isRead (session (.setResponsePending true)) := session_avoids rfl
      obtain ⟨_, middle, pending, reads⟩ := notes.suspend_bind _ _ looping
      rw [exec_session] at pending
      obtain ⟨-, rfl⟩ := Prod.mk.inj pending
      have writer : checked.sync = ⟨.synchronous⟩ := Option.some.inj (same.symm.trans sync)
      have reading : Reading after ((after.setTx (TxOp.expectResponse.apply after.session.tx).2).setSession
          (SessionOp.apply policy (.setResponsePending true)
            (after.setTx (TxOp.expectResponse.apply after.session.tx).2).session).2) 0 :=
        ⟨rfl, .inl (tx_expectResponse (Option.some.inj moved)), [], (List.append_nil _).symm, rfl⟩
      have quiet : ∀ result, Avoids isRead (finishResponse result) := fun _ =>
        (session_avoids rfl).bind fun _ => trivial
      obtain ⟨left, delivered, total, rfl, now⟩ := suspend_responseLoop (by rw [writer]) quiet reading reads
      exact ⟨checked, left, delivered, writer, scratch, total, rfl, now⟩

theorem exec_abortOperation (policy : ResponsePolicy σ) (environment : Environment δ) (world : World σ δ) :
    ∃ after, exec (handler policy environment) abortOperation world = (some (), after) ∧
      after.session = { world.session with opCancel := none } ∧ after.trace = world.trace ∧
      after.environment = world.environment := by
  simp only [abortOperation, exec_bind, exec_abort, andThen_some]
  cases world.session.opCancel with
  | none => exact ⟨_, rfl, rfl, rfl, rfl⟩
  | some operation => exact ⟨_, rfl, rfl, rfl, rfl⟩

theorem beginDeviceClear_clears (policy : ResponsePolicy σ) (environment : Environment δ) (config : Config)
    {world : World σ δ} (ready : world.session.state = .ready)
    (reading : world.session.tx.state = .responsePending ∨ world.session.tx.state = .sendingResponse) :
    let cleared := (exec (handler policy environment) (beginDeviceClear config) world).2
    cleared.session.tx.state = .clearing ∧ cleared.trace = world.trace ∧ cleared.environment = world.environment := by
  have clears : TxOp.clear.apply world.session.tx = (none, { world.session.tx with state := .clearing }) := by
    generalize world.session.tx = transaction at reading ⊢
    obtain ⟨state, id⟩ := transaction
    obtain rfl | rfl := reading <;> rfl
  obtain ⟨after, aborted, session, trace, env⟩ := exec_abortOperation policy environment world
  simp only [beginDeviceClear, requireReady, exec_bind, exec_state, andThen_some, ready, pure_eq, exec_pure, aborted,
    exec_setResponsePending, exec_tx, World.session_setSession, session, clears, exec_beginClear]
  refine ⟨?_, trace, env⟩
  simp only [World.session_setSession, World.session_setTx, Session.beginClear]
  split <;> rfl

/-- The response is discarded: no part of it is sent any more, RMT-expected stays
as it was and the transaction stays in the Device Clear. -/
structure Discards (before after : World σ δ) : Prop where
  silent : ∃ events, Between before after events ∧ ∀ event ∈ events, answers event = false
  rmt : after.session.rmt = before.session.rmt
  clearing : after.session.tx.state = .clearing

namespace Discards

theorem refl {world : World σ δ} (clearing : world.session.tx.state = .clearing) : Discards world world :=
  ⟨⟨[], (List.append_nil _).symm, fun _ member => nomatch member⟩, rfl, clearing⟩

theorem call {before after : World σ δ} (discards : Discards before after) {op : EnvironmentOp}
    (silent : ∀ reply, answers ⟨op, reply⟩ = false) : Discards before (after.call environment op) := by
  obtain ⟨events, between, quiet⟩ := discards.silent
  refine ⟨⟨_, between.call op, fun event member => ?_⟩, discards.rmt, discards.clearing⟩
  obtain earlier | last := List.mem_append.mp member
  · exact quiet event earlier
  · cases List.mem_singleton.mp last
    exact silent _

end Discards

theorem not_discards_of_send {α : Type} (discards : Discards before world) {header : Header} {payload : Bytes}
    (part : header.type = .data ∨ header.type = .dataEnd) (next : Option Err → Act α) :
    ¬ Discards before (exec (handler policy environment)
      (Act.environment (.send .synchronous header payload) >>= next) world).2 := by
  intro later
  obtain ⟨events, between, -⟩ := discards.silent
  obtain ⟨all, whole, quiet⟩ := later.silent
  have sent : ∃ more, (exec (handler policy environment)
      (Act.environment (.send .synchronous header payload) >>= next) world).2.trace = world.trace ++
        [⟨.send .synchronous header payload, (environment (.send .synchronous header payload) world.environment).1⟩] ++
        more := by
    rw [exec_bind, exec_send, ← World.trace_call]
    cases (environment (.send .synchronous header payload) world.environment).1 with
    | none => exact ⟨[], (List.append_nil _).symm⟩
    | some err => exact exec_trace _ _
  obtain ⟨more, trace⟩ := sent
  rw [Between] at between whole
  rw [whole, between, List.append_assoc, List.append_assoc, List.append_cancel_left_eq] at trace
  have silent := quiet ⟨.send .synchronous header payload, _⟩
    (trace ▸ List.mem_append_right _ (List.mem_append_left _ (List.mem_singleton_self _)))
  obtain data | dataEnd := part
  · simp [answers, data] at silent
  · simp [answers, dataEnd] at silent

private theorem exec_tx_refused {world : World σ δ} (clearing : world.session.tx.state = .clearing) :
    exec (handler policy environment) (tx .beginResponse) world =
      (some (some (Sentinel.invalidTransition : Err)), world) ∧
      exec (handler policy environment) (tx .interrupt) world =
        (some (some (Sentinel.invalidTransition : Err)), world) := by
  have refuses : ∀ transaction : Transaction, transaction.state = .clearing →
      TxOp.beginResponse.apply transaction = (some (Sentinel.invalidTransition : Err), transaction) ∧
        TxOp.interrupt.apply transaction = (some (Sentinel.invalidTransition : Err), transaction) := by
    rintro ⟨state, id⟩ rfl
    exact ⟨rfl, rfl⟩
  obtain ⟨first, second⟩ := refuses _ clearing
  rw [exec_tx, exec_tx, first, second]
  exact ⟨rfl, rfl⟩

section Exits
variable {before world : World σ δ} {response : CheckedResponse}

theorem offerTerminator_discards (discards : Discards before world) (final : Bytes) :
    Discards before (exec (handler policy environment) (offerTerminator response final) world).2 := by
  obtain ⟨sync, async, messageID, scratch, inputQueued⟩ := response
  cases inputQueued with
  | never =>
    simp only [offerTerminator, InputQueued.ask, exec_bind, pure_eq, exec_pure, andThen_some, Bool.false_eq_true,
      if_false, (exec_tx_refused discards.clearing).1]
    exact discards
  | reader =>
    have asked : Discards before (world.call environment .pending) := discards.call fun _ => rfl
    simp only [offerTerminator, InputQueued.ask, exec_bind, exec_pending]
    cases (environment .pending world.environment).1 with
    | none => exact asked
    | some queued =>
      cases queued with
      | true =>
        simp only [andThen_some, if_true, sendInterrupted, exec_bind, (exec_tx_refused asked.clearing).2, pure_eq, exec_pure]
        exact asked
      | false =>
        simp only [andThen_some, Bool.false_eq_true, if_false, exec_bind, (exec_tx_refused asked.clearing).1, pure_eq,
          exec_pure]
        exact asked

def timeoutHeader (text : Bytes) : Header :=
  { type := .error, control := ErrorCode.responseTimeout, length := UInt64.ofNat text.length }

private theorem exec_writeError_timeout (sync : response.sync = ⟨.synchronous⟩) (text : Bytes) (world : World σ δ) :
    exec (handler policy environment) (response.sync.writeError ErrorCode.responseTimeout text) world =
      ((environment (.send .synchronous (timeoutHeader text) text) world.environment).1,
        world.call environment (.send .synchronous (timeoutHeader text) text)) := by
  rw [sync, MessageWriter.writeError, MessageWriter.write_eq (by decide) (.inl rfl), exec_send]
  rfl

theorem completeAbsentResponse_discards (discards : Discards before world) (sync : response.sync = ⟨.synchronous⟩) :
    Discards before (exec (handler policy environment) (completeAbsentResponse response) world).2 := by
  rw [completeAbsentResponse, exec_bind, exec_writeError_timeout sync]
  generalize ascii "no response from instrument" = text
  have reported : Discards before (world.call environment (.send .synchronous (timeoutHeader text) text)) :=
    discards.call fun _ => rfl
  cases (environment (.send .synchronous (timeoutHeader text) text) world.environment).1 with
  | none => exact reported
  | some err =>
    cases err with
    | some err => exact reported
    | none =>
      simp only [andThen_some, exec_bind, (exec_tx_refused reported.clearing).1, pure_eq, exec_pure]
      exact reported

/-- The one exit that does not ask the transaction: once the report is accepted
the terminator follows. -/
theorem completeTruncatedResponse_discards_iff (discards : Discards before world)
    (sync : response.sync = ⟨.synchronous⟩) :
    Discards before (exec (handler policy environment) (completeTruncatedResponse response) world).2 ↔
      (environment (.send .synchronous (timeoutHeader (ascii "response truncated")) (ascii "response truncated"))
        world.environment).1 ≠ some none := by
  rw [completeTruncatedResponse, exec_bind, exec_writeError_timeout sync]
  generalize ascii "response truncated" = text
  have reported : Discards before (world.call environment (.send .synchronous (timeoutHeader text) text)) :=
    discards.call fun _ => rfl
  cases (environment (.send .synchronous (timeoutHeader text) text) world.environment).1 with
  | none => exact iff_of_true reported nofun
  | some err =>
    cases err with
    | some err => exact iff_of_true reported nofun
    | none =>
      refine iff_of_false ?_ (fun differs => differs rfl)
      obtain ⟨next, terminator⟩ : ∃ next, terminate response [] >>= (fun err => Pure.pure (ResponseOutcome.truncated, err)) =
          Act.environment (.send .synchronous
            { type := .dataEnd, parameter := response.messageID, length := UInt64.ofNat ([] : Bytes).length } []) >>=
            next := by
        have legal : MessageType.dataEnd.legalOn .synchronous := by decide
        rw [terminate, sync, MessageWriter.write_eq legal (.inl rfl), Program.bind_assoc]
        exact ⟨_, rfl⟩
      simp only [andThen_some, terminator]
      exact not_discards_of_send reported (.inr rfl) _

end Exits

/-- Within `fuel` reads the device answers with nothing until a read fails without
bytes, and the stream accepts the report of that. -/
def FailsEmpty (environment : Environment δ) (ctx : Ctx) (size : Nat) : Nat → δ → Prop
  | 0, _ => False
  | fuel + 1, device =>
    match environment (.read ctx size) device with
    | (none, _) => False
    | (some result, after) =>
      result.data = [] ∧
        match result.err with
        | some _ =>
          (environment (.send .synchronous (timeoutHeader (ascii "response truncated")) (ascii "response truncated"))
            after).1 = some none
        | none => result.last = false ∧ FailsEmpty environment ctx size fuel after

theorem sendChunk_refused (discards : Discards before world) (bytes : result.data ≠ []) :
    exec (handler policy environment) (sendChunk response result) world =
      (some (.error (.absent, (Sentinel.invalidTransition : Err))), world) := by
  have some_bytes : ¬ result.data.length = 0 := fun zero => bytes (List.eq_nil_of_length_eq_zero zero)
  simp only [sendChunk, some_bytes, if_false, exec_bind, (exec_tx_refused discards.clearing).1, andThen_some, pure_eq,
    exec_pure]

/-- After the Device Clear the loop discards the response, unless bytes were
delivered before it and a read then fails without bytes. -/
theorem responseLoop_discards_iff (sync : response.sync = ⟨.synchronous⟩) (fuel : Nat) (delivered : UInt64)
    (discards : Discards before world) :
    Discards before (exec (handler policy environment) (responseLoop ctx response fuel delivered) world).2 ↔
      ¬ (delivered ≠ 0 ∧ FailsEmpty environment ctx response.scratch fuel world.environment) := by
  induction fuel generalizing world with
  | zero =>
    have stuck : Discards before (world.call environment .exhausted) := discards.call fun _ => rfl
    rw [responseLoop, exec_exhausted]
    exact iff_of_true stuck (fun fails => fails.2)
  | succ fuel ih =>
    have read : Discards before (world.call environment (.read ctx response.scratch)) := discards.call fun _ => rfl
    simp only [responseLoop, exec_bind, exec_read, FailsEmpty]
    cases replied : environment (.read ctx response.scratch) world.environment with
    | mk reply after =>
      have now : (world.call environment (.read ctx response.scratch)).environment = after := by
        rw [World.environment_call, replied]
      generalize world.call environment (.read ctx response.scratch) = middle at read now ⊢
      subst now
      cases reply with
      | none => exact iff_of_true read (fun fails => fails.2)
      | some result =>
        simp only [andThen_some]
        by_cases empty : result.data = []
        · have skipped : exec (handler policy environment) (sendChunk response result) middle =
          (some (.ok 0), middle) := by
            simp only [sendChunk, empty, List.length_nil, if_true, pure_eq, exec_pure]
          have none_sent : delivered + UInt64.ofNat 0 = delivered := UInt64.add_zero delivered
          simp only [skipped, andThen_some, none_sent, empty, true_and]
          cases result.err with
          | some err =>
            by_cases first : delivered = 0
            · simp only [first, if_true]
              exact iff_of_true (completeAbsentResponse_discards read sync) (fun fails => fails.1 rfl)
            · simp only [ne_eq, first, if_false, not_false_eq_true, true_and]
              exact completeTruncatedResponse_discards_iff read sync
          | none =>
            cases result.last with
            | true =>
              simp only [if_true]
              exact iff_of_true (offerTerminator_discards read _) (fun fails => nomatch fails.2.1)
            | false =>
              simp only [Bool.false_eq_true, if_false, true_and]
              exact ih read
        · rw [sendChunk_refused read empty]
          exact iff_of_true read (fun fails => empty fails.2.1)

/-- A part of the response was sent between two worlds, as far as its 64-bit count tells. -/
def Delivered (before after : World σ δ) : Prop := ∃ events, Between before after events ∧ answerCount events ≠ 0

/-- A Device Clear begins inside a read of a response. The response is discarded,
unless a part of it was sent before and the next read to return anything fails
without bytes while the stream still accepts the report of that. -/
theorem overtaken_response_discarded_iff (policy : ResponsePolicy σ) (environment : Environment δ) (config : Config)
    (ctx : Ctx) (response : Response) (fuel count : Nat) (world inside : World σ δ)
    (rest : Act (ResponseOutcome × Option Err)) (ready : world.session.state = .ready)
    (sync : response.sync = some ⟨.synchronous⟩)
    (reading : suspend (handler policy environment) isRead (sendResponse ctx response fuel) count world =
      some (rest, inside)) :
    let cleared := (exec (handler policy environment) (beginDeviceClear config) inside).2
    Discards cleared (exec (handler policy environment) rest cleared).2 ↔
      ¬ (Delivered world inside ∧
        FailsEmpty environment ctx response.scratch (fuel - count) cleared.environment) := by
  intro cleared
  obtain ⟨checked, left, delivered, writer, scratch, total, rfl, now⟩ := suspend_sendResponse sync reading
  obtain ⟨clearing, -, -⟩ := beginDeviceClear_clears policy environment config (now.state.trans ready) now.tx
  have told : delivered ≠ 0 ↔ Delivered world inside := by
    obtain ⟨events, between, told⟩ := now.sent
    rw [told]
    refine ⟨fun answered => ⟨events, between, answered⟩, ?_⟩
    rintro ⟨others, same, answered⟩
    cases List.append_cancel_left (between.symm.trans same)
    exact answered
  have finished : ∀ program : Act (ResponseOutcome × Option Err),
      Discards cleared (exec (handler policy environment) (program >>= finishResponse) cleared).2 ↔
        Discards cleared (exec (handler policy environment) program cleared).2 := by
    intro program
    rw [exec_bind]
    obtain ⟨result | result, final⟩ := exec (handler policy environment) program cleared
    · exact Iff.rfl
    · exact ⟨fun discards => ⟨discards.silent, discards.rmt, discards.clearing⟩,
        fun discards => ⟨discards.silent, discards.rmt, discards.clearing⟩⟩
  rw [finished, responseLoop_discards_iff writer (left + 1) delivered (Discards.refl clearing), told, scratch]
  rw [show fuel - count = left + 1 by omega]

def queried (reads : List ReadResult) : World Unit (List ReadResult) where
  shared :=
    { session :=
        { Session.paired .standard alwaysReadPolicy 1 .version10 Version.version10_current 0 1 with tx := ⟨.inputComplete, 7⟩ } }
  environment := reads

def queriedResponse : Response where
  sync := some ⟨.synchronous⟩
  async := some ⟨.asynchronous⟩
  messageID := 7
  scratch := 16
  inputQueued := some .reader

/-- The first read is overtaken and fails. -/
theorem overtaken_response_discarded_absent :
    ∃ rest inside,
      suspend (handler alwaysReadPolicy scripted) isRead (sendResponse .server queriedResponse 2) 0
          (queried [⟨[], false, some (.other [] [])⟩]) = some (rest, inside) ∧
        let cleared := (exec (handler alwaysReadPolicy scripted) (beginDeviceClear Profile.standard.toConfig) inside).2
        Discards cleared (exec (handler alwaysReadPolicy scripted) rest cleared).2 := by
  refine ⟨_, _, rfl, ?_⟩
  refine (overtaken_response_discarded_iff alwaysReadPolicy scripted Profile.standard.toConfig .server queriedResponse 2 0
    (queried [⟨[], false, some (.other [] [])⟩]) _ _ rfl rfl rfl).mpr ?_
  rintro ⟨⟨events, between, sent⟩, -⟩
  cases List.append_cancel_left (between.symm.trans (List.append_nil _).symm)
  exact sent rfl

/-- One byte is sent, the second read is overtaken by the Device Clear and fails:
the terminator goes out all the same, RMT-expected is raised and the transaction is
idle before the Device Clear has completed. -/
theorem overtaken_response_terminated :
    ∃ rest inside,
      suspend (handler alwaysReadPolicy scripted) isRead (sendResponse .server queriedResponse 2) 1
          (queried [⟨[65], false, none⟩, ⟨[], false, some (.other [] [])⟩]) = some (rest, inside) ∧
        let cleared := (exec (handler alwaysReadPolicy scripted) (beginDeviceClear Profile.standard.toConfig) inside).2
        let final := (exec (handler alwaysReadPolicy scripted) rest cleared).2
        (final.trace.drop cleared.trace.length).any answers ∧ final.session.rmt.expected ∧
          final.session.tx.state = .idle := by
  refine ⟨_, _, rfl, ?_⟩
  decide

end Hislip.Proofs.Overtaken
