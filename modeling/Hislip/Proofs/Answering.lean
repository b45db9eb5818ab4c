import Hislip.Server.Data
import Hislip.Server.Execution

/-! One response, run alone on streams that accept every message: whatever the
device's reads return, it sends intermediate messages and then exactly one end of
response, and leaves the transaction idle. -/

namespace Hislip.Proofs.Answering
open Hislip.Server Act Program

variable {σ δ : Type} {policy : ResponsePolicy σ} {environment : Environment δ}

/-- The streams accept every message, and asking the reader never blocks. -/
structure Accepting (environment : Environment δ) : Prop where
  send : ∀ channel header payload state, (environment (.send channel header payload) state).1 = some none
  pending : ∀ state, (environment .pending state).1 ≠ none

/-- The part of a session that handling program messages does not touch. -/
structure Setup where
  state : State
  version : Version
  maxRx : UInt64
  maxTx : UInt64
  syncW : Option MessageWriter
  asyncW : Option MessageWriter
  pending : Bool

def setup (session : Session σ) : Setup where
  state := session.state
  version := session.version
  maxRx := session.maxRx
  maxTx := session.maxTx
  syncW := session.syncW
  asyncW := session.asyncW
  pending := session.pending

/-- A part of a run that adds these events and keeps the setup and the policy. -/
structure Continues (before after : World σ δ) (events : List Event) : Prop where
  trace : after.trace = before.trace ++ events
  setup : setup after.session = setup before.session
  policy : after.session.policy = before.session.policy

namespace Continues

theorem refl (world : World σ δ) : Continues world world [] := ⟨(List.append_nil _).symm, rfl, rfl⟩

theorem trans {first middle last : World σ δ} {events later : List Event} (one : Continues first middle events)
    (two : Continues middle last later) : Continues first last (events ++ later) :=
  ⟨by rw [two.trace, one.trace, List.append_assoc], two.setup.trans one.setup, two.policy.trans one.policy⟩

theorem call {before after : World σ δ} {events : List Event} (continues : Continues before after events)
    (op : EnvironmentOp) :
    Continues before (after.call environment op) (events ++ [⟨op, (environment op after.environment).1⟩]) :=
  ⟨by rw [World.trace_call, continues.trace, List.append_assoc], continues.setup, continues.policy⟩

end Continues

def working (event : Event) : Bool :=
  match event.operation with
  | .read _ _ => true
  | .pending => true
  | .send .synchronous header _ =>
    header.type = .data || header.type = .error && header.control = ErrorCode.responseTimeout
  | _ => false

/-- The end of the response to a message: its DataEnd, or the two messages that
announce an interrupted response. -/
inductive Ending (id : MessageID) : List Event → Prop where
  | dataEnd {event : Event} (payload : Bytes) (sent : event.operation =
      .send .synchronous { type := .dataEnd, parameter := id, length := UInt64.ofNat payload.length } payload) :
      Ending id [event]
  | interrupted {first second : Event}
      (announced : first.operation = .send .asynchronous { type := .asyncInterrupted, parameter := id } [])
      (sent : second.operation = .send .synchronous { type := .interrupted, parameter := id } []) :
      Ending id [first, second]

def Answered (id : MessageID) (events : List Event) : Prop :=
  ∃ work last, events = work ++ last ∧ (∀ event ∈ work, working event) ∧ Ending id last

theorem Answered.after {id : MessageID} {work events : List Event} (works : ∀ event ∈ work, working event)
    (answered : Answered id events) : Answered id (work ++ events) := by
  obtain ⟨more, last, rfl, working, ending⟩ := answered
  refine ⟨work ++ more, last, (List.append_assoc _ _ _).symm, fun event member => ?_, ending⟩
  exact (List.mem_append.mp member).elim (works event) (working event)

theorem Ending.answered {id : MessageID} {events : List Event} (ending : Ending id events) : Answered id events :=
  ⟨[], events, rfl, fun _ member => (nomatch member), ending⟩

/-- The response has ended: no error, an idle transaction, one whole response. -/
def Ended (id : MessageID) (before : World σ δ) (err : Option Err) (after : World σ δ) : Prop :=
  err = none ∧ after.session.tx.state = .idle ∧ ∃ events, Continues before after events ∧ Answered id events

theorem Ended.after {id : MessageID} {first before after : World σ δ} {err : Option Err} {work : List Event}
    (continues : Continues first before work) (works : ∀ event ∈ work, working event)
    (ended : Ended id before err after) : Ended id first err after := by
  obtain ⟨clean, idle, events, more, answered⟩ := ended
  exact ⟨clean, idle, _, continues.trans more, answered.after works⟩

def Responding (world : World σ δ) : Prop :=
  world.session.tx.state = .responsePending ∨ world.session.tx.state = .sendingResponse

theorem tx_responding {transaction : Transaction}
    (responding : transaction.state = .responsePending ∨ transaction.state = .sendingResponse) :
    TxOp.beginResponse.apply transaction = (none, { transaction with state := .sendingResponse }) ∧
      TxOp.interrupt.apply transaction = (none, { transaction with state := .interrupted }) ∧
      TxOp.complete.apply transaction = (none, ⟨.idle, MessageID.noMessageID⟩) := by
  obtain ⟨state, id⟩ := transaction
  obtain rfl | rfl := responding <;> exact ⟨rfl, rfl, rfl⟩

theorem exec_write_accepted (accepting : Accepting environment) {writer : MessageWriter} {header : Header}
    {payload : Bytes} (legal : header.type.legalOn writer.channel)
    (agrees : header.length = 0 ∨ header.length = UInt64.ofNat payload.length) (world : World σ δ) :
    exec (handler policy environment) (writer.write header payload) world =
      (some none, world.call environment
        (.send writer.channel { header with length := UInt64.ofNat payload.length } payload)) := by
  rw [MessageWriter.write_eq legal agrees, exec_send, accepting.send]

theorem beginResponse_moves {world : World σ δ} (responding : Responding world) :
    Yields (handler policy environment) (tx .beginResponse) world fun err after =>
      err = none ∧ Responding after ∧ after.environment = world.environment ∧ Continues world after [] := by
  simp only [Yields, exec_tx, (tx_responding responding).1]
  exact ⟨_, _, rfl, rfl, .inr rfl, rfl, ⟨(List.append_nil _).symm, rfl, rfl⟩⟩

section Exits
variable {world : World σ δ} {response : CheckedResponse}

section
variable (accepting : Accepting environment) (sync : response.sync = ⟨.synchronous⟩)
include accepting sync

theorem terminate_ends (responding : Responding world) (final : Bytes) :
    Yields (handler policy environment) (terminate response final) world (Ended response.messageID world) := by
  have legal : MessageType.dataEnd.legalOn response.sync.channel := by rw [sync]; decide
  have completes := (tx_responding responding).2.2
  simp only [Yields, terminate, exec_bind, exec_write_accepted accepting, legal, or_true, andThen_some, exec_rmt,
    exec_setLastTx, exec_tx, World.session_setSession, World.session_call, completes]
  refine ⟨_, _, rfl, rfl, rfl, _, ⟨rfl, rfl, rfl⟩, Ending.answered (.dataEnd final ?_)⟩
  rw [sync]

private theorem writeError_works (text : Bytes) (world : World σ δ) :
    Yields (handler policy environment) (response.sync.writeError ErrorCode.responseTimeout text) world fun err after =>
      err = none ∧ after.session = world.session ∧ ∃ events, Continues world after events ∧
        ∀ event ∈ events, working event := by
  have legal : MessageType.error.legalOn response.sync.channel := by rw [sync]; decide
  simp only [Yields, MessageWriter.writeError, exec_write_accepted accepting, legal, true_or]
  refine ⟨_, _, rfl, rfl, rfl, _, (Continues.refl world).call _, fun event member => ?_⟩
  cases List.mem_singleton.mp member
  simp [working, sync]

theorem completeTruncatedResponse_ends (responding : Responding world) :
    Yields (handler policy environment) (completeTruncatedResponse response) world
      fun result => Ended response.messageID world result.2 := by
  refine (writeError_works accepting sync _ world).bind ?_
  rintro _ middle ⟨rfl, same, events, continues, works⟩
  have still : Responding middle := by rwa [Responding, same]
  exact (terminate_ends accepting sync still []).bind fun err after ended =>
    ⟨_, _, rfl, ended.after continues works⟩

theorem completeAbsentResponse_ends (responding : Responding world) :
    Yields (handler policy environment) (completeAbsentResponse response) world
      fun result => Ended response.messageID world result.2 := by
  refine (writeError_works accepting sync _ world).bind ?_
  rintro _ middle ⟨rfl, same, events, continues, works⟩
  have still : Responding middle := by rwa [Responding, same]
  refine (beginResponse_moves still).bind ?_
  rintro _ begun ⟨rfl, responding, -, moved⟩
  exact (terminate_ends accepting sync responding []).bind fun err after ended =>
    ⟨_, _, rfl, (ended.after moved fun _ member => nomatch member).after continues works⟩

theorem sendInterrupted_ends (async : response.async = ⟨.asynchronous⟩) (responding : Responding world) :
    Yields (handler policy environment) (sendInterrupted response) world (Ended response.messageID world) := by
  have announced : MessageType.asyncInterrupted.legalOn response.async.channel := by rw [async]; decide
  have sent : MessageType.interrupted.legalOn response.sync.channel := by rw [sync]; decide
  have moves := (tx_responding responding).2.1
  have completes : TxOp.complete.apply { world.session.tx with state := .interrupted } =
    (none, ⟨.idle, MessageID.noMessageID⟩) := rfl
  simp only [Yields, sendInterrupted, exec_bind, exec_tx, moves, andThen_some, exec_setResponsePending,
    exec_write_accepted accepting, announced, sent, true_or, World.session_setSession, World.session_setTx,
    World.session_call, completes]
  refine ⟨_, _, rfl, rfl, rfl, _, ⟨List.append_assoc _ _ _, rfl, rfl⟩, Ending.answered (.interrupted ?_ ?_)⟩
  · rw [async]
    rfl
  · rw [sync]
    rfl

theorem offerTerminator_ends (async : response.async = ⟨.asynchronous⟩) (responding : Responding world)
    (final : Bytes) :
    Yields (handler policy environment) (offerTerminator response final) world
      fun result => Ended response.messageID world result.2 := by
  have asks : Yields (handler policy environment) response.inputQueued.ask world fun _ after =>
      after.session = world.session ∧ ∃ events, Continues world after events ∧ ∀ event ∈ events, working event := by
    cases response.inputQueued with
    | never => exact ⟨_, _, rfl, rfl, [], .refl world, fun _ member => nomatch member⟩
    | reader =>
      obtain ⟨queued, replied⟩ := Option.ne_none_iff_exists'.mp (accepting.pending world.environment)
      refine ⟨queued, world.call environment .pending, ?_, rfl, _, (Continues.refl world).call .pending,
        fun event member => ?_⟩
      · rw [InputQueued.ask, exec_pending, replied]
      · cases List.mem_singleton.mp member
        rfl
  refine asks.bind ?_
  rintro queued middle ⟨same, events, continues, works⟩
  have still : Responding middle := by rwa [Responding, same]
  cases queued with
  | true =>
    exact (sendInterrupted_ends accepting sync async still).bind fun err after ended =>
      ⟨_, _, rfl, ended.after continues works⟩
  | false =>
    refine (beginResponse_moves still).bind ?_
    rintro _ begun ⟨rfl, responding, -, moved⟩
    exact (terminate_ends accepting sync responding final).bind fun err after ended =>
      ⟨_, _, rfl, (ended.after moved fun _ member => nomatch member).after continues works⟩

end

end Exits

def decisive (result : ReadResult) : Bool := result.last || result.err.isSome

section Loop
variable {world : World σ δ} {response : CheckedResponse} {ctx : Ctx}

theorem sendChunk_works (accepting : Accepting environment) (sync : response.sync = ⟨.synchronous⟩)
    (responding : Responding world) (result : ReadResult) :
    Yields (handler policy environment) (sendChunk response result) world fun sent after =>
      (∃ count, sent = .ok count) ∧ Responding after ∧
        (after.environment = world.environment ∨ ∃ header payload,
          after.environment = (environment (.send .synchronous header payload) world.environment).2) ∧
        ∃ events, Continues world after events ∧ ∀ event ∈ events, working event := by
  unfold sendChunk
  split
  next => exact ⟨_, _, rfl, ⟨_, rfl⟩, responding, .inl rfl, [], .refl world, fun _ member => nomatch member⟩
  next =>
    refine (beginResponse_moves responding).bind ?_
    rintro _ begun ⟨rfl, responding, same, moved⟩
    simp only
    split
    next =>
      have legal : MessageType.data.legalOn response.sync.channel := by rw [sync]; decide
      simp only [Yields, exec_bind, exec_write_accepted accepting, legal, or_true, andThen_some]
      refine ⟨_, _, rfl, ⟨_, rfl⟩, responding, .inr
        ⟨{ type := .data, parameter := response.messageID, length := UInt64.ofNat result.data.length }, result.data, ?_⟩,
        _, moved.call _, fun event member => ?_⟩
      · rw [World.environment_call, same, sync]
      · cases List.mem_singleton.mp member
        simp [working, sync]
    next => exact ⟨_, _, rfl, ⟨_, rfl⟩, responding, .inl same, [], moved, fun _ member => nomatch member⟩

private theorem read_works (environment : Environment δ) (ctx : Ctx) (response : CheckedResponse) (world : World σ δ) :
    Continues world (world.call environment (.read ctx response.scratch))
        [⟨.read ctx response.scratch, (environment (.read ctx response.scratch) world.environment).1⟩] ∧
      ∀ event ∈ [(⟨.read ctx response.scratch, (environment (.read ctx response.scratch) world.environment).1⟩ : Event)],
        working event := by
  refine ⟨(Continues.refl world).call _, fun event member => ?_⟩
  cases List.mem_singleton.mp member
  rfl

/-- A decisive read ends the response, whatever is left of the loop's fuel. -/
theorem responseLoop_last (policy : ResponsePolicy σ) (accepting : Accepting environment)
    (sync : response.sync = ⟨.synchronous⟩)
    (async : response.async = ⟨.asynchronous⟩) (responding : Responding world) (delivered : UInt64) {result : ReadResult}
    (read : (environment (.read ctx response.scratch) world.environment).1 = some result) (ends : decisive result) :
    ∃ value after, (∀ fuel, exec (handler policy environment) (responseLoop ctx response (fuel + 1) delivered) world =
      (some value, after)) ∧ Ended response.messageID world value.2 after := by
  obtain ⟨continues, works⟩ := read_works environment ctx response world
  have begun : Responding (world.call environment (.read ctx response.scratch)) := responding
  have chunks : Yields (handler policy environment) (sendChunk response result) _ _ :=
    sendChunk_works accepting sync begun result
  obtain ⟨_, middle, chunk, ⟨sent, rfl⟩, still, -, events, more, working⟩ := chunks
  cases failed : result.err with
  | some err =>
    have exits : Yields (handler policy environment)
        (if delivered + UInt64.ofNat sent = 0 then completeAbsentResponse response else completeTruncatedResponse response) middle
        fun result => Ended response.messageID middle result.2 := by
      split
      next => exact completeAbsentResponse_ends accepting sync still
      next => exact completeTruncatedResponse_ends accepting sync still
    obtain ⟨value, after, same, ended⟩ := exits
    refine ⟨value, after, fun fuel => ?_, (ended.after more working).after continues works⟩
    rw [responseLoop, exec_bind, exec_read, read, andThen_some, exec_bind, chunk, andThen_some]
    simp only [failed]
    exact same
  | none =>
    have last : result.last = true := by simpa [decisive, failed] using ends
    obtain ⟨value, after, same, ended⟩ := offerTerminator_ends accepting sync async still result.data
    refine ⟨value, after, fun fuel => ?_, (ended.after more working).after continues works⟩
    rw [responseLoop, exec_bind, exec_read, read, andThen_some, exec_bind, chunk, andThen_some]
    simp only [failed, last, if_true]
    exact same

theorem responseLoop_more (policy : ResponsePolicy σ) (accepting : Accepting environment)
    (sync : response.sync = ⟨.synchronous⟩) (responding : Responding world) (delivered : UInt64) {result : ReadResult}
    (read : (environment (.read ctx response.scratch) world.environment).1 = some result)
    (continues : decisive result = false) :
    ∃ total after events, (∀ fuel, exec (handler policy environment) (responseLoop ctx response (fuel + 1) delivered) world =
        exec (handler policy environment) (responseLoop ctx response fuel total) after) ∧
      Responding after ∧ Continues world after events ∧ (∀ event ∈ events, working event) ∧
      (after.environment = (environment (.read ctx response.scratch) world.environment).2 ∨ ∃ header payload,
        after.environment = (environment (.send .synchronous header payload)
          (environment (.read ctx response.scratch) world.environment).2).2) := by
  obtain ⟨first, works⟩ := read_works environment ctx response world
  have begun : Responding (world.call environment (.read ctx response.scratch)) := responding
  have chunks : Yields (handler policy environment) (sendChunk response result) _ _ :=
    sendChunk_works accepting sync begun result
  obtain ⟨_, middle, chunk, ⟨sent, rfl⟩, still, changed, events, more, working⟩ := chunks
  obtain ⟨last, failed⟩ : result.last = false ∧ result.err = none := by
    simpa [decisive] using continues
  refine ⟨delivered + UInt64.ofNat sent, middle, _, fun fuel => ?_, still, first.trans more, fun event member => ?_, changed⟩
  · rw [responseLoop, exec_bind, exec_read, read, andThen_some, exec_bind, chunk, andThen_some]
    simp only [failed, last, Bool.false_eq_true, if_false]
  · exact (List.mem_append.mp member).elim (works event) (working event)

theorem responseLoop_ended (accepting : Accepting environment) (sync : response.sync = ⟨.synchronous⟩)
    (async : response.async = ⟨.asynchronous⟩) (responding : Responding world) {fuel : Nat} {delivered : UInt64}
    {value : ResponseOutcome × Option Err} {after : World σ δ}
    (returned : exec (handler policy environment) (responseLoop ctx response fuel delivered) world = (some value, after)) :
    Ended response.messageID world value.2 after := by
  induction fuel generalizing world delivered with
  | zero =>
    rw [responseLoop, exec_exhausted] at returned
    cases returned
  | succ fuel ih =>
    cases read : (environment (.read ctx response.scratch) world.environment).1 with
    | none =>
      rw [responseLoop, exec_bind, exec_read, read] at returned
      cases returned
    | some result =>
      cases ends : decisive result with
      | true =>
        obtain ⟨_, _, same, ended⟩ := responseLoop_last policy accepting sync async responding delivered read ends
        cases (same fuel).symm.trans returned
        exact ended
      | false =>
        obtain ⟨total, middle, events, same, still, continues, works, -⟩ :=
          responseLoop_more policy accepting sync responding delivered read ends
        exact (ih still ((same fuel).symm.trans returned)).after continues works

end Loop

/-- Every query is answered: `left` bounds the reads that return before one has an
end flag or an error. -/
structure ReadsEnd (environment : Environment δ) where
  left : δ → Nat
  read : ∀ ctx size state, 0 < size → ∃ result, (environment (.read ctx size) state).1 = some result ∧
    (decisive result = false → left (environment (.read ctx size) state).2 < left state)
  send : ∀ header payload state, left (environment (.send .synchronous header payload) state).2 ≤ left state

/-- With enough fuel the response returns, always with the same result. -/
theorem responseLoop_returns (accepting : Accepting environment) (ends : ReadsEnd environment)
    {response : CheckedResponse} {ctx : Ctx} (sync : response.sync = ⟨.synchronous⟩)
    (async : response.async = ⟨.asynchronous⟩) (holds : 0 < response.scratch) {world : World σ δ}
    (responding : Responding world) (delivered : UInt64) :
    ∃ value after, ∀ fuel, ends.left world.environment < fuel →
      exec (handler policy environment) (responseLoop ctx response fuel delivered) world = (some value, after) := by
  induction left : ends.left world.environment using Nat.strong_induction_on generalizing world delivered with
  | _ count ih =>
    obtain ⟨result, read, fewer⟩ := ends.read ctx response.scratch world.environment holds
    cases last : decisive result with
    | true =>
      obtain ⟨value, after, same, -⟩ := responseLoop_last policy accepting sync async responding delivered read last
      refine ⟨value, after, fun fuel enough => ?_⟩
      obtain ⟨fuel, rfl⟩ := Nat.exists_eq_add_one.mpr (Nat.zero_lt_of_lt enough)
      exact same fuel
    | false =>
      obtain ⟨total, middle, events, same, still, -, -, changed⟩ :=
        responseLoop_more policy accepting sync responding delivered read last
      have smaller : ends.left middle.environment < count := by
        have fewer := fewer last
        obtain changed | ⟨header, payload, changed⟩ := changed
        · rw [changed]
          omega
        · have kept := ends.send header payload (environment (.read ctx response.scratch) world.environment).2
          rw [changed]
          omega
      obtain ⟨value, after, later⟩ := ih _ smaller still total rfl
      refine ⟨value, after, fun fuel enough => ?_⟩
      obtain ⟨fuel, rfl⟩ := Nat.exists_eq_add_one.mpr (Nat.zero_lt_of_lt enough)
      exact (same fuel).trans (later fuel (by omega))

end Hislip.Proofs.Answering
