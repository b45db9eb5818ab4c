import Hislip.Proofs.Answering
import Hislip.Proofs.Overtaken

/-! What a response puts on the wire, for every sequence of device reads and every answer
of the reader's queue: its messages on both channels, its outcome and the state it leaves
are exactly known. -/

namespace Hislip.Proofs.Responses
open Hislip.Server Hislip.Proofs.Answering Act Program

variable {σ δ : Type} {policy : ResponsePolicy σ} {environment : Environment δ}

section Messages

def written (channel : Channel) (events : List Event) : List (Header × Bytes) :=
  events.filterMap fun event =>
    match event.operation with
    | .send via header payload => if via = channel then some (header, payload) else none
    | _ => none

theorem written_append (channel : Channel) (events later : List Event) :
    written channel (events ++ later) = written channel events ++ written channel later :=
  List.filterMap_append

def message (type : MessageType) (control : UInt8) (id : MessageID) (payload : Bytes) : Header × Bytes :=
  ({ type, control, parameter := id, length := UInt64.ofNat payload.length }, payload)

abbrev dataMessage (id : MessageID) (chunk : Bytes) : Header × Bytes := message .data 0 id chunk

abbrev endMessage (id : MessageID) (final : Bytes) : Header × Bytes := message .dataEnd 0 id final

abbrev timeoutMessage (text : Bytes) : Header × Bytes := message .error ErrorCode.responseTimeout 0 text

/-- What was written on the two channels between two worlds. -/
def Sends (before after : World σ δ) (sync async : List (Header × Bytes)) : Prop :=
  ∃ events, after.trace = before.trace ++ events ∧ written .synchronous events = sync ∧
    written .asynchronous events = async

variable {before middle after : World σ δ} {sync async later others : List (Header × Bytes)}

theorem Sends.refl (world : World σ δ) : Sends world world [] [] := ⟨[], (List.append_nil _).symm, rfl, rfl⟩

theorem Sends.trans (first : Sends before middle sync async) (second : Sends middle after later others) :
    Sends before after (sync ++ later) (async ++ others) := by
  obtain ⟨events, one, rfl, rfl⟩ := first
  obtain ⟨more, two, rfl, rfl⟩ := second
  exact ⟨events ++ more, by rw [two, one, List.append_assoc], written_append _ _ _, written_append _ _ _⟩

theorem Sends.call (sends : Sends before after sync async) (op : EnvironmentOp) :
    Sends before (after.call environment op)
      (sync ++ written .synchronous [⟨op, (environment op after.environment).1⟩])
      (async ++ written .asynchronous [⟨op, (environment op after.environment).1⟩]) := by
  obtain ⟨events, traced, rfl, rfl⟩ := sends
  exact ⟨_, by rw [World.trace_call, traced, List.append_assoc], written_append _ _ _, written_append _ _ _⟩

end Messages

section Exits
variable {world : World σ δ} {response : CheckedResponse}

/-- The response has ended with these messages and an idle transaction, and RMT-expected is
as given. -/
structure Ends (before : World σ δ) (sync async : List (Header × Bytes)) (expected : Bool) (after : World σ δ) :
    Prop where
  sends : Sends before after sync async
  idle : after.session.tx = ⟨.idle, MessageID.noMessageID⟩
  rmt : after.session.rmt.expected = expected

theorem Ends.after {before middle after : World σ δ} {first second sync async : List (Header × Bytes)} {expected : Bool}
    (sends : Sends before middle first second) (ends : Ends middle sync async expected after) :
    Ends before (first ++ sync) (second ++ async) expected after :=
  ⟨sends.trans ends.sends, ends.idle, ends.rmt⟩

variable (accepting : Accepting environment) (sync : response.sync = ⟨.synchronous⟩) (responding : Responding world)
include accepting sync

theorem writeError_exact (text : Bytes) (world : World σ δ) :
    Yields (handler policy environment) (response.sync.writeError ErrorCode.responseTimeout text) world fun err after =>
      err = none ∧ after.session = world.session ∧ Sends world after [timeoutMessage text] [] := by
  have legal : MessageType.error.legalOn response.sync.channel := by rw [sync]; decide
  simp only [Yields, MessageWriter.writeError, exec_write_accepted accepting, legal, true_or]
  refine ⟨_, _, rfl, rfl, rfl, ?_⟩
  rw [sync]
  exact (Sends.refl world).call _

include responding

theorem terminate_exact (final : Bytes) :
    Yields (handler policy environment) (terminate response final) world fun err after =>
      err = none ∧ Ends world [endMessage response.messageID final] [] true after := by
  have legal : MessageType.dataEnd.legalOn response.sync.channel := by rw [sync]; decide
  have completes := (tx_responding responding).2.2
  simp only [Yields, terminate, exec_bind, exec_write_accepted accepting, legal, or_true, andThen_some, exec_rmt,
    exec_setLastTx, exec_tx, World.session_setSession, World.session_call, completes]
  refine ⟨_, _, rfl, rfl, ?_, rfl, rfl⟩
  rw [sync]
  exact (Sends.refl world).call _

theorem completeTruncatedResponse_exact :
    Yields (handler policy environment) (completeTruncatedResponse response) world fun result after =>
      result = (.truncated, none) ∧
        Ends world [timeoutMessage (ascii "response truncated"), endMessage response.messageID []] [] true after := by
  refine (writeError_exact accepting sync _ world).bind ?_
  rintro _ middle ⟨rfl, same, sends⟩
  have still : Responding middle := by rwa [Responding, same]
  refine (terminate_exact accepting sync still []).bind ?_
  rintro _ after ⟨rfl, ends⟩
  exact ⟨_, _, rfl, rfl, ends.after sends⟩

theorem completeAbsentResponse_exact :
    Yields (handler policy environment) (completeAbsentResponse response) world fun result after =>
      result = (.absent, none) ∧
        Ends world [timeoutMessage (ascii "no response from instrument"), endMessage response.messageID []] [] true
          after := by
  refine (writeError_exact accepting sync _ world).bind ?_
  rintro _ middle ⟨rfl, same, sends⟩
  have still : Responding middle := by rwa [Responding, same]
  refine (beginResponse_moves still).bind ?_
  rintro _ begun ⟨rfl, responding, -, moved⟩
  refine (terminate_exact accepting sync responding []).bind ?_
  rintro _ after ⟨rfl, ends⟩
  have quiet : Sends middle begun [] [] := ⟨[], moved.trace, rfl, rfl⟩
  exact ⟨_, _, rfl, rfl, (ends.after quiet).after sends⟩

theorem sendInterrupted_exact (async : response.async = ⟨.asynchronous⟩) :
    Yields (handler policy environment) (sendInterrupted response) world fun err after =>
      err = none ∧ Ends world [message .interrupted 0 response.messageID []]
        [message .asyncInterrupted 0 response.messageID []] world.session.rmt.expected after := by
  have announced : MessageType.asyncInterrupted.legalOn response.async.channel := by rw [async]; decide
  have legal : MessageType.interrupted.legalOn response.sync.channel := by rw [sync]; decide
  have moves := (tx_responding responding).2.1
  have completes : TxOp.complete.apply { world.session.tx with state := .interrupted } =
    (none, ⟨.idle, MessageID.noMessageID⟩) := rfl
  simp only [Yields, sendInterrupted, exec_bind, exec_tx, moves, andThen_some, exec_setResponsePending,
    exec_write_accepted accepting, announced, legal, true_or, World.session_setSession, World.session_setTx,
    World.session_call, completes]
  refine ⟨_, _, rfl, rfl, ?_, rfl, rfl⟩
  rw [sync, async]
  exact ((Sends.refl world).call _).call _

end Exits

section Loop

/-- A device with these reads to come, streams that accept every message, and a reader
whose queue is as given. -/
def serving (queued : Bool) : Environment (List ReadResult)
  | .pending, reads => (some queued, reads)
  | op, reads => scripted op reads

theorem serving_accepting (queued : Bool) : Accepting (serving queued) :=
  ⟨fun _ _ _ _ => rfl, fun _ => Option.some_ne_none _⟩

def answer : InputQueued → Bool → Bool
  | .never, _ => false
  | .reader, queued => queued

def bytesOf (reads : List ReadResult) : Bytes := reads.flatMap (·.data)

def chunksOf (id : MessageID) (reads : List ReadResult) : List (Header × Bytes) :=
  ((reads.map (·.data)).filter (· ≠ [])).map (dataMessage id)

theorem chunksOf_append (id : MessageID) (reads later : List ReadResult) :
    chunksOf id (reads ++ later) = chunksOf id reads ++ chunksOf id later := by
  simp only [chunksOf, List.map_append, List.filter_append]

/-- How a response ends: its outcome and its last messages on the two channels. -/
structure Exit where
  outcome : ResponseOutcome
  sync : List (Header × Bytes)
  async : List (Header × Bytes) := []

namespace Exit

def absent (id : MessageID) : Exit where
  outcome := .absent
  sync := [timeoutMessage (ascii "no response from instrument"), endMessage id []]

def truncated (id : MessageID) : Exit where
  outcome := .truncated
  sync := [timeoutMessage (ascii "response truncated"), endMessage id []]

def interrupted (id : MessageID) : Exit where
  outcome := .interrupted
  sync := [message .interrupted 0 id []]
  async := [message .asyncInterrupted 0 id []]

def complete (id : MessageID) (final : Bytes) : Exit where
  outcome := .complete
  sync := [endMessage id final]

end Exit

/-- The exit that a decisive read takes, after `delivered` bytes as the loop counts them. -/
def exitOf (response : CheckedResponse) (queued : Bool) (delivered : UInt64) (last : ReadResult) : Exit :=
  match last.err with
  | some _ => if delivered = 0 then .absent response.messageID else .truncated response.messageID
  | none => if answer response.inputQueued queued then .interrupted response.messageID
    else .complete response.messageID last.data

variable {queued : Bool} {world : World σ (List ReadResult)} {response : CheckedResponse} {result : ReadResult}

/-- The response has taken an exit after these messages. Only an interrupted response
leaves RMT-expected as it was. -/
def Closes (exit : Exit) (chunks : List (Header × Bytes)) (before : World σ (List ReadResult))
    (result : ResponseOutcome × Option Err) (after : World σ (List ReadResult)) : Prop :=
  result = (exit.outcome, none) ∧ Ends before (chunks ++ exit.sync) exit.async
    (decide (exit.outcome ≠ .interrupted) || before.session.rmt.expected) after

theorem Closes.after {exit : Exit} {first chunks : List (Header × Bytes)}
    {before middle after : World σ (List ReadResult)} {outcome : ResponseOutcome × Option Err}
    (sends : Sends before middle first []) (rmt : middle.session.rmt = before.session.rmt)
    (closes : Closes exit chunks middle outcome after) : Closes exit (first ++ chunks) before outcome after := by
  obtain ⟨same, ends⟩ := closes
  rw [rmt] at ends
  refine ⟨same, ?_⟩
  rw [List.append_assoc]
  exact ends.after sends

structure Goes (before : World σ (List ReadResult)) (sync : List (Header × Bytes)) (after : World σ (List ReadResult)) :
    Prop where
  sends : Sends before after sync []
  responding : Responding after
  reads : after.environment = before.environment
  rmt : after.session.rmt = before.session.rmt

theorem sendChunk_passes (sync : response.sync = ⟨.synchronous⟩) (responding : Responding world)
    (passes : result.last = false ∨ result.err.isSome = true) :
    Yields (handler policy (serving queued)) (sendChunk response result) world fun sent after =>
      sent = .ok result.data.length ∧ Goes world (chunksOf response.messageID [result]) after := by
  by_cases empty : result.data = []
  · have none_sent : chunksOf response.messageID [result] = [] := by simp [chunksOf, empty]
    have skips : sendChunk response result = (Pure.pure (.ok 0) : Act _) := by
      rw [sendChunk, empty]
      rfl
    rw [none_sent, skips, empty]
    exact ⟨_, _, rfl, rfl, .refl world, responding, rfl, rfl⟩
  · have some_bytes : ¬ result.data.length = 0 := fun zero => empty (List.eq_nil_of_length_eq_zero zero)
    have one : chunksOf response.messageID [result] = [dataMessage response.messageID result.data] := by
      simp [chunksOf, empty]
    have condition : (¬ result.last = true ∨ result.err.isSome = true) := by
      rcases passes with more | failed
      · exact .inl (by rw [more]; exact Bool.false_ne_true)
      · exact .inr failed
    have legal : MessageType.data.legalOn response.sync.channel := by rw [sync]; decide
    simp only [Yields, sendChunk, some_bytes, if_false, exec_bind, exec_tx, (tx_responding responding).1, andThen_some,
      if_pos condition, exec_write_accepted (serving_accepting queued), legal, or_true]
    refine ⟨_, _, rfl, rfl, ?_, .inr rfl, rfl, rfl⟩
    rw [one, sync]
    exact (Sends.refl world).call _

theorem sendChunk_keeps (responding : Responding world) (ends : result.last = true) (fine : result.err = none) :
    Yields (handler policy (serving queued)) (sendChunk response result) world fun sent after =>
      sent = .ok 0 ∧ Goes world [] after := by
  by_cases empty : result.data.length = 0
  · have skips : sendChunk response result = (Pure.pure (.ok 0) : Act _) := by
      rw [sendChunk, if_pos empty]
    rw [skips]
    exact ⟨_, _, rfl, rfl, .refl world, responding, rfl, rfl⟩
  · have condition : ¬ (¬ result.last = true ∨ result.err.isSome = true) := by
      rw [ends, fine]
      decide
    simp only [Yields, sendChunk, empty, if_false, exec_bind, exec_tx, (tx_responding responding).1, andThen_some,
      if_neg condition]
    exact ⟨_, _, rfl, rfl, .refl world, .inr rfl, rfl, rfl⟩

theorem offerTerminator_exact (sync : response.sync = ⟨.synchronous⟩) (async : response.async = ⟨.asynchronous⟩)
    (responding : Responding world) (delivered : UInt64) (fine : result.err = none) :
    Yields (handler policy (serving queued)) (offerTerminator response result.data) world
      (Closes (exitOf response queued delivered result) [] world) := by
  have asks : Yields (handler policy (serving queued)) response.inputQueued.ask world fun found after =>
      found = answer response.inputQueued queued ∧ Goes world [] after := by
    cases response.inputQueued with
    | never => exact ⟨_, _, rfl, rfl, .refl world, responding, rfl, rfl⟩
    | reader => exact ⟨_, _, exec_pending world, rfl, (Sends.refl world).call .pending, responding, rfl, rfl⟩
  refine asks.bind ?_
  rintro found middle ⟨rfl, goes⟩
  simp only [exitOf, fine]
  cases answer response.inputQueued queued with
  | true =>
    refine (sendInterrupted_exact (serving_accepting queued) sync goes.responding async).bind ?_
    rintro _ after ⟨rfl, ends⟩
    rw [goes.rmt] at ends
    exact ⟨_, _, rfl, rfl, ends.after goes.sends⟩
  | false =>
    refine (beginResponse_moves goes.responding).bind ?_
    rintro _ begun ⟨rfl, still, -, moved⟩
    refine (terminate_exact (serving_accepting queued) sync still result.data).bind ?_
    rintro _ after ⟨rfl, ends⟩
    have quiet : Sends middle begun [] [] := ⟨[], moved.trace, rfl, rfl⟩
    exact ⟨_, _, rfl, rfl, (ends.after quiet).after goes.sends⟩

theorem read_exact (ctx : Ctx) (size : Nat) {rest : List ReadResult} (next : world.environment = result :: rest) :
    Yields (handler policy (serving queued)) (Act.environment (.read ctx size)) world fun found after =>
      result = found ∧ Sends world after [] [] ∧ after.session = world.session ∧ after.environment = rest := by
  refine ⟨result, world.call (serving queued) (.read ctx size), ?_, rfl, (Sends.refl world).call _, rfl, ?_⟩
  · refine (exec_read world ctx size).trans ?_
    rw [next]
    rfl
  · rw [World.environment_call, next]
    rfl

section Steps
variable (ctx : Ctx) (sync : response.sync = ⟨.synchronous⟩) (async : response.async = ⟨.asynchronous⟩)
include sync async

theorem responseLoop_closes (responding : Responding world) (delivered : UInt64) (fuel : Nat) {rest : List ReadResult}
    (next : world.environment = result :: rest) (ends : result.last = true ∨ result.err.isSome = true) :
    Yields (handler policy (serving queued)) (responseLoop ctx response (fuel + 1) delivered) world
      (Closes (exitOf response queued (delivered + UInt64.ofNat result.data.length) result)
        (chunksOf response.messageID (if result.err.isSome then [result] else [])) world) := by
  refine (read_exact ctx response.scratch next).bind ?_
  rintro _ middle ⟨rfl, silent, same, -⟩
  have still : Responding middle := by rwa [Responding, same]
  cases failed : result.err with
  | some err =>
    refine (sendChunk_passes sync still (.inr (by rw [failed]; rfl))).bind ?_
    rintro _ passed ⟨rfl, goes⟩
    have sends : Sends world passed (chunksOf response.messageID [result]) [] := silent.trans goes.sends
    simp only [exitOf, failed, Option.isSome_some, if_true]
    by_cases none_yet : delivered + UInt64.ofNat result.data.length = 0
    · simp only [if_pos none_yet]
      refine (completeAbsentResponse_exact (serving_accepting queued) sync goes.responding).mono ?_
      rintro _ after ⟨rfl, ends⟩
      exact ⟨rfl, ends.after sends⟩
    · simp only [if_neg none_yet]
      refine (completeTruncatedResponse_exact (serving_accepting queued) sync goes.responding).mono ?_
      rintro _ after ⟨rfl, ends⟩
      exact ⟨rfl, ends.after sends⟩
  | none =>
    have last : result.last = true := ends.resolve_right (by rw [failed]; decide)
    refine (sendChunk_keeps still last failed).bind ?_
    rintro _ kept ⟨rfl, goes⟩
    have sends : Sends world kept [] [] := silent.trans goes.sends
    have rmt : kept.session.rmt = world.session.rmt := goes.rmt.trans (congrArg (·.rmt) same)
    simp only [last, if_true, Option.isSome_none, Bool.false_eq_true, if_false]
    refine (offerTerminator_exact sync async goes.responding (delivered + UInt64.ofNat result.data.length)
      failed).mono ?_
    intro outcome after closes
    exact closes.after sends rmt

/-- The loop, by induction over the reads that do not end the response. -/
theorem responseLoop_exact {earlier : List ReadResult} (more : ∀ read ∈ earlier, read.last = false ∧ read.err = none)
    (ends : result.last = true ∨ result.err.isSome = true) (responding : Responding world)
    (next : world.environment = earlier ++ [result]) (delivered : UInt64) {fuel : Nat}
    (enough : earlier.length < fuel) :
    Yields (handler policy (serving queued)) (responseLoop ctx response fuel delivered) world
      (Closes (exitOf response queued (delivered + UInt64.ofNat (bytesOf (earlier ++ [result])).length) result)
        (chunksOf response.messageID (earlier ++ if result.err.isSome then [result] else [])) world) := by
  induction earlier generalizing world delivered fuel with
  | nil =>
    obtain ⟨fuel, rfl⟩ := Nat.exists_eq_succ_of_ne_zero (Nat.ne_of_gt enough)
    have bytes : bytesOf ([] ++ [result]) = result.data := List.append_nil _
    rw [bytes]
    exact responseLoop_closes ctx sync async responding delivered fuel next ends
  | cons read earlier ih =>
    obtain ⟨fuel, rfl⟩ := Nat.exists_eq_succ_of_ne_zero (Nat.ne_of_gt (Nat.zero_lt_of_lt enough))
    obtain ⟨⟨unended, fine⟩, later⟩ := List.forall_mem_cons.mp more
    refine (read_exact ctx response.scratch next).bind ?_
    rintro _ middle ⟨rfl, silent, same, left⟩
    have still : Responding middle := by rwa [Responding, same]
    refine (sendChunk_passes sync still (.inl unended)).bind ?_
    rintro _ passed ⟨rfl, goes⟩
    have sends : Sends world passed (chunksOf response.messageID [read]) [] := silent.trans goes.sends
    have rmt : passed.session.rmt = world.session.rmt := goes.rmt.trans (congrArg (·.rmt) same)
    have counts : delivered + UInt64.ofNat (bytesOf (read :: earlier ++ [result])).length =
        delivered + UInt64.ofNat read.data.length + UInt64.ofNat (bytesOf (earlier ++ [result])).length := by
      rw [UInt64.add_assoc, ← UInt64.ofNat_add, ← List.length_append]
      rfl
    simp only [fine, unended, Bool.false_eq_true, if_false]
    refine (ih later goes.responding (goes.reads.trans left) _ (Nat.lt_of_succ_lt_succ enough)).mono ?_
    intro outcome after closes
    have chunks : chunksOf response.messageID (read :: earlier ++ if result.err.isSome then [result] else []) =
        chunksOf response.messageID [read] ++
          chunksOf response.messageID (earlier ++ if result.err.isSome then [result] else []) :=
      chunksOf_append response.messageID [read] _
    rw [counts, chunks]
    exact closes.after sends rmt

end Steps

end Loop

section Whole
variable {world : World σ (List ReadResult)} {queued : Bool} {last : ReadResult} {earlier : List ReadResult}
  (count : Nat) {size : Nat} {reads : List ReadResult}

/-- The messages of a response and its outcome, from the bytes that the reads returned. -/
def Shape (id : MessageID) (queued : Bool) (earlier : List ReadResult) (last : ReadResult) (outcome : ResponseOutcome)
    (sync async : List (Header × Bytes)) : Prop :=
  match last.err, queued with
  | none, false => outcome = .complete ∧ async = [] ∧ ∃ (chunks : List Bytes) (final : Bytes),
      sync = chunks.map (dataMessage id) ++ [endMessage id final] ∧
        chunks.flatten ++ final = bytesOf (earlier ++ [last])
  | none, true => outcome = .interrupted ∧ async = [message .asyncInterrupted 0 id []] ∧
      sync = chunksOf id earlier ++ [message .interrupted 0 id []]
  | some _, _ =>
    if bytesOf (earlier ++ [last]) = [] then outcome = .absent ∧ async = [] ∧
      sync = [timeoutMessage (ascii "no response from instrument"), endMessage id []]
    else outcome = .truncated ∧ async = [] ∧ ∃ chunks : List Bytes,
      sync = chunks.map (dataMessage id) ++ [timeoutMessage (ascii "response truncated"), endMessage id []] ∧
        chunks.flatten = bytesOf (earlier ++ [last])

/-- The response is exact: its messages have the right shape, name the right message and
fit the buffer, and it leaves an idle transaction, no pending response, and RMT-expected
set if and only if a DataEnd was written. -/
def Exact (id : MessageID) (size : Nat) (queued : Bool) (earlier : List ReadResult) (last : ReadResult)
    (before : World σ (List ReadResult)) (result : ResponseOutcome × Option Err) (after : World σ (List ReadResult)) :
    Prop :=
  ∃ sync async, Sends before after sync async ∧ Shape id queued earlier last result.1 sync async ∧ result.2 = none ∧
    (∀ sent ∈ sync, sent.1.type = .data ∨ sent.1.type = .dataEnd → sent.1.messageID = id ∧ sent.2.length ≤ size) ∧
    after.session.tx = ⟨.idle, MessageID.noMessageID⟩ ∧ after.session.status.responsePending = false ∧
    (after.session.rmt.expected = true ↔ ∃ sent ∈ sync, sent.1.type = .dataEnd)

theorem validate_exact {id : MessageID} {inputQueued : InputQueued} (positive : 1 ≤ size)
    (fits : size ≤ world.session.maxTx.toNat) :
    exec (handler policy (serving queued))
        (Response.validate ⟨some ⟨.synchronous⟩, some ⟨.asynchronous⟩, id, size, some inputQueued⟩) world =
      (some (.ok ⟨⟨.synchronous⟩, ⟨.asynchronous⟩, id, size, inputQueued⟩), world) := by
  have holds : ¬ size = 0 := by omega
  have small : size < UInt64.size := Nat.lt_of_le_of_lt fits world.session.maxTx.toNat_lt
  have allowed : ¬ UInt64.ofNat size > world.session.maxTx := by
    rw [gt_iff_lt, UInt64.lt_iff_toNat_lt, UInt64.toNat_ofNat_of_lt' small]
    omega
  simp only [Response.validate, holds, if_false, exec_bind, exec_maxTx, andThen_some, allowed]
  rfl

theorem expectResponse_exact (complete : world.session.tx.state = .inputComplete) :
    Yields (handler policy (serving queued)) (tx .expectResponse) world fun err after =>
      err = none ∧ Goes world [] after := by
  have expects : TxOp.expectResponse.apply world.session.tx =
      (none, { world.session.tx with state := .responsePending }) := by
    generalize world.session.tx = transaction at complete ⊢
    obtain ⟨state, id⟩ := transaction
    subst complete
    rfl
  simp only [Yields, exec_tx, expects]
  exact ⟨_, _, rfl, rfl, .refl world, .inl rfl, rfl, rfl⟩

theorem sendResponse_closes (ctx : Ctx) (id : MessageID) (inputQueued : InputQueued) (positive : 1 ≤ size)
    (fits : size ≤ world.session.maxTx.toNat) (complete : world.session.tx.state = .inputComplete)
    (more : ∀ read ∈ earlier, read.last = false ∧ read.err = none) (ends : last.last = true ∨ last.err.isSome = true)
    (next : world.environment = earlier ++ [last]) {fuel : Nat} (enough : earlier.length < fuel) :
    Yields (handler policy (serving queued))
      (sendResponse ctx ⟨some ⟨.synchronous⟩, some ⟨.asynchronous⟩, id, size, some inputQueued⟩ fuel) world
      fun result after =>
        Closes (exitOf ⟨⟨.synchronous⟩, ⟨.asynchronous⟩, id, size, inputQueued⟩ queued
            (UInt64.ofNat (bytesOf (earlier ++ [last])).length) last)
          (chunksOf id (earlier ++ if last.err.isSome then [last] else [])) world result after ∧
        after.session.status.responsePending = false := by
  have validated : Yields (handler policy (serving queued))
      (Response.validate ⟨some ⟨.synchronous⟩, some ⟨.asynchronous⟩, id, size, some inputQueued⟩) world
      fun checked after => checked = .ok ⟨⟨.synchronous⟩, ⟨.asynchronous⟩, id, size, inputQueued⟩ ∧ world = after :=
    ⟨_, _, validate_exact positive fits, rfl, rfl⟩
  refine validated.bind ?_
  rintro _ _ ⟨rfl, rfl⟩
  refine (expectResponse_exact complete).bind ?_
  rintro _ expecting ⟨rfl, goes⟩
  have announced : Yields (handler policy (serving queued)) (session (.setResponsePending true)) expecting
      fun _ after => Goes world [] after := ⟨_, _, rfl, goes.sends, goes.responding, goes.reads, goes.rmt⟩
  refine announced.bind ?_
  intro _ started goes
  refine (responseLoop_exact ctx rfl rfl more ends goes.responding (goes.reads.trans next) 0 enough).bind ?_
  intro result after closes
  rw [UInt64.zero_add] at closes
  obtain ⟨same, sends, idle, rmt⟩ := closes.after goes.sends goes.rmt
  exact ⟨_, _, rfl, ⟨same, sends, idle, rmt⟩, rfl⟩

theorem flatten_chunks (reads : List ReadResult) : ((reads.map (·.data)).filter (· ≠ [])).flatten = bytesOf reads := by
  rw [List.flatten_filter_ne_nil, bytesOf, List.flatMap_def]

theorem chunksOf_empty (id : MessageID) (empty : bytesOf reads = []) : chunksOf id reads = [] := by
  have silent : ∀ read ∈ reads, read.data = [] := List.flatMap_eq_nil_iff.mp empty
  simp only [chunksOf, List.map_eq_nil_iff, List.filter_eq_nil_iff, List.mem_map, decide_not, Bool.not_eq_true,
    Bool.not_eq_false', decide_eq_true_eq]
  rintro _ ⟨read, member, rfl⟩
  exact silent read member

theorem chunksOf_within {id : MessageID} (within : ∀ read ∈ reads, read.data.length ≤ size) :
    ∀ sent ∈ chunksOf id reads, sent.1.type = .data ∧ sent.1.messageID = id ∧ sent.2.length ≤ size := by
  intro sent member
  obtain ⟨chunk, kept, rfl⟩ := List.mem_map.mp member
  obtain ⟨read, found, rfl⟩ := List.mem_map.mp (List.mem_of_mem_filter kept)
  exact ⟨rfl, rfl, within read found⟩

/-- The count of the bytes is lost: it is a multiple of 2^64 and not zero. -/
def Wraps (bytes : Bytes) : Prop := bytes ≠ [] ∧ bytes.length % 2 ^ 64 = 0

theorem ofNat_eq_zero_iff : UInt64.ofNat count = 0 ↔ count % 2 ^ 64 = 0 := by
  rw [← UInt64.toNat_inj, UInt64.toNat_ofNat']
  rfl

section Exiting
variable {id : MessageID} {size : Nat} {inputQueued : InputQueued}

theorem exitOf_shape (counted : ¬ (last.err.isSome = true ∧ Wraps (bytesOf (earlier ++ [last])))) :
    let exit := exitOf ⟨⟨.synchronous⟩, ⟨.asynchronous⟩, id, size, inputQueued⟩ queued
      (UInt64.ofNat (bytesOf (earlier ++ [last])).length) last
    Shape id (answer inputQueued queued) earlier last exit.outcome
      (chunksOf id (earlier ++ if last.err.isSome then [last] else []) ++ exit.sync) exit.async := by
  intro exit
  cases failed : last.err with
  | none =>
    have same : exit = if answer inputQueued queued then .interrupted id else .complete id last.data := by
      simp only [exit, exitOf, failed]
    rw [same]
    simp only [Shape, failed, Option.isSome_none, Bool.false_eq_true, if_false, List.append_nil]
    cases answer inputQueued queued with
    | true => exact ⟨rfl, rfl, rfl⟩
    | false =>
      refine ⟨rfl, rfl, _, last.data, rfl, ?_⟩
      rw [flatten_chunks, bytesOf, bytesOf, List.flatMap_append, List.flatMap_singleton]
  | some err =>
    have same : exit = if UInt64.ofNat (bytesOf (earlier ++ [last])).length = 0 then .absent id else .truncated id := by
      simp only [exit, exitOf, failed]
    rw [same]
    simp only [Shape, failed, Option.isSome_some, if_true]
    by_cases empty : bytesOf (earlier ++ [last]) = []
    · rw [if_pos empty, chunksOf_empty id empty, empty]
      exact ⟨rfl, rfl, rfl⟩
    · have kept : ¬ UInt64.ofNat (bytesOf (earlier ++ [last])).length = 0 := by
        intro zero
        exact counted ⟨by rw [failed]; rfl, empty, (ofNat_eq_zero_iff _).mp zero⟩
      rw [if_neg empty, if_neg kept]
      exact ⟨rfl, rfl, _, rfl, flatten_chunks _⟩

/-- The messages of an exit name the response and fit its buffer, and a DataEnd is among
them unless the response was interrupted. -/
structure Exit.Sound (exit : Exit) (id : MessageID) (size : Nat) : Prop where
  named : ∀ sent ∈ exit.sync, sent.1.type = .data ∨ sent.1.type = .dataEnd →
    sent.1.messageID = id ∧ sent.2.length ≤ size
  terminated : exit.outcome ≠ .interrupted ↔ ∃ sent ∈ exit.sync, sent.1.type = .dataEnd

theorem Exit.sound_error {exit : Exit} {text : Bytes} (responded : exit.outcome ≠ .interrupted)
    (sync : exit.sync = [timeoutMessage text, endMessage id []]) : exit.Sound id size where
  named := by
    rw [sync]
    intro sent member typed
    rcases List.mem_pair.mp member with rfl | rfl
    · rcases typed with typed | typed <;> cases typed
    · exact ⟨rfl, Nat.zero_le size⟩
  terminated := by
    rw [sync]
    exact iff_of_true responded ⟨endMessage id [], List.mem_pair.mpr (.inr rfl), rfl⟩

theorem exitOf_sound (delivered : UInt64) (within : last.data.length ≤ size) :
    (exitOf ⟨⟨.synchronous⟩, ⟨.asynchronous⟩, id, size, inputQueued⟩ queued delivered last).Sound id size := by
  cases failed : last.err with
  | some err =>
    simp only [exitOf, failed]
    by_cases zero : delivered = 0
    · rw [if_pos zero]
      exact Exit.sound_error (fun same => by cases same) rfl
    · rw [if_neg zero]
      exact Exit.sound_error (fun same => by cases same) rfl
  | none =>
    simp only [exitOf, failed]
    cases answer inputQueued queued with
    | true =>
      refine ⟨?_, iff_of_false (fun responded => responded rfl) ?_⟩
      · intro sent member typed
        rw [List.mem_singleton.mp member] at typed
        rcases typed with typed | typed <;> cases typed
      · rintro ⟨sent, member, typed⟩
        rw [List.mem_singleton.mp member] at typed
        cases typed
    | false =>
      refine ⟨?_, iff_of_true (fun same => by cases same) ⟨_, List.mem_singleton.mpr rfl, rfl⟩⟩
      intro sent member _
      rw [List.mem_singleton.mp member]
      exact ⟨rfl, within⟩

theorem exact_of_closes {result : ResponseOutcome × Option Err} {after : World σ (List ReadResult)}
    (unexpected : world.session.rmt.expected = false) (within : ∀ read ∈ earlier ++ [last], read.data.length ≤ size)
    (counted : ¬ (last.err.isSome = true ∧ Wraps (bytesOf (earlier ++ [last]))))
    (closes : Closes (exitOf ⟨⟨.synchronous⟩, ⟨.asynchronous⟩, id, size, inputQueued⟩ queued
      (UInt64.ofNat (bytesOf (earlier ++ [last])).length) last)
      (chunksOf id (earlier ++ if last.err.isSome then [last] else [])) world result after)
    (settled : after.session.status.responsePending = false) :
    Exact id size (answer inputQueued queued) earlier last world result after := by
  obtain ⟨rfl, ends⟩ := closes
  have sound : (exitOf ⟨⟨.synchronous⟩, ⟨.asynchronous⟩, id, size, inputQueued⟩ queued
      (UInt64.ofNat (bytesOf (earlier ++ [last])).length) last).Sound id size :=
    exitOf_sound _ (within last (List.mem_append_right _ (List.mem_singleton.mpr rfl)))
  have chunks : ∀ sent ∈ chunksOf id (earlier ++ if last.err.isSome then [last] else []),
      sent.1.type = .data ∧ sent.1.messageID = id ∧ sent.2.length ≤ size := by
    refine chunksOf_within fun read member => within read ?_
    split at member
    next => exact member
    next => exact List.mem_append_left _ (List.append_nil earlier ▸ member)
  refine ⟨_, _, ends.sends, exitOf_shape counted, rfl, ?_, ends.idle, settled, ?_⟩
  · intro sent member typed
    rcases List.mem_append.mp member with chunk | final
    · exact (chunks sent chunk).2
    · exact sound.named sent final typed
  · rw [ends.rmt, unexpected, Bool.or_false, decide_eq_true_iff, sound.terminated]
    refine ⟨fun ⟨sent, member, typed⟩ => ⟨sent, List.mem_append_right _ member, typed⟩, ?_⟩
    rintro ⟨sent, member, typed⟩
    rcases List.mem_append.mp member with chunk | final
    · rw [(chunks sent chunk).1] at typed
      cases typed
    · exact ⟨sent, final, typed⟩

/-- A response that fails when its count is lost is reported as absent. -/
theorem not_exact_of_wraps (failed : last.err.isSome = true) (wraps : Wraps (bytesOf (earlier ++ [last])))
    {program : Act (ResponseOutcome × Option Err)} {chunks : List (Header × Bytes)}
    {settled : World σ (List ReadResult) → Prop}
    (closes : Yields (handler policy (serving queued)) program world fun result after =>
      Closes (exitOf ⟨⟨.synchronous⟩, ⟨.asynchronous⟩, id, size, inputQueued⟩ queued
      (UInt64.ofNat (bytesOf (earlier ++ [last])).length) last) chunks world result after ∧ settled after)
    (exactly : Yields (handler policy (serving queued)) program world (Exact id size (answer inputQueued queued)
      earlier last world)) :
    False := by
  obtain ⟨result, after, ran, ⟨same, -⟩, -⟩ := closes
  obtain ⟨_, _, again, _, _, -, shape, -⟩ := exactly
  obtain ⟨found, rfl⟩ := Prod.mk.inj (ran.symm.trans again)
  obtain rfl := Option.some.inj found
  obtain ⟨err, failed⟩ := Option.isSome_iff_exists.mp failed
  obtain ⟨some_bytes, zero⟩ := wraps
  simp only [Shape, failed, if_neg some_bytes] at shape
  rw [same] at shape
  simp only [exitOf, failed, if_pos ((ofNat_eq_zero_iff _).mpr zero)] at shape
  cases shape.1

end Exiting

/-- Every response is exact, whatever the device's reads return and whether or not the
reader has input queued, except one that fails after a number of bytes that the 64-bit count
takes for none. -/
theorem response_exact_iff (policy : ResponsePolicy σ) (ctx : Ctx) (id : MessageID) (size : Nat)
    (inputQueued : InputQueued) (queued : Bool) (world : World σ (List ReadResult)) (earlier : List ReadResult)
    (last : ReadResult) (fuel : Nat) (positive : 1 ≤ size) (fits : size ≤ world.session.maxTx.toNat)
    (complete : world.session.tx.state = .inputComplete) (unexpected : world.session.rmt.expected = false)
    (next : world.environment = earlier ++ [last]) (more : ∀ read ∈ earlier, read.last = false ∧ read.err = none)
    (ends : last.last = true ∨ last.err.isSome = true) (within : ∀ read ∈ earlier ++ [last], read.data.length ≤ size)
    (enough : earlier.length < fuel) :
    Yields (handler policy (serving queued))
        (sendResponse ctx ⟨some ⟨.synchronous⟩, some ⟨.asynchronous⟩, id, size, some inputQueued⟩ fuel) world
        (Exact id size (answer inputQueued queued) earlier last world) ↔
      ¬ (last.err.isSome = true ∧ Wraps (bytesOf (earlier ++ [last]))) := by
  have closes : Yields (handler policy (serving queued))
      (sendResponse ctx ⟨some ⟨.synchronous⟩, some ⟨.asynchronous⟩, id, size, some inputQueued⟩ fuel) world _ :=
    sendResponse_closes ctx id inputQueued positive fits complete more ends next enough
  refine ⟨?_, fun counted => closes.mono fun result after ⟨closes, settled⟩ =>
    exact_of_closes unexpected within counted closes settled⟩
  rintro exactly ⟨failed, wraps⟩
  exact not_exact_of_wraps failed wraps closes exactly

/-- Two reads, the second the last of the response. -/
theorem response_exact_two_reads :
    Yields (handler alwaysReadPolicy (serving false))
      (sendResponse .server ⟨some ⟨.synchronous⟩, some ⟨.asynchronous⟩, 7, 16, some .reader⟩ 2)
      (Overtaken.queried [⟨[65], false, none⟩, ⟨[66], true, none⟩])
      (Exact 7 16 false [⟨[65], false, none⟩] ⟨[66], true, none⟩
        (Overtaken.queried [⟨[65], false, none⟩, ⟨[66], true, none⟩])) :=
  (response_exact_iff alwaysReadPolicy .server 7 16 .reader false
    (Overtaken.queried [⟨[65], false, none⟩, ⟨[66], true, none⟩]) [⟨[65], false, none⟩] ⟨[66], true, none⟩ 2 (by decide)
    (by decide) rfl rfl rfl (by decide) (.inl rfl) (by decide) (by decide)).mpr (fun wrapped => by cases wrapped.1)

def flood (count : Nat) : List ReadResult := List.replicate count ⟨[0], false, none⟩

def failure : ReadResult := ⟨[], false, some (.other [] [])⟩

theorem bytesOf_flood : (bytesOf (flood count ++ [failure])).length = count := by
  induction count with
  | zero => rfl
  | succ count ih =>
    have more : bytesOf (flood (count + 1) ++ [failure]) = 0 :: bytesOf (flood count ++ [failure]) := rfl
    rw [more, List.length_cons, ih]

def flooded (count : Nat) : Act (ResponseOutcome × Option Err) :=
  sendResponse .server ⟨some ⟨.synchronous⟩, some ⟨.asynchronous⟩, 7, 16, some .reader⟩ (count + 1)

theorem flooded_closes :
    Yields (handler alwaysReadPolicy (serving false)) (flooded count) (Overtaken.queried (flood count ++ [failure]))
      fun result after =>
        Closes (exitOf ⟨⟨.synchronous⟩, ⟨.asynchronous⟩, 7, 16, .reader⟩ false
            (UInt64.ofNat (bytesOf (flood count ++ [failure])).length) failure)
          (chunksOf 7 (flood count ++ [failure])) (Overtaken.queried (flood count ++ [failure])) result after ∧
        after.session.status.responsePending = false := by
  have more : ∀ read ∈ flood count, read.last = false ∧ read.err = none := by
    intro read member
    rw [List.eq_of_mem_replicate member]
    exact ⟨rfl, rfl⟩
  have enough : (flood count).length < count + 1 := by
    rw [flood, List.length_replicate]
    exact Nat.lt_succ_self count
  have fits : 16 ≤ (Overtaken.queried (flood count ++ [failure])).session.maxTx.toNat :=
    show 16 ≤ (Overtaken.queried []).session.maxTx.toNat by decide
  exact sendResponse_closes .server 7 .reader (by decide) fits rfl more (.inr rfl) rfl enough

theorem flooded_absent {count : Nat} (positive : 0 < count) (wraps : count % 2 ^ 64 = 0) :
    Yields (handler alwaysReadPolicy (serving false)) (flooded count) (Overtaken.queried (flood count ++ [failure]))
        (fun result _ => result = (.absent, none)) ∧
      ¬ Yields (handler alwaysReadPolicy (serving false)) (flooded count) (Overtaken.queried (flood count ++ [failure]))
        (Exact 7 16 false (flood count) failure (Overtaken.queried (flood count ++ [failure]))) := by
  have bytes : Wraps (bytesOf (flood count ++ [failure])) := by
    refine ⟨fun empty => ?_, (bytesOf_flood count).symm ▸ wraps⟩
    have none_read := bytesOf_flood count
    rw [empty, List.length_nil] at none_read
    omega
  refine ⟨(flooded_closes count).mono ?_, not_exact_of_wraps rfl bytes (flooded_closes count)⟩
  rintro result after ⟨⟨same, -⟩, -⟩
  rw [same, exitOf, if_pos ((ofNat_eq_zero_iff _).mpr bytes.2)]
  rfl

/-- The device returns 2^64 bytes and then fails. The count of the bytes is zero again, so
that the response is reported as absent. -/
theorem flooded_response_absent :
    Yields (handler alwaysReadPolicy (serving false)) (flooded (2 ^ 64))
        (Overtaken.queried (flood (2 ^ 64) ++ [failure])) (fun result _ => result = (.absent, none)) ∧
      ¬ Yields (handler alwaysReadPolicy (serving false)) (flooded (2 ^ 64))
        (Overtaken.queried (flood (2 ^ 64) ++ [failure]))
        (Exact 7 16 false (flood (2 ^ 64)) failure (Overtaken.queried (flood (2 ^ 64) ++ [failure]))) :=
  flooded_absent (by decide) (by decide)

end Whole

end Hislip.Proofs.Responses
