import Mathlib.Data.Nat.ModEq
import Hislip.Transition
import Hislip.Protocol.MessageID
import Hislip.Server.Status

/-! The client's counter and the server's record of the last message. Messages travel on
a FIFO channel and status queries beside it, so a query may overtake messages or be
overtaken; a Device Clear starts the sequence again on both sides, one after the other. -/

namespace Hislip.Proofs.MessageIDs
open Hislip.Server MessageID Transition

inductive Item where
  | message (id : MessageID)
  | complete
  deriving DecidableEq, Repr

/-- A status query, with the number of messages the client had sent by then. -/
structure Query where
  id : MessageID
  sent : Nat
  deriving DecidableEq, Repr

/-- How far a Device Clear is: asked for by the client, begun by the server, completed
by the client, and done on the server's side. -/
inductive Clearing where
  | idle | asked | begun | completing | done
  deriving DecidableEq, Repr

/-- `sent` counts the messages since the client's last reset, and `received` those that
the server has recorded since its own. -/
structure Correlation where
  counter : MessageID.Counter := .newCounter
  status : Status := .newStatus
  channel : List Item := []
  queries : List Query := []
  clearing : Clearing := .idle
  sent : Nat := 0
  received : Nat := 0

inductive CorrelationAction where
  | send
  | issue
  | ask
  | begin
  | complete
  | acknowledged
  | receive
  | evaluate (query : Nat)
  | setResponsePending (pending : Bool)
  | latchServiceRequest (byte : UInt8)
  | takeServiceRequest
  deriving DecidableEq, Repr

namespace Correlation

/-- The client sends nothing between the completion of a Device Clear and its end, and
the server discards what comes between the beginning and the completion. -/
def step (system : Correlation) : CorrelationAction → Option Correlation
  | .send =>
    if system.clearing = .completing ∨ system.clearing = .done then none
    else
      some { system with
        counter := system.counter.take.2
        channel := system.channel ++ [.message system.counter.take.1]
        sent := system.sent + 1 }
  | .issue =>
    some { system with
      counter := system.counter.last.2
      queries := system.queries ++ [⟨system.counter.last.1, system.sent⟩] }
  | .ask => if system.clearing = .idle then some { system with clearing := .asked } else none
  | .begin => if system.clearing = .asked then some { system with clearing := .begun } else none
  | .complete =>
    if system.clearing = .begun then
      some { system with clearing := .completing, channel := system.channel ++ [.complete] }
    else none
  | .acknowledged =>
    if system.clearing = .done then
      some { system with clearing := .idle, counter := system.counter.reset, sent := 0 }
    else none
  | .receive =>
    match system.channel with
    | .message id :: rest =>
      if system.clearing = .begun ∨ system.clearing = .completing then some { system with channel := rest }
      else
        some { system with
          channel := rest
          status := system.status.receivedSyncMessage id
          received := system.received + 1 }
    | .complete :: rest =>
      some { system with channel := rest, status := system.status.reset, clearing := .done, received := 0 }
    | [] => none
  | .evaluate query =>
    if query < system.queries.length then some { system with queries := system.queries.eraseIdx query } else none
  | .setResponsePending pending => some { system with status := { system.status with responsePending := pending } }
  | .latchServiceRequest byte => some { system with status := (system.status.latchServiceRequest byte).2 }
  | .takeServiceRequest => some { system with status := system.status.takeServiceRequest.2 }

/-- No identifier is `noMessageID`. A query names the last message received exactly when
as many were sent before it as were received, up to `2 ^ 31`; with fewer than that many
in between, a reported message is one that nothing is missing from. -/
structure Agree (system : Correlation) : Prop where
  messages : .message noMessageID ∉ system.channel
  queries : ∀ query ∈ system.queries, query.id ≠ noMessageID
  matching : ∀ query ∈ system.queries,
    query.id = system.status.lastReceivedID ↔ query.sent ≡ system.received [MOD 2 ^ 31]
  available : ∀ query ∈ system.queries, ∀ device rmtDelivered,
    system.status.byte device query.id rmtDelivered &&& statusMAV ≠ 0 →
      query.sent < system.received + 2 ^ 31 → system.received < query.sent + 2 ^ 31 → query.sent = system.received

end Correlation

section Positions

/-- The identifier of the message that is the given one of its sequence, counted from
one; position zero is what a query carries before any message was sent. -/
def position (count : Nat) : MessageID := statusQueryInitialMessageID + 2 * UInt32.ofNat count

variable (count : Nat)

theorem toNat_position : (position count).toNat = (4294967038 + 2 * count) % 2 ^ 32 := by
  simp [position, statusQueryInitialMessageID]

theorem position_ne : position count ≠ noMessageID := by
  intro same
  have odd := congrArg UInt32.toNat same
  rw [toNat_position, show noMessageID.toNat = 4294967295 from rfl] at odd
  omega

theorem position_inj {first second : Nat} : position first = position second ↔ first ≡ second [MOD 2 ^ 31] := by
  rw [← UInt32.toNat_inj, toNat_position, toNat_position]
  unfold Nat.ModEq
  omega

theorem position_one : position 1 = initialMessageID := by decide

theorem next_position : (position count).next = position (count + 1) := by
  have two : messageIDIncrement.toNat = 2 := rfl
  rw [next, ← UInt32.toNat_inj, UInt32.toNat_add, toNat_position, toNat_position, two]
  omega

theorem previous_position : (position (count + 1)).previous = position count := by
  rw [← next_position, previous, next, UInt32.add_sub_cancel]

end Positions

section Runs

def Plain (items : List Item) : Prop := ∀ item ∈ items, ∃ count, item = .message (position count)

def InOrder (sent received : Nat) (channel : List Item) : Prop :=
  ∃ count, sent = received + count ∧
    channel = (List.range' (received + 1) count).map fun sent => .message (position sent)

/-- What is on the channel. The server discards from the beginning of a Device Clear to
its completion, so nothing is known then of which messages are left. -/
def Carries (system : Correlation) : Prop :=
  match system.clearing with
  | .idle => InOrder system.sent system.received system.channel
  | .asked => InOrder system.sent system.received system.channel
  | .begun => Plain system.channel
  | .completing => ∃ items, system.channel = items ++ [.complete] ∧ Plain items
  | .done => system.channel = [] ∧ system.received = 0

structure Tracks (system : Correlation) : Prop where
  counter : system.counter = ⟨position (system.sent + 1), true⟩
  started : system.status.started = true
  last : system.status.lastReceived = position system.received
  queries : ∀ query ∈ system.queries, query.id = position query.sent
  channel : Carries system

variable {system after : Correlation} {rest : List Item} {sent received : Nat} {channel : List Item}

theorem tracks_initially : Tracks {} where
  counter := congrArg (MessageID.Counter.mk · true) position_one.symm
  started := rfl
  last := by decide
  queries := nofun
  channel := ⟨0, rfl, rfl⟩

theorem Plain.concat {items : List Item} (plain : Plain items) (count : Nat) :
    Plain (items ++ [.message (position count)]) := by
  intro item member
  obtain earlier | same := List.mem_append.mp member
  · exact plain item earlier
  · exact ⟨count, List.mem_singleton.mp same⟩

theorem Tracks.take (tracks : Tracks system) : system.counter.take =
    (position (system.sent + 1), ⟨position (system.sent + 2), true⟩) := by
  rw [tracks.counter, MessageID.Counter.take]
  exact congrArg (fun next => (position (system.sent + 1), MessageID.Counter.mk next true)) (next_position _)

theorem Tracks.lastTaken (tracks : Tracks system) : system.counter.last = (position system.sent, system.counter) := by
  rw [tracks.counter, MessageID.Counter.last]
  exact congrArg (·, MessageID.Counter.mk _ true) (previous_position _)

theorem InOrder.send (ordered : InOrder sent received channel) :
    InOrder (sent + 1) received (channel ++ [.message (position (sent + 1))]) := by
  obtain ⟨count, rfl, rfl⟩ := ordered
  refine ⟨count + 1, rfl, ?_⟩
  rw [List.range'_concat, List.map_append, Nat.one_mul, Nat.add_right_comm]
  rfl

theorem InOrder.receive {item : Item} (ordered : InOrder sent received (item :: rest)) :
    item = .message (position (received + 1)) ∧ InOrder sent (received + 1) rest := by
  obtain ⟨count, rfl, same⟩ := ordered
  cases count with
  | zero => cases same
  | succ count =>
    rw [List.range'_succ, List.map_cons] at same
    obtain ⟨rfl, rfl⟩ := List.cons.inj same
    exact ⟨rfl, count, by omega, rfl⟩

theorem InOrder.plain (ordered : InOrder sent received channel) : Plain channel := by
  obtain ⟨count, -, rfl⟩ := ordered
  intro item member
  obtain ⟨sent, -, rfl⟩ := List.mem_map.mp member
  exact ⟨sent, rfl⟩

section
variable (tracks : Tracks system)
include tracks

theorem Tracks.send (moved : system.step .send = some after) : Tracks after := by
  simp only [Correlation.step, tracks.take] at moved
  split at moved
  next => cases moved
  next free =>
    cases moved
    refine ⟨rfl, tracks.started, tracks.last, tracks.queries, ?_⟩
    have carries := tracks.channel
    unfold Carries at carries ⊢
    cases stage : system.clearing with
    | idle => rw [stage] at carries; exact carries.send
    | asked => rw [stage] at carries; exact carries.send
    | begun => rw [stage] at carries; exact carries.concat _
    | completing => exact absurd (.inl stage) free
    | done => exact absurd (.inr stage) free

theorem Tracks.issue (moved : system.step .issue = some after) : Tracks after := by
  simp only [Correlation.step, tracks.lastTaken] at moved
  cases moved
  refine ⟨tracks.counter, tracks.started, tracks.last, fun query member => ?_, tracks.channel⟩
  obtain earlier | same := List.mem_append.mp member
  · exact tracks.queries query earlier
  · rw [List.mem_singleton.mp same]

variable {action : CorrelationAction}

theorem Tracks.clear (clears : action = .ask ∨ action = .begin ∨ action = .complete)
    (moved : system.step action = some after) : Tracks after := by
  have carries := tracks.channel
  obtain rfl | rfl | rfl := clears
  all_goals
    simp only [Correlation.step, Option.ite_none_right_eq_some, Option.some_inj] at moved
    obtain ⟨stage, rfl⟩ := moved
    rw [Carries, stage] at carries
    refine ⟨tracks.counter, tracks.started, tracks.last, tracks.queries, ?_⟩
  · exact carries
  · exact carries.plain
  · exact ⟨system.channel, rfl, carries⟩

theorem Tracks.acknowledged (moved : system.step .acknowledged = some after) : Tracks after := by
  simp only [Correlation.step, Option.ite_none_right_eq_some, Option.some_inj] at moved
  obtain ⟨stage, rfl⟩ := moved
  have carries := tracks.channel
  rw [Carries, stage] at carries
  obtain ⟨empty, none⟩ := carries
  refine ⟨tracks_initially.counter, tracks.started, tracks.last, tracks.queries, 0, ?_, empty⟩
  exact none.symm

theorem Tracks.discard {id : MessageID} (next : system.channel = .message id :: rest)
    (discarding : system.clearing = .begun ∨ system.clearing = .completing) :
    Tracks { system with channel := rest } := by
  refine ⟨tracks.counter, tracks.started, tracks.last, tracks.queries, ?_⟩
  have carries := tracks.channel
  unfold Carries at carries ⊢
  obtain stage | stage := discarding
  · rw [stage, next] at carries
    simp only [stage]
    exact fun item member => carries item (List.mem_cons_of_mem _ member)
  · rw [stage] at carries
    obtain ⟨items, same, plain⟩ := carries
    simp only [stage]
    cases items with
    | nil => rw [next] at same; cases same
    | cons first items =>
      rw [next] at same
      obtain ⟨-, rfl⟩ := List.cons.inj same
      exact ⟨items, rfl, fun item member => plain item (List.mem_cons_of_mem _ member)⟩

theorem Tracks.record {id : MessageID} (next : system.channel = .message id :: rest)
    (recording : ¬ (system.clearing = .begun ∨ system.clearing = .completing)) :
    Tracks { system with
      channel := rest, status := system.status.receivedSyncMessage id, received := system.received + 1 } := by
  have carries := tracks.channel
  have ordered : InOrder system.sent system.received (.message id :: rest) := by
    unfold Carries at carries
    rw [next] at carries
    cases stage : system.clearing with
    | idle => rw [stage] at carries; exact carries
    | asked => rw [stage] at carries; exact carries
    | begun => exact absurd (.inl stage) recording
    | completing => exact absurd (.inr stage) recording
    | done => rw [stage] at carries; cases carries.1
  obtain ⟨same, later⟩ := ordered.receive
  cases same
  refine ⟨tracks.counter, ?_, rfl, tracks.queries, ?_⟩
  · simp [Status.receivedSyncMessage, tracks.started]
  · unfold Carries at carries ⊢
    cases stage : system.clearing with
    | idle => exact later
    | asked => exact later
    | begun => exact absurd (.inl stage) recording
    | completing => exact absurd (.inr stage) recording
    | done => rw [stage, next] at carries; cases carries.1

theorem Tracks.restart (next : system.channel = .complete :: rest) :
    Tracks { system with channel := rest, status := system.status.reset, clearing := .done, received := 0 } := by
  have carries := tracks.channel
  refine ⟨tracks.counter, rfl, tracks_initially.last, tracks.queries, ?_, rfl⟩
  unfold Carries at carries
  rw [next] at carries
  cases stage : system.clearing with
  | idle => rw [stage] at carries; cases carries.receive.1
  | asked => rw [stage] at carries; cases carries.receive.1
  | begun => rw [stage] at carries; cases (carries _ List.mem_cons_self).choose_spec
  | done => rw [stage] at carries; cases carries.1
  | completing =>
    rw [stage] at carries
    obtain ⟨items, same, plain⟩ := carries
    cases items with
    | nil => exact (List.cons.inj same).2
    | cons first items =>
      obtain ⟨rfl, -⟩ := List.cons.inj same
      cases (plain _ List.mem_cons_self).choose_spec

theorem Tracks.step (moved : system.step action = some after) : Tracks after := by
  cases action with
  | send => exact tracks.send moved
  | issue => exact tracks.issue moved
  | ask => exact tracks.clear (.inl rfl) moved
  | begin => exact tracks.clear (.inr (.inl rfl)) moved
  | complete => exact tracks.clear (.inr (.inr rfl)) moved
  | acknowledged => exact tracks.acknowledged moved
  | receive =>
    simp only [Correlation.step] at moved
    split at moved
    next id rest next =>
      split at moved
      next discarding => cases moved; exact tracks.discard next discarding
      next recording => cases moved; exact tracks.record next recording
    next rest next => cases moved; exact tracks.restart next
    next => cases moved
  | evaluate query =>
    simp only [Correlation.step, Option.ite_none_right_eq_some, Option.some_inj] at moved
    obtain ⟨-, rfl⟩ := moved
    refine ⟨tracks.counter, tracks.started, tracks.last, fun query member => ?_, tracks.channel⟩
    exact tracks.queries query (List.mem_of_mem_eraseIdx member)
  | setResponsePending pending =>
    cases moved
    exact ⟨tracks.counter, tracks.started, tracks.last, tracks.queries, tracks.channel⟩
  | latchServiceRequest byte =>
    cases moved
    refine ⟨tracks.counter, ?_, ?_, tracks.queries, tracks.channel⟩ <;> unfold Status.latchServiceRequest <;> split
    · exact tracks.started
    · exact tracks.started
    · exact tracks.last
    · exact tracks.last
  | takeServiceRequest =>
    cases moved
    exact ⟨tracks.counter, tracks.started, tracks.last, tracks.queries, tracks.channel⟩

theorem Tracks.not_mem_channel : .message noMessageID ∉ system.channel := by
  have fresh : ∀ {items : List Item}, Plain items → .message noMessageID ∉ items := by
    intro items plain member
    obtain ⟨count, same⟩ := plain _ member
    exact position_ne count (Item.message.inj same).symm
  have carries := tracks.channel
  unfold Carries at carries
  split at carries
  · exact fresh carries.plain
  · exact fresh carries.plain
  · exact fresh carries
  · obtain ⟨items, same, plain⟩ := carries
    rw [same]
    simpa using fresh plain
  · rw [carries.1]
    exact List.not_mem_nil

end

theorem mav_of_byte {status : Status} {device : UInt8} {id : MessageID} {rmtDelivered : Bool}
    (reported : status.byte device id rmtDelivered &&& statusMAV ≠ 0) : status.mav id rmtDelivered = true := by
  unfold Status.byte at reported
  split at reported
  next available => exact available
  next => exact absurd (by simp [statusMAV, UInt8.and_assoc]) reported

theorem Tracks.agree (tracks : Tracks system) : system.Agree := by
  have last : system.status.lastReceivedID = position system.received := by
    rw [Status.lastReceivedID, if_pos tracks.started, tracks.last]
  have matching : ∀ query ∈ system.queries,
      query.id = system.status.lastReceivedID ↔ query.sent ≡ system.received [MOD 2 ^ 31] := by
    intro query member
    rw [tracks.queries query member, last, position_inj]
  refine ⟨tracks.not_mem_channel, fun query member => ?_, matching, ?_⟩
  · rw [tracks.queries query member]
    exact position_ne query.sent
  · intro query member device rmtDelivered reported behind ahead
    have same : query.id = system.status.lastReceivedID := by
      by_contra differs
      have available := mav_of_byte reported
      rw [Status.mav, if_pos (by simpa using differs)] at available
      cases available
    have congruent := (matching query member).mp same
    unfold Nat.ModEq at congruent
    omega

/-- In every run the client's identifiers and the server's record of them agree. -/
theorem message_ids_agree (actions : List CorrelationAction) : Always Correlation.step Correlation.Agree actions {} :=
  always_of_preserved (fun _ => Tracks.agree) (fun _ _ _ tracks moved => tracks.step moved) tracks_initially

end Runs

end Hislip.Proofs.MessageIDs
