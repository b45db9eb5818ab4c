import Mathlib.Logic.Relation
import Hislip.Transition
import Hislip.Proofs.Ledger
import Hislip.Proofs.LoopPhases

/-! A conforming client and the two loops of its session, which exchange messages over
two channels in each direction and run one operation at a time in any order. -/

namespace Hislip.Proofs.Dialogue
open Hislip.Server

inductive ClearPhase where
  | idle | requested | acknowledged | completing
  deriving DecidableEq, Repr

/-- `owes` is set from the consumption of a DataEnd to the next message that can
report it. `outstanding` is set while the DataEnd of a query has not been consumed,
and `waiting` from a status query to its response. -/
structure Client where
  owes : Bool := false
  outstanding : Bool := false
  waiting : Bool := false
  clear : ClearPhase := .idle

namespace Client

/-- During a Device Clear the client discards what comes before the acknowledgement. -/
def hear (client : Client) (header : Header) : Client :=
  if header.type = .dataEnd then
    if client.clear = .idle then { client with owes := true, outstanding := false } else client
  else if header.type = .deviceClearAcknowledge then { client with clear := .idle, outstanding := false }
  else client

def hearAsync (client : Client) (header : Header) : Client :=
  if header.type = .asyncStatusResponse then { client with waiting := false }
  else if header.type = .asyncDeviceClearAcknowledge then { client with clear := .acknowledged }
  else client

end Client

end Hislip.Proofs.Dialogue

namespace Hislip.Proofs
open Hislip.Server Footprint SyncChannel LoopPhases Act Program Transition Dialogue

structure Dialogue (σ : Type) where
  client : Client := {}
  toSync : List Message := []
  toAsync : List Message := []
  fromSync : List Header := []
  fromAsync : List Header := []
  shared : Shared σ
  sync : Act (Option Err) := .pure none
  async : Act (Option Err) := .pure none

namespace Dialogue

abbrev Answers : Type := (op : EnvironmentOp) → Option op.Reply

inductive Action where
  | sendProgram (message : ProgramMessage)
  | sendQuery (id : MessageID)
  | sendClear
  | sendComplete (features : UInt8)
  | sendOther (message : Message)
  | sendOtherAsync (message : Message)
  | hearSync
  | hearAsync
  | takeSync (fuel : Nat)
  | takeAsync (fuel : Nat)
  | advanceSync (answers : Answers)
  | advanceAsync (answers : Answers)

def statusQueryMessage (id : MessageID) (delivered : Bool) : Message :=
  { header :=
      { type := .asyncStatusQuery, control := if delivered then controlRMTDelivered else 0, parameter := id } }

def upcoming (program : Act (Option Err)) : Option Op :=
  match program with
  | .pure _ => none
  | .request op _ => some op

def sent (channel : Channel) : (op : Op) → op.Reply → List Header
  | .environment (.send target header _), reply => if target = channel ∧ reply = none then [header] else []
  | _, _ => []

def recognises : (op : Op) → op.Reply → Bool
  | .shared (.session .disposition), reply => reply = .responseExpected
  | _, _ => false

variable {σ : Type} (policy : ResponsePolicy σ)

def reply (dialogue : Dialogue σ) (answers : Answers) : (op : Op) → Option (op.Reply × Shared σ)
  | .shared op => some (op.apply policy dialogue.shared)
  | .environment op => (answers op).map fun reply => (reply, dialogue.shared)

def performed (dialogue : Dialogue σ) (op : Op) (reply : op.Reply) (shared : Shared σ) : Dialogue σ :=
  { dialogue with
    shared
    fromSync := dialogue.fromSync ++ sent .synchronous op reply
    fromAsync := dialogue.fromAsync ++ sent .asynchronous op reply
    client := { dialogue.client with outstanding := dialogue.client.outstanding || recognises op reply } }

/-- The client reports a consumed DataEnd with the next message that can, sends
nothing while it waits for a status response, and no program message while the
DataEnd of a query is outstanding or a Device Clear under way. -/
def step (config : Config) (dialogue : Dialogue σ) : Action → Option (Dialogue σ)
  | .sendProgram message =>
    if dialogue.client.waiting = false ∧ dialogue.client.outstanding = false ∧ dialogue.client.clear = .idle ∧
        message.header.rmtDelivered = dialogue.client.owes ∧
        WellFormed message.toMessage dialogue.shared.session.maxRx then
      some { dialogue with
        toSync := dialogue.toSync ++ [message.toMessage]
        client := { dialogue.client with owes := false } }
    else none
  | .sendQuery id =>
    if dialogue.client.waiting = false then
      some { dialogue with
        toAsync := dialogue.toAsync ++ [statusQueryMessage id dialogue.client.owes]
        client := { dialogue.client with owes := false, waiting := true } }
    else none
  | .sendClear =>
    if dialogue.client.waiting = false ∧ dialogue.client.clear = .idle then
      some { dialogue with
        toAsync := dialogue.toAsync ++ [{ header := { type := .asyncDeviceClear } }]
        client := { dialogue.client with clear := .requested } }
    else none
  | .sendComplete features =>
    if dialogue.client.waiting = false ∧ dialogue.client.clear = .acknowledged then
      some { dialogue with
        toSync := dialogue.toSync ++ [{ header := { type := .deviceClearComplete, control := features } }]
        client := { dialogue.client with clear := .completing } }
    else none
  | .sendOther message =>
    if dialogue.client.waiting = false ∧ Unremarkable message then
      some { dialogue with toSync := dialogue.toSync ++ [message] }
    else none
  | .sendOtherAsync message =>
    if dialogue.client.waiting = false ∧ UnremarkableAsync message then
      some { dialogue with toAsync := dialogue.toAsync ++ [message] }
    else none
  | .hearSync =>
    match dialogue.fromSync with
    | header :: rest => some { dialogue with fromSync := rest, client := dialogue.client.hear header }
    | [] => none
  | .hearAsync =>
    match dialogue.fromAsync with
    | header :: rest => some { dialogue with fromAsync := rest, client := dialogue.client.hearAsync header }
    | [] => none
  | .takeSync fuel =>
    match dialogue.sync, dialogue.toSync with
    | .pure none, message :: rest => some { dialogue with toSync := rest, sync := handleSync config message fuel }
    | _, _ => none
  | .takeAsync fuel =>
    match dialogue.async, dialogue.toAsync with
    | .pure none, message :: rest => some { dialogue with toAsync := rest, async := handleAsync config message fuel }
    | _, _ => none
  | .advanceSync answers =>
    match dialogue.sync with
    | .request op next =>
      (dialogue.reply policy answers op).map fun result =>
        { dialogue.performed op result.1 result.2 with sync := next result.1 }
    | .pure _ => none
  | .advanceAsync answers =>
    match dialogue.async with
    | .request op next =>
      (dialogue.reply policy answers op).map fun result =>
        { dialogue.performed op result.1 result.2 with async := next result.1 }
    | .pure _ => none

def NeverMismatched (dialogue : Dialogue σ) : Prop :=
  ∀ loop ∈ [dialogue.sync, dialogue.async], ∀ delivered,
    upcoming loop = some (.shared (.session (.rmt (.receivedSyncMessage delivered)))) →
      ((RMTOp.receivedSyncMessage delivered).apply dialogue.shared.session.rmt).1 ≠ .rmtMismatch

/-- A message that turns out to be a query has no program message behind it: the
client sends none before it has consumed the DataEnd. -/
def SendsInTurn (dialogue : Dialogue σ) : Action → Prop
  | .advanceSync _ =>
    upcoming dialogue.sync = some (.shared (.session .disposition)) →
      (SessionOp.disposition.apply policy dialogue.shared.session).1 = .responseExpected →
        ∀ message ∈ dialogue.toSync, message.err = none →
          message.header.type ≠ .data ∧ message.header.type ≠ .dataEnd ∧ message.header.type ≠ .trigger
  | _ => True

/-- No status query reports a DataEnd before the server expects the report, and no
Device Clear is started with a report still owed. -/
def ReportsInTurn (dialogue : Dialogue σ) : Action → Prop
  | .advanceAsync _ =>
    upcoming dialogue.async = some (.shared (.session (.rmt (.receivedStatusQuery true)))) →
      upcoming dialogue.sync ≠ some (.shared (.session (.rmt .sentDataEnd)))
  | .sendClear => dialogue.client.owes = false
  | _ => True

instance (dialogue : Dialogue σ) : (action : Action) → Decidable (dialogue.SendsInTurn policy action)
  | .advanceSync _ => inferInstanceAs (Decidable (_ → _ → ∀ message ∈ dialogue.toSync, _))
  | .sendProgram _ | .sendQuery _ | .sendClear | .sendComplete _ | .sendOther _ | .sendOtherAsync _ | .hearSync
  | .hearAsync | .takeSync _ | .takeAsync _ | .advanceAsync _ => isTrue trivial

instance (dialogue : Dialogue σ) : (action : Action) → Decidable (dialogue.ReportsInTurn action)
  | .advanceAsync _ => inferInstanceAs (Decidable (_ → _))
  | .sendClear => inferInstanceAs (Decidable (_ = _))
  | .sendProgram _ | .sendQuery _ | .sendComplete _ | .sendOther _ | .sendOtherAsync _ | .hearSync
  | .hearAsync | .takeSync _ | .takeAsync _ | .advanceSync _ => isTrue trivial

end Dialogue

end Hislip.Proofs
