import Hislip.Proofs.Dialogue

/-! The dialogue keeps the ledger: every step of client and loops is a step of the
ledger or none, so what the ledger balances the loops never find mismatched. -/

namespace Hislip.Proofs.Agreement
open Hislip.Server

section Marks

inductive SyncMark where
  | program (delivered : Bool)
  | complete
  deriving DecidableEq, Repr

inductive EndMark where
  | dataEnd | acknowledged
  deriving DecidableEq, Repr

def syncMark (message : Message) : Option SyncMark :=
  if message.err ≠ none then none
  else if message.header.type = .data ∨ message.header.type = .dataEnd ∨ message.header.type = .trigger then
    some (.program message.header.rmtDelivered)
  else if message.header.type = .deviceClearComplete then some .complete
  else none

def endMark (header : Header) : Option EndMark :=
  if header.type = .dataEnd then some .dataEnd
  else if header.type = .deviceClearAcknowledge then some .acknowledged
  else none

def queryMark (message : Message) : Option Bool :=
  if message.err = none ∧ message.header.type = .asyncStatusQuery then some message.header.rmtDelivered else none

def clearMark (message : Message) : Option Unit :=
  if message.err = none ∧ message.header.type = .asyncDeviceClear then some () else none

def statusMark (header : Header) : Option Unit := if header.type = .asyncStatusResponse then some () else none

def agreementMark (header : Header) : Option Unit :=
  if header.type = .asyncDeviceClearAcknowledge then some () else none

end Marks

end Hislip.Proofs.Agreement

namespace Hislip.Proofs.Ledger
open Hislip.Server LoopPhases Dialogue Agreement

namespace Poll

def toAsync : Poll → List Bool
  | .sent delivered => [delivered]
  | _ => []

def fromAsync : Poll → List Unit
  | .answered => [()]
  | _ => []

def waiting : Poll → Bool
  | .idle => false
  | _ => true

def phase : Poll → Option AsyncPhase
  | .held delivered => some (.querying delivered)
  | .polled => some .polled
  | _ => none

end Poll

namespace Clear

def toSync : Clear → List SyncMark
  | .completed => [.complete]
  | _ => []

def fromSync : Clear → List EndMark
  | .returned => [.acknowledged]
  | _ => []

def toAsync : Clear → List Unit
  | .requested => [()]
  | _ => []

def fromAsync : Clear → List Unit
  | .agreed => [()]
  | _ => []

def client : Clear → ClearPhase
  | .idle => .idle
  | .requested | .preparing | .refused | .begun | .unanswered | .agreed => .requested
  | .acknowledged => .acknowledged
  | .completed | .resetting | .stuck | .reset | .returned | .silent => .completing

def phase : Clear → Option AsyncPhase
  | .preparing => some .preparing
  | .begun => some .begun
  | _ => none

end Clear

def Stage.phase : Stage → SyncPhase
  | .resting => .resting
  | .judged => .judged
  | .answering => .answering
  | .wrote => .wrote
  | .taken delivered => .taken delivered
  | .committed delivered => .committed delivered

def syncPhase (ledger : Ledger) : SyncPhase :=
  match ledger.clear with
  | .resetting => .resetting
  | .reset => .reset
  | _ => ledger.stage.phase

def Handling (ledger : Ledger) (phase : AsyncPhase) : Prop :=
  ledger.poll.phase = some phase ∧ ledger.clear.phase = none ∨
    ledger.poll.phase = none ∧ ledger.clear.phase = some phase ∨
    ledger.poll.phase = none ∧ ledger.clear.phase = none ∧ phase = .resting

variable {poll : Poll}

theorem Poll.idle_of_free (free : poll.waiting = false) : poll = .idle := by
  cases poll <;> first | rfl | cases free

variable {clear : Clear} {rest : List Unit}

theorem Clear.idle_of_client (idle : clear.client = .idle) : clear = .idle := by
  cases clear <;> first | rfl | cases idle

theorem Clear.acknowledged_of_client (acknowledged : clear.client = .acknowledged) : clear = .acknowledged := by
  cases clear <;> first | rfl | cases acknowledged

theorem Clear.requested_of_wire (wired : () :: rest = clear.toAsync) : clear = .requested ∧ rest = [] := by
  cases clear <;> first | exact ⟨rfl, (List.cons_eq_cons.mp wired).2⟩ | cases wired

theorem Clear.agreed_of_wire (wired : () :: rest = clear.fromAsync) : clear = .agreed ∧ rest = [] := by
  cases clear <;> first | exact ⟨rfl, (List.cons_eq_cons.mp wired).2⟩ | cases wired

theorem Clear.handled_of_phase {phase : AsyncPhase} (handled : clear.phase = some phase) :
    clear = .preparing ∨ clear = .begun := by
  cases clear <;> first | exact .inl rfl | exact .inr rfl | cases handled

theorem Poll.sent_of_wire {delivered : Bool} {rest : List Bool} (wired : delivered :: rest = poll.toAsync) :
    poll = .sent delivered ∧ rest = [] := by
  cases poll with
  | sent other =>
    cases wired
    exact ⟨rfl, rfl⟩
  | _ => cases wired

theorem Poll.answered_of_wire (wired : () :: rest = poll.fromAsync) : poll = .answered ∧ rest = [] := by
  cases poll <;> first | exact ⟨rfl, (List.cons_eq_cons.mp wired).2⟩ | cases wired

theorem Poll.polled_of_rests {phase : AsyncPhase} (handled : poll.phase = some phase) (rests : phase.mayRest = true) :
    poll = .polled := by
  cases poll with
  | polled => rfl
  | held delivered =>
    cases handled
    cases rests
  | _ => cases handled

theorem Clear.abandoned_unnoticed (clear : Clear) :
    clear.abandoned.toSync = clear.toSync ∧ clear.abandoned.fromSync = clear.fromSync ∧
      clear.abandoned.toAsync = clear.toAsync ∧ clear.abandoned.fromAsync = clear.fromAsync ∧
      clear.abandoned.client = clear.client ∧ clear.abandoned.clearing = clear.clearing := by
  cases clear <;> exact ⟨rfl, rfl, rfl, rfl, rfl, rfl⟩

variable {ledger : Ledger}

theorem Balanced.steps {later : Ledger} (balanced : ledger.Balanced)
    (steps : Relation.ReflTransGen Ledger.Step ledger later) : later.Balanced := by
  induction steps with
  | refl => exact balanced
  | tail _ step ih => exact ih.step step

theorem Handling.congr {phase : AsyncPhase} (handling : ledger.Handling phase) {after : Ledger}
    (poll : after.poll.phase = ledger.poll.phase) (clear : after.clear.phase = ledger.clear.phase) :
    after.Handling phase := by
  unfold Ledger.Handling
  rw [poll, clear]
  exact handling

theorem syncPhase_eq (unfinished : ledger.clear ≠ .resetting) (unreset : ledger.clear ≠ .reset) :
    ledger.syncPhase = ledger.stage.phase := by
  unfold syncPhase
  split
  · contradiction
  · contradiction
  · rfl

end Hislip.Proofs.Ledger

namespace Hislip.Proofs.Agreement
open Hislip.Server Footprint SyncChannel LoopPhases Ledger Dialogue Act Program Transition Relation

variable {σ : Type} {dialogue : Dialogue σ}

/-- The session is paired, and its state and expectation are those of the ledger. -/
structure Kept (session : Session σ) (maxRx : UInt64) (ledger : Ledger) : Prop where
  syncW : session.syncW = some ⟨.synchronous⟩
  asyncW : session.asyncW = some ⟨.asynchronous⟩
  maxRx : session.maxRx = maxRx
  state : session.state = if ledger.clear.clearing then .clearing else .ready
  expected : session.rmt.expected = ledger.expected

structure Accounted (client : Client) (ledger : Ledger) : Prop where
  owes : client.owes = ledger.owes
  outstanding : client.outstanding = ledger.outstanding
  waiting : client.waiting = ledger.poll.waiting
  clear : client.clear = ledger.clear.client

structure Wires (dialogue : Dialogue σ) (maxRx : UInt64) (ledger : Ledger) : Prop where
  toSync : dialogue.toSync.filterMap syncMark = ledger.programs.map .program ++ ledger.clear.toSync
  fromSync : dialogue.fromSync.filterMap endMark = List.replicate ledger.ends .dataEnd ++ ledger.clear.fromSync
  queries : dialogue.toAsync.filterMap queryMark = ledger.poll.toAsync
  clears : dialogue.toAsync.filterMap clearMark = ledger.clear.toAsync
  statuses : dialogue.fromAsync.filterMap statusMark = ledger.poll.fromAsync
  agreements : dialogue.fromAsync.filterMap agreementMark = ledger.clear.fromAsync
  programs : ∀ message ∈ dialogue.toSync, ∀ delivered, syncMark message = some (.program delivered) →
    WellFormed message maxRx
  polls : ∀ message ∈ dialogue.toAsync, ∀ delivered, queryMark message = some delivered → WellFormed message maxRx

structure Represents (dialogue : Dialogue σ) (maxRx : UInt64) (ledger : Ledger) : Prop where
  kept : Kept dialogue.shared.session maxRx ledger
  accounted : Accounted dialogue.client ledger
  wires : Wires dialogue maxRx ledger
  sync : dialogue.sync.Follows (syncDiscipline maxRx) Rests ledger.syncPhase
  async : ∃ phase, ledger.Handling phase ∧ dialogue.async.Follows (asyncDiscipline maxRx) RestsAsync phase

/-- The ledger can follow to where it represents the dialogue. -/
def Simulated (dialogue : Dialogue σ) (maxRx : UInt64) (ledger : Ledger) : Prop :=
  ∃ after, ReflTransGen Ledger.Step ledger after ∧ Represents dialogue maxRx after

theorem Simulated.one {maxRx : UInt64} {ledger after : Ledger} (step : ledger.Step after)
    (represents : Represents dialogue maxRx after) : Simulated dialogue maxRx ledger :=
    ⟨after, .single step, represents⟩

theorem Simulated.none {maxRx : UInt64} {ledger : Ledger} (represents : Represents dialogue maxRx ledger) :
    Simulated dialogue maxRx ledger := ⟨ledger, .refl, represents⟩

section Client
variable {dialogue : Dialogue σ} {maxRx : UInt64} {ledger : Ledger} {message : Message} {rest : List EndMark}
  {header : Header}

theorem filterMap_concat {α β : Type} (mark : α → Option β) (items : List α) (last : α) :
    (items ++ [last]).filterMap mark = items.filterMap mark ++ (mark last).toList := by
  rw [List.filterMap_append]
  cases found : mark last <;> simp [found]

private theorem forall_mem_concat {α : Type} {items : List α} {last : α} {holds : α → Prop}
    (earlier : ∀ item ∈ items, holds item) (final : holds last) : ∀ item ∈ items ++ [last], holds item := by
  intro item member
  obtain before | same := List.mem_append.mp member
  · exact earlier item before
  · rw [List.mem_singleton.mp same]
    exact final

theorem syncMark_program (message : ProgramMessage) (read : message.err = none) :
    syncMark message.toMessage = some (.program message.header.rmtDelivered) := by
  rw [syncMark, if_neg (not_not.mpr read), if_pos message.kind]

theorem syncMark_other (other : Unremarkable message) : syncMark message = none := by
  unfold syncMark
  split
  · rfl
  next read =>
    obtain ⟨data, dataEnd, trigger, complete⟩ := other (not_not.mp read)
    rw [if_neg (by rintro (found | found | found) <;> contradiction), if_neg complete]

theorem asyncMarks_other (other : UnremarkableAsync message) : queryMark message = none ∧ clearMark message = none :=
  ⟨if_neg fun found => (other found.1).1 found.2, if_neg fun found => (other found.1).2 found.2⟩

theorem Represents.sendProgram (represents : Represents dialogue maxRx ledger) {message : ProgramMessage}
    (free : dialogue.client.waiting = false) (answered : dialogue.client.outstanding = false)
    (idle : dialogue.client.clear = .idle) (flagged : message.header.rmtDelivered = dialogue.client.owes)
    (fine : WellFormed message.toMessage maxRx) :
    Simulated
      { dialogue with
        toSync := dialogue.toSync ++ [message.toMessage]
        client := { dialogue.client with owes := false } } maxRx ledger := by
  obtain ⟨kept, accounted, wires, sync, async⟩ := represents
  have idle : ledger.clear = .idle := Clear.idle_of_client (accounted.clear ▸ idle)
  have marked := syncMark_program message fine.1
  refine .one (.program (Poll.idle_of_free (accounted.waiting ▸ free)) (accounted.outstanding ▸ answered) idle)
    ⟨⟨kept.syncW, kept.asyncW, kept.maxRx, kept.state, kept.expected⟩,
      ⟨rfl, accounted.outstanding, accounted.waiting, accounted.clear⟩,
      ⟨?_, wires.fromSync, wires.queries, wires.clears, wires.statuses, wires.agreements, ?_, wires.polls⟩, sync, async⟩
  · rw [filterMap_concat, wires.toSync, marked, flagged, accounted.owes, idle]
    simp [Clear.toSync]
  · exact forall_mem_concat wires.programs fun _ _ => fine

theorem queryMark_statusQuery (id : MessageID) (delivered : Bool) :
    queryMark (statusQueryMessage id delivered) = some delivered := by
  rw [queryMark, if_pos ⟨rfl, rfl⟩]
  cases delivered <;> simp [statusQueryMessage, Header.rmtDelivered, controlRMTDelivered]

theorem wellFormed_statusQuery (id : MessageID) (delivered : Bool) :
    WellFormed (statusQueryMessage id delivered) maxRx := by
  refine ⟨rfl, ?_⟩
  unfold checkLength
  simp [statusQueryMessage]

section
variable (represents : Represents dialogue maxRx ledger)
include represents

theorem Represents.sendQuery (free : dialogue.client.waiting = false) (id : MessageID) :
    Simulated
      { dialogue with
        toAsync := dialogue.toAsync ++ [statusQueryMessage id dialogue.client.owes]
        client := { dialogue.client with owes := false, waiting := true } } maxRx ledger := by
  obtain ⟨kept, accounted, wires, sync, phase, handling, async⟩ := represents
  have free : ledger.poll = .idle := Poll.idle_of_free (accounted.waiting ▸ free)
  have marked := queryMark_statusQuery id dialogue.client.owes
  have unmarked : clearMark (statusQueryMessage id dialogue.client.owes) = none := rfl
  refine .one (.query free)
    ⟨⟨kept.syncW, kept.asyncW, kept.maxRx, kept.state, kept.expected⟩,
      ⟨rfl, accounted.outstanding, rfl, accounted.clear⟩,
      ⟨wires.toSync, wires.fromSync, ?_, ?_, ?_, wires.agreements, wires.programs, ?_⟩, sync, phase,
      handling.congr (by rw [free]; rfl) rfl, async⟩
  · rw [filterMap_concat, wires.queries, marked, accounted.owes, free]
    rfl
  · rw [filterMap_concat, wires.clears, unmarked]
    exact List.append_nil _
  · rw [wires.statuses, free]
    rfl
  · exact forall_mem_concat wires.polls fun _ _ => wellFormed_statusQuery id _

theorem Represents.sendClear (free : dialogue.client.waiting = false) (idle : dialogue.client.clear = .idle)
    (settled : dialogue.client.owes = false) :
    Simulated
      { dialogue with
        toAsync := dialogue.toAsync ++ [{ header := { type := .asyncDeviceClear } }]
        client := { dialogue.client with clear := .requested } } maxRx ledger := by
  obtain ⟨kept, accounted, wires, sync, phase, handling, async⟩ := represents
  have idle : ledger.clear = .idle := Clear.idle_of_client (accounted.clear ▸ idle)
  have marked : clearMark { header := { type := .asyncDeviceClear } } = some () := rfl
  have unmarked : queryMark { header := { type := .asyncDeviceClear } } = none := rfl
  refine .one (.clear (Poll.idle_of_free (accounted.waiting ▸ free)) idle (accounted.owes ▸ settled))
    ⟨⟨kept.syncW, kept.asyncW, kept.maxRx, ?_, kept.expected⟩,
      ⟨accounted.owes, accounted.outstanding, accounted.waiting, rfl⟩,
      ⟨?_, ?_, ?_, ?_, wires.statuses, ?_, wires.programs, ?_⟩, ?_, phase,
      handling.congr rfl (by rw [idle]; rfl), async⟩
  · rw [kept.state, idle]
    rfl
  · rw [wires.toSync, idle]
    rfl
  · rw [wires.fromSync, idle]
    rfl
  · rw [filterMap_concat, wires.queries, unmarked]
    exact List.append_nil _
  · rw [filterMap_concat, wires.clears, marked, idle]
    rfl
  · rw [wires.agreements, idle]
    rfl
  · refine forall_mem_concat wires.polls ?_
    rw [unmarked]
    exact fun _ => nofun
  · rw [Ledger.syncPhase_eq (by rw [idle]; nofun) (by rw [idle]; nofun)] at sync
    exact sync

theorem Represents.sendComplete (acknowledged : dialogue.client.clear = .acknowledged) (features : UInt8) :
    Simulated
      { dialogue with
        toSync := dialogue.toSync ++ [{ header := { type := .deviceClearComplete, control := features } }]
        client := { dialogue.client with clear := .completing } } maxRx ledger := by
  obtain ⟨kept, accounted, wires, sync, phase, handling, async⟩ := represents
  have acknowledged : ledger.clear = .acknowledged := Clear.acknowledged_of_client (accounted.clear ▸ acknowledged)
  have marked : syncMark { header := { type := .deviceClearComplete, control := features } } = some .complete := rfl
  refine .one (.complete acknowledged)
    ⟨⟨kept.syncW, kept.asyncW, kept.maxRx, ?_, kept.expected⟩,
      ⟨accounted.owes, accounted.outstanding, accounted.waiting, rfl⟩,
      ⟨?_, ?_, wires.queries, ?_, wires.statuses, ?_, ?_, wires.polls⟩, ?_, phase,
      handling.congr rfl (by rw [acknowledged]; rfl), async⟩
  · rw [kept.state, acknowledged]
    rfl
  · rw [filterMap_concat, wires.toSync, marked, acknowledged]
    simp [Clear.toSync]
  · rw [wires.fromSync, acknowledged]
    rfl
  · rw [wires.clears, acknowledged]
    rfl
  · rw [wires.agreements, acknowledged]
    rfl
  · refine forall_mem_concat wires.programs ?_
    rw [marked]
    exact fun _ => nofun
  · rw [Ledger.syncPhase_eq (by rw [acknowledged]; nofun) (by rw [acknowledged]; nofun)] at sync
    exact sync

theorem Represents.sendOther (other : Unremarkable message) :
    Represents { dialogue with toSync := dialogue.toSync ++ [message] } maxRx ledger := by
  obtain ⟨kept, accounted, wires, sync, async⟩ := represents
  have unmarked := syncMark_other other
  refine ⟨kept, accounted, ⟨?_, wires.fromSync, wires.queries, wires.clears, wires.statuses, wires.agreements, ?_,
    wires.polls⟩, sync, async⟩
  · rw [filterMap_concat, wires.toSync, unmarked]
    exact List.append_nil _
  · refine forall_mem_concat wires.programs ?_
    rw [unmarked]
    exact fun _ => nofun

theorem Represents.sendOtherAsync (other : UnremarkableAsync message) :
    Represents { dialogue with toAsync := dialogue.toAsync ++ [message] } maxRx ledger := by
  obtain ⟨kept, accounted, wires, sync, async⟩ := represents
  obtain ⟨unasked, uncleared⟩ := asyncMarks_other other
  refine ⟨kept, accounted, ⟨wires.toSync, wires.fromSync, ?_, ?_, wires.statuses, wires.agreements, wires.programs,
    ?_⟩, sync, async⟩
  · rw [filterMap_concat, wires.queries, unasked]
    exact List.append_nil _
  · rw [filterMap_concat, wires.clears, uncleared]
    exact List.append_nil _
  · refine forall_mem_concat wires.polls ?_
    rw [unasked]
    exact fun _ => nofun

end

private theorem dataEnd_first {ends : Nat} {clear : Clear}
    (wired : .dataEnd :: rest = List.replicate ends .dataEnd ++ clear.fromSync) :
    ∃ fewer, ends = fewer + 1 ∧ rest = List.replicate fewer .dataEnd ++ clear.fromSync := by
  cases ends with
  | zero => cases clear <;> cases wired
  | succ fewer => exact ⟨fewer, rfl, (List.cons_eq_cons.mp wired).2⟩

private theorem acknowledged_first {ends : Nat} {clear : Clear}
    (wired : .acknowledged :: rest = List.replicate ends .dataEnd ++ clear.fromSync) :
    ends = 0 ∧ clear = .returned ∧ rest = [] := by
  cases ends with
  | zero => cases clear <;> first | exact ⟨rfl, rfl, (List.cons_eq_cons.mp wired).2⟩ | cases wired
  | succ fewer => cases (List.cons_eq_cons.mp wired).1

theorem Represents.hearSync (represents : Represents dialogue maxRx ledger) {rest : List Header}
    (next : dialogue.fromSync = header :: rest) :
    Simulated { dialogue with fromSync := rest, client := dialogue.client.hear header } maxRx ledger := by
  obtain ⟨kept, accounted, wires, sync, phase, handling, async⟩ := represents
  have wired := wires.fromSync
  rw [next] at wired
  by_cases ending : header.type = .dataEnd
  · rw [List.filterMap_cons_some (show endMark header = some .dataEnd from if_pos ending)] at wired
    obtain ⟨fewer, ends, behind⟩ := dataEnd_first wired
    by_cases idle : ledger.clear = .idle
    · have hears : dialogue.client.hear header = { dialogue.client with owes := true, outstanding := false } := by
        rw [Client.hear, if_pos ending, if_pos (by rw [accounted.clear, idle]; rfl)]
      rw [hears]
      exact .one (.consume ends idle)
        ⟨⟨kept.syncW, kept.asyncW, kept.maxRx, kept.state, kept.expected⟩,
          ⟨rfl, rfl, accounted.waiting, accounted.clear⟩,
          ⟨wires.toSync, behind, wires.queries, wires.clears, wires.statuses, wires.agreements, wires.programs,
            wires.polls⟩, sync, phase, handling, async⟩
    · have hears : dialogue.client.hear header = dialogue.client := by
        rw [Client.hear, if_pos ending, if_neg fun same => idle (Clear.idle_of_client (accounted.clear ▸ same))]
      rw [hears]
      exact .one (.discard ends idle)
        ⟨⟨kept.syncW, kept.asyncW, kept.maxRx, kept.state, kept.expected⟩,
          ⟨accounted.owes, accounted.outstanding, accounted.waiting, accounted.clear⟩,
          ⟨wires.toSync, behind, wires.queries, wires.clears, wires.statuses, wires.agreements, wires.programs,
            wires.polls⟩, sync, phase, handling, async⟩
  by_cases acknowledging : header.type = .deviceClearAcknowledge
  · have marked : endMark header = some .acknowledged := by rw [endMark, if_neg ending, if_pos acknowledging]
    rw [List.filterMap_cons_some marked] at wired
    obtain ⟨first, returned, behind⟩ := acknowledged_first wired
    have hears : dialogue.client.hear header = { dialogue.client with clear := .idle, outstanding := false } := by
      rw [Client.hear, if_neg ending, if_pos acknowledging]
    rw [hears]
    refine .one (.cleared returned first)
      ⟨⟨kept.syncW, kept.asyncW, kept.maxRx, ?_, kept.expected⟩,
        ⟨accounted.owes, rfl, accounted.waiting, rfl⟩,
        ⟨?_, ?_, wires.queries, ?_, wires.statuses, ?_, wires.programs, wires.polls⟩, ?_, phase,
        handling.congr rfl (by rw [returned]; rfl), async⟩
    · rw [kept.state, returned]
      rfl
    · rw [wires.toSync, returned]
      rfl
    · rw [behind, first]
      rfl
    · rw [wires.clears, returned]
      rfl
    · rw [wires.agreements, returned]
      rfl
    · rw [Ledger.syncPhase_eq (by rw [returned]; nofun) (by rw [returned]; nofun)] at sync
      exact sync
  · have unmarked : endMark header = none := by rw [endMark, if_neg ending, if_neg acknowledging]
    have hears : dialogue.client.hear header = dialogue.client := by
      rw [Client.hear, if_neg ending, if_neg acknowledging]
    rw [List.filterMap_cons_none unmarked] at wired
    rw [hears]
    exact .none ⟨kept, accounted, ⟨wires.toSync, wired, wires.queries, wires.clears, wires.statuses, wires.agreements,
      wires.programs, wires.polls⟩, sync, phase, handling, async⟩

theorem Represents.hearAsync (represents : Represents dialogue maxRx ledger) {rest : List Header}
    (next : dialogue.fromAsync = header :: rest) :
    Simulated { dialogue with fromAsync := rest, client := dialogue.client.hearAsync header } maxRx ledger := by
  obtain ⟨kept, accounted, wires, sync, phase, handling, async⟩ := represents
  have statuses := wires.statuses
  have agreements := wires.agreements
  rw [next] at statuses agreements
  by_cases answering : header.type = .asyncStatusResponse
  · have unagreed : agreementMark header = none := if_neg (by rw [answering]; decide)
    rw [List.filterMap_cons_some (show statusMark header = some () from if_pos answering)] at statuses
    rw [List.filterMap_cons_none unagreed] at agreements
    obtain ⟨answered, behind⟩ := Poll.answered_of_wire statuses
    have hears : dialogue.client.hearAsync header = { dialogue.client with waiting := false } := if_pos answering
    rw [hears]
    refine .one (.answered answered)
      ⟨⟨kept.syncW, kept.asyncW, kept.maxRx, kept.state, kept.expected⟩,
        ⟨accounted.owes, accounted.outstanding, rfl, accounted.clear⟩,
        ⟨wires.toSync, wires.fromSync, ?_, wires.clears, behind, agreements, wires.programs, wires.polls⟩, sync, phase,
        handling.congr (by rw [answered]; rfl) rfl, async⟩
    rw [wires.queries, answered]
    rfl
  rw [List.filterMap_cons_none (show statusMark header = none from if_neg answering)] at statuses
  by_cases agreeing : header.type = .asyncDeviceClearAcknowledge
  · rw [List.filterMap_cons_some (show agreementMark header = some () from if_pos agreeing)] at agreements
    obtain ⟨agreed, behind⟩ := Clear.agreed_of_wire agreements
    have hears : dialogue.client.hearAsync header = { dialogue.client with clear := .acknowledged } := by
      rw [Client.hearAsync, if_neg answering, if_pos agreeing]
    rw [hears]
    refine .one (.agreed agreed)
      ⟨⟨kept.syncW, kept.asyncW, kept.maxRx, ?_, kept.expected⟩,
        ⟨accounted.owes, accounted.outstanding, accounted.waiting, rfl⟩,
        ⟨?_, ?_, wires.queries, ?_, statuses, behind, wires.programs, wires.polls⟩, ?_, phase,
        handling.congr rfl (by rw [agreed]; rfl), async⟩
    · rw [kept.state, agreed]
      rfl
    · rw [wires.toSync, agreed]
      rfl
    · rw [wires.fromSync, agreed]
      rfl
    · rw [wires.clears, agreed]
      rfl
    · rw [Ledger.syncPhase_eq (by rw [agreed]; nofun) (by rw [agreed]; nofun)] at sync
      exact sync
  · have hears : dialogue.client.hearAsync header = dialogue.client := by
      rw [Client.hearAsync, if_neg answering, if_neg agreeing]
    rw [List.filterMap_cons_none (show agreementMark header = none from if_neg agreeing)] at agreements
    rw [hears]
    exact .none ⟨kept, accounted, ⟨wires.toSync, wires.fromSync, wires.queries, wires.clears, statuses, agreements,
      wires.programs, wires.polls⟩, sync, phase, handling, async⟩

end Client

section Taking
variable {dialogue : Dialogue σ} {maxRx : UInt64} {ledger : Ledger} {rest : List SyncMark} {programs : List Bool}
  (message : Message)

theorem syncMark_cases :
    (∃ program : ProgramMessage, program.toMessage = message ∧
        syncMark message = some (.program message.header.rmtDelivered)) ∨
      (message.err = none ∧ message.header.type = .deviceClearComplete ∧ syncMark message = some .complete) ∨
      Unremarkable message := by
  unfold syncMark
  split
  next unread => exact .inr (.inr fun read => absurd read unread)
  next read =>
    split
    next kind => exact .inl ⟨⟨message, kind⟩, rfl, rfl⟩
    next other =>
      split
      next complete => exact .inr (.inl ⟨not_not.mp read, complete, rfl⟩)
      next incomplete =>
        obtain ⟨data, others⟩ := not_or.mp other
        exact .inr (.inr fun _ => ⟨data, (not_or.mp others).1, (not_or.mp others).2, incomplete⟩)

private theorem program_first {delivered : Bool} {clear : Clear}
    (wired : .program delivered :: rest = programs.map .program ++ clear.toSync) :
    ∃ others, programs = delivered :: others ∧ rest = others.map .program ++ clear.toSync := by
  cases programs with
  | nil => cases clear <;> cases wired
  | cons first others =>
    obtain ⟨same, behind⟩ := List.cons_eq_cons.mp wired
    cases same
    exact ⟨others, rfl, behind⟩

private theorem complete_first {clear : Clear} (wired : .complete :: rest = programs.map .program ++ clear.toSync) :
    programs = [] ∧ clear = .completed ∧ rest = [] := by
  cases programs with
  | nil => cases clear <;> first | exact ⟨rfl, rfl, (List.cons_eq_cons.mp wired).2⟩ | cases wired
  | cons first others => cases (List.cons_eq_cons.mp wired).1

section
variable (represents : Represents dialogue maxRx ledger)
include represents

theorem Represents.abandon
    (sync : dialogue.sync.Follows (syncDiscipline maxRx) Rests
      (Ledger.syncPhase { ledger with clear := ledger.clear.abandoned }))
    (async : ∃ phase, Ledger.Handling { ledger with clear := ledger.clear.abandoned } phase ∧
      dialogue.async.Follows (asyncDiscipline maxRx) RestsAsync phase) :
    Represents dialogue maxRx { ledger with clear := ledger.clear.abandoned } := by
  obtain ⟨toSync, fromSync, toAsync, fromAsync, client, clearing⟩ := ledger.clear.abandoned_unnoticed
  obtain ⟨kept, accounted, wires, -, -⟩ := represents
  exact ⟨⟨kept.syncW, kept.asyncW, kept.maxRx, by rw [kept.state, clearing], kept.expected⟩,
    ⟨accounted.owes, accounted.outstanding, accounted.waiting, by rw [accounted.clear, client]⟩,
    ⟨by rw [wires.toSync, toSync], by rw [wires.fromSync, fromSync], wires.queries, by rw [wires.clears, toAsync],
      wires.statuses, by rw [wires.agreements, fromAsync], wires.programs, wires.polls⟩, sync, async⟩

theorem Represents.restSync (balanced : ledger.Balanced) (done : dialogue.sync = .pure none) :
    ∃ after, ReflTransGen Ledger.Step ledger after ∧ Represents dialogue maxRx after ∧ after.stage = .resting ∧
      after.clear ≠ .resetting ∧ after.clear ≠ .reset := by
  obtain ⟨kept, accounted, wires, sync, phase, handling, async⟩ := id represents
  rw [done] at sync
  have rests : ledger.syncPhase.mayRest = true := sync
  have finish : ∀ {after : Ledger}, after.stage = .resting → after.clear ≠ .resetting → after.clear ≠ .reset →
      dialogue.sync.Follows (syncDiscipline maxRx) Rests after.syncPhase := by
    intro after resting unfinished unreset
    rw [Ledger.syncPhase_eq unfinished unreset, resting, done]
    rfl
  by_cases finishing : ledger.clear = .resetting ∨ ledger.clear = .reset
  · have resting : ledger.stage = .resting := finishing.elim (fun same => (balanced.resetting same).1)
      fun same => (balanced.late (by rw [same]; rfl)).1
    have left : ledger.clear.abandoned ≠ .resetting ∧ ledger.clear.abandoned ≠ .reset ∧
        ledger.clear.abandoned.phase = ledger.clear.phase := by
      obtain same | same := finishing <;> rw [same] <;> exact ⟨nofun, nofun, rfl⟩
    exact ⟨_, .single .abandon, represents.abandon (finish resting left.1 left.2.1)
      ⟨phase, handling.congr rfl left.2.2, async⟩, resting, left.1, left.2.1⟩
  · obtain ⟨unfinished, unreset⟩ := not_or.mp finishing
    rw [Ledger.syncPhase_eq unfinished unreset] at rests
    by_cases resting : ledger.stage = .resting
    · exact ⟨ledger, .refl, ⟨kept, accounted, wires, finish resting unfinished unreset, phase, handling, async⟩, resting,
        unfinished, unreset⟩
    · have leaves : ledger.stage = .judged ∨ ledger.stage = .answering := by
        revert rests resting
        cases ledger.stage <;> simp [Stage.phase, SyncPhase.mayRest]
      exact ⟨_, .single (.rest leaves), ⟨⟨kept.syncW, kept.asyncW, kept.maxRx, kept.state, kept.expected⟩,
        ⟨accounted.owes, accounted.outstanding, accounted.waiting, accounted.clear⟩,
        ⟨wires.toSync, wires.fromSync, wires.queries, wires.clears, wires.statuses, wires.agreements, wires.programs,
          wires.polls⟩, finish rfl unfinished unreset, phase, handling, async⟩, rfl, unfinished, unreset⟩

theorem Represents.takeSync (balanced : ledger.Balanced) (done : dialogue.sync = .pure none) {message : Message}
    {rest : List Message} (next : dialogue.toSync = message :: rest) (config : Config) (fuel : Nat) :
    Simulated { dialogue with toSync := rest, sync := handleSync config message fuel } maxRx ledger := by
  obtain ⟨rested, reaches, ⟨kept, accounted, wires, -, phase, handling, async⟩, resting, unfinished, unreset⟩ :=
    represents.restSync balanced done
  have wired := wires.toSync
  have programs : ∀ other ∈ rest, ∀ delivered, syncMark other = some (.program delivered) → WellFormed other maxRx :=
    fun other member => wires.programs other (by rw [next]; exact List.mem_cons_of_mem _ member)
  rw [next] at wired
  obtain ⟨program, rfl, marked⟩ | ⟨read, kind, marked⟩ | other := syncMark_cases message
  · rw [List.filterMap_cons_some marked] at wired
    obtain ⟨others, first, behind⟩ := program_first wired
    have fine := wires.programs _ (by rw [next]; exact List.mem_cons_self) _ marked
    refine ⟨_, reaches.tail (.take first resting), ⟨kept.syncW, kept.asyncW, kept.maxRx, kept.state, kept.expected⟩,
      ⟨accounted.owes, accounted.outstanding, accounted.waiting, accounted.clear⟩,
      ⟨behind, wires.fromSync, wires.queries, wires.clears, wires.statuses, wires.agreements, programs, wires.polls⟩,
      ?_, phase, handling, async⟩
    have held : Ledger.syncPhase { rested with programs := others, stage := .taken program.header.rmtDelivered } =
        .taken program.header.rmtDelivered := Ledger.syncPhase_eq unfinished unreset
    rw [held]
    exact handleSync_program config fine fuel
  · rw [List.filterMap_cons_some marked] at wired
    obtain ⟨empty, completed, behind⟩ := complete_first wired
    refine ⟨_, reaches.tail (.takeComplete completed empty resting),
      ⟨kept.syncW, kept.asyncW, kept.maxRx, ?_, kept.expected⟩,
      ⟨accounted.owes, accounted.outstanding, accounted.waiting, ?_⟩,
      ⟨?_, ?_, wires.queries, ?_, wires.statuses, ?_, programs, wires.polls⟩,
      handleSync_complete config read kind fuel, phase, handling.congr rfl (by rw [completed]; rfl), async⟩
    · rw [kept.state, completed]
      rfl
    · rw [accounted.clear, completed]
      rfl
    · rw [behind, empty]
      rfl
    · rw [wires.fromSync, completed]
      rfl
    · rw [wires.clears, completed]
      rfl
    · rw [wires.agreements, completed]
      rfl
  · rw [List.filterMap_cons_none (syncMark_other other)] at wired
    refine ⟨rested, reaches, kept, accounted, ⟨wired, wires.fromSync, wires.queries, wires.clears, wires.statuses,
      wires.agreements, programs, wires.polls⟩, ?_, phase, handling, async⟩
    rw [Ledger.syncPhase_eq unfinished unreset, resting]
    exact rests_of_calm (handleSync_calm config other fuel) rfl

theorem Represents.restAsync (done : dialogue.async = .pure none) :
    ∃ after, ReflTransGen Ledger.Step ledger after ∧ Represents dialogue maxRx after ∧ after.poll.phase = none ∧
      after.clear.phase = none := by
  obtain ⟨kept, accounted, wires, sync, phase, handling, async⟩ := id represents
  rw [done] at async
  have rests : phase.mayRest = true := async
  have finish : ∀ {after : Ledger}, after.poll.phase = none → after.clear.phase = none →
      ∃ phase, after.Handling phase ∧ dialogue.async.Follows (asyncDiscipline maxRx) RestsAsync phase := by
    intro after unpolled uncleared
    refine ⟨.resting, .inr (.inr ⟨unpolled, uncleared, rfl⟩), ?_⟩
    rw [done]
    rfl
  obtain ⟨polls, uncleared⟩ | ⟨unpolled, clears⟩ | ⟨unpolled, uncleared, -⟩ := handling
  · have polled := Poll.polled_of_rests polls rests
    refine ⟨_, .single (.loseQuery polled), ⟨⟨kept.syncW, kept.asyncW, kept.maxRx, kept.state, kept.expected⟩,
      ⟨accounted.owes, accounted.outstanding, ?_, accounted.clear⟩,
      ⟨wires.toSync, wires.fromSync, ?_, wires.clears, ?_, wires.agreements, wires.programs, wires.polls⟩, sync,
      finish rfl uncleared⟩, rfl, uncleared⟩
    · rw [accounted.waiting, polled]
      rfl
    · rw [wires.queries, polled]
      rfl
    · rw [wires.statuses, polled]
      rfl
  · obtain preparing | begun := Clear.handled_of_phase clears
    · refine ⟨_, .single .abandon, represents.abandon ?_ (finish unpolled ?_), unpolled, ?_⟩
      · rw [Ledger.syncPhase_eq (by rw [preparing]; nofun) (by rw [preparing]; nofun)] at sync ⊢
        exact sync
      all_goals rw [preparing]; rfl
    · refine ⟨_, .single .abandon, represents.abandon ?_ (finish unpolled ?_), unpolled, ?_⟩
      · rw [Ledger.syncPhase_eq (by rw [begun]; nofun) (by rw [begun]; nofun)] at sync ⊢
        exact sync
      all_goals rw [begun]; rfl
  · exact ⟨ledger, .refl, ⟨kept, accounted, wires, sync, finish unpolled uncleared⟩, unpolled, uncleared⟩

end

theorem asyncMark_cases :
    (message.header.type = .asyncStatusQuery ∧ queryMark message = some message.header.rmtDelivered ∧
        clearMark message = none) ∨
      (message.err = none ∧ message.header.type = .asyncDeviceClear ∧ queryMark message = none ∧
        clearMark message = some ()) ∨
      UnremarkableAsync message := by
  by_cases read : message.err = none
  · by_cases query : message.header.type = .asyncStatusQuery
    · exact .inl ⟨query, if_pos ⟨read, query⟩, if_neg fun found => by rw [query] at found; exact absurd found.2 (by decide)⟩
    by_cases clear : message.header.type = .asyncDeviceClear
    · exact .inr (.inl ⟨read, clear, if_neg fun found => query found.2, if_pos ⟨read, clear⟩⟩)
    · exact .inr (.inr fun _ => ⟨query, clear⟩)
  · exact .inr (.inr fun same => absurd same read)

theorem Represents.takeAsync (represents : Represents dialogue maxRx ledger) (done : dialogue.async = .pure none)
    {message : Message} {rest : List Message} (next : dialogue.toAsync = message :: rest) (config : Config)
    (fuel : Nat) :
    Simulated { dialogue with toAsync := rest, async := handleAsync config message fuel } maxRx ledger := by
  obtain ⟨rested, reaches, ⟨kept, accounted, wires, sync, -⟩, unpolled, uncleared⟩ := represents.restAsync done
  have queries := wires.queries
  have clears := wires.clears
  have polls : ∀ other ∈ rest, ∀ delivered, queryMark other = some delivered → WellFormed other maxRx :=
    fun other member => wires.polls other (by rw [next]; exact List.mem_cons_of_mem _ member)
  rw [next] at queries clears
  obtain ⟨kind, marked, unmarked⟩ | ⟨read, kind, unmarked, marked⟩ | other := asyncMark_cases message
  · rw [List.filterMap_cons_some marked] at queries
    rw [List.filterMap_cons_none unmarked] at clears
    have fine := wires.polls _ (by rw [next]; exact List.mem_cons_self) _ marked
    obtain ⟨sent, behind⟩ := Poll.sent_of_wire queries
    refine ⟨_, reaches.tail (.takeQuery sent), ⟨kept.syncW, kept.asyncW, kept.maxRx, kept.state, kept.expected⟩,
      ⟨accounted.owes, accounted.outstanding, ?_, accounted.clear⟩,
      ⟨wires.toSync, wires.fromSync, behind, clears, ?_, wires.agreements, wires.programs, polls⟩, sync,
      .querying message.header.rmtDelivered, .inl ⟨rfl, uncleared⟩, handleAsync_query config fine kind fuel⟩
    · rw [accounted.waiting, sent]
      rfl
    · rw [wires.statuses, sent]
      rfl
  · rw [List.filterMap_cons_none unmarked] at queries
    rw [List.filterMap_cons_some marked] at clears
    obtain ⟨requested, behind⟩ := Clear.requested_of_wire clears
    refine ⟨_, reaches.tail (.takeClear requested), ⟨kept.syncW, kept.asyncW, kept.maxRx, ?_, kept.expected⟩,
      ⟨accounted.owes, accounted.outstanding, accounted.waiting, ?_⟩,
      ⟨?_, ?_, queries, behind, wires.statuses, ?_, wires.programs, polls⟩, ?_,
      .preparing, .inr (.inl ⟨unpolled, rfl⟩), handleAsync_clear config read kind fuel⟩
    · rw [kept.state, requested]
      rfl
    · rw [accounted.clear, requested]
      rfl
    · rw [wires.toSync, requested]
      rfl
    · rw [wires.fromSync, requested]
      rfl
    · rw [wires.agreements, requested]
      rfl
    · rw [Ledger.syncPhase_eq (by rw [requested]; nofun) (by rw [requested]; nofun)] at sync
      exact sync
  · obtain ⟨unasked, uncalled⟩ := asyncMarks_other other
    rw [List.filterMap_cons_none unasked] at queries
    rw [List.filterMap_cons_none uncalled] at clears
    exact ⟨rested, reaches, kept, accounted, ⟨wires.toSync, wires.fromSync, queries, clears, wires.statuses,
      wires.agreements, wires.programs, polls⟩, sync, .resting, .inr (.inr ⟨unpolled, uncleared, rfl⟩),
      ((handleAsync_calm config other fuel).async .resting).mono fun _ _ ⟨_, same⟩ => same ▸ rfl⟩

end Taking

end Hislip.Proofs.Agreement
