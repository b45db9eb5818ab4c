import Hislip.Proofs.LoopSteps

/-! A conforming client is not judged interrupted, unless its report of a DataEnd
overtakes the server's own note of having sent it. -/

namespace Hislip.Proofs.ConformingClient
open Hislip.Server Footprint SyncChannel LoopPhases Ledger Dialogue Agreement Act Program Transition Relation

variable {σ : Type}

section Runs
variable {dialogue after : Dialogue σ} {maxRx : UInt64} {ledger : Ledger} {policy : ResponsePolicy σ}

def Balances (maxRx : UInt64) (dialogue : Dialogue σ) : Prop :=
  ∃ ledger : Ledger, Represents dialogue maxRx ledger ∧ ledger.Balanced

theorem balances_of_simulated (simulated : Simulated dialogue maxRx ledger) (balanced : ledger.Balanced) :
    Balances maxRx dialogue := by
  obtain ⟨later, steps, represents⟩ := simulated
  exact ⟨later, represents, balanced.steps steps⟩

private theorem sends_of_recognises {op : Op} {reply : op.Reply} {next : op.Reply → Act (Option Err)}
    {answers : Answers} {shared : Shared σ} (running : dialogue.sync = .request op next)
    (replied : dialogue.reply policy answers op = some (reply, shared)) (recognised : recognises op reply = true)
    (sends : dialogue.SendsInTurn policy (.advanceSync answers)) :
    ∀ message ∈ dialogue.toSync, message.err = none →
      message.header.type ≠ .data ∧ message.header.type ≠ .dataEnd ∧ message.header.type ≠ .trigger := by
  unfold recognises at recognised
  split at recognised
  next reply =>
    refine sends (by rw [running]; rfl) ?_
    rw [← of_decide_eq_true recognised]
    exact congrArg Prod.fst (Option.some_inj.mp replied)
  next => cases recognised

theorem Balances.step (balances : Balances maxRx dialogue) {config : Config} {action : Action}
    (inTurn : dialogue.SendsInTurn policy action ∧ dialogue.ReportsInTurn action)
    (moved : dialogue.step policy config action = some after) : Balances maxRx after := by
  obtain ⟨ledger, represents, balanced⟩ := balances
  obtain ⟨sends, reports⟩ := inTurn
  suffices simulated : Simulated after maxRx ledger from balances_of_simulated simulated balanced
  cases action with
  | sendProgram message =>
    simp only [Dialogue.step, Option.ite_none_right_eq_some, Option.some_inj] at moved
    obtain ⟨⟨free, answered, idle, flagged, fine⟩, rfl⟩ := moved
    rw [represents.kept.maxRx] at fine
    exact represents.sendProgram free answered idle flagged fine
  | sendQuery id =>
    simp only [Dialogue.step, Option.ite_none_right_eq_some, Option.some_inj] at moved
    obtain ⟨free, rfl⟩ := moved
    exact represents.sendQuery free id
  | sendClear =>
    simp only [Dialogue.step, Option.ite_none_right_eq_some, Option.some_inj] at moved
    obtain ⟨⟨free, idle⟩, rfl⟩ := moved
    exact represents.sendClear free idle reports
  | sendComplete features =>
    simp only [Dialogue.step, Option.ite_none_right_eq_some, Option.some_inj] at moved
    obtain ⟨⟨-, acknowledged⟩, rfl⟩ := moved
    exact represents.sendComplete acknowledged features
  | sendOther message =>
    simp only [Dialogue.step, Option.ite_none_right_eq_some, Option.some_inj] at moved
    obtain ⟨⟨-, other⟩, rfl⟩ := moved
    exact .none (represents.sendOther other)
  | sendOtherAsync message =>
    simp only [Dialogue.step, Option.ite_none_right_eq_some, Option.some_inj] at moved
    obtain ⟨⟨-, other⟩, rfl⟩ := moved
    exact .none (represents.sendOtherAsync other)
  | hearSync =>
    simp only [Dialogue.step] at moved
    split at moved
    next header rest next => cases moved; exact represents.hearSync next
    next => cases moved
  | hearAsync =>
    simp only [Dialogue.step] at moved
    split at moved
    next header rest next => cases moved; exact represents.hearAsync next
    next => cases moved
  | takeSync fuel =>
    simp only [Dialogue.step] at moved
    split at moved
    next message rest done next => cases moved; exact represents.takeSync balanced done next config fuel
    next => cases moved
  | takeAsync fuel =>
    simp only [Dialogue.step] at moved
    split at moved
    next message rest done next => cases moved; exact represents.takeAsync done next config fuel
    next => cases moved
  | advanceSync answers =>
    simp only [Dialogue.step] at moved
    split at moved
    next op next running =>
      obtain ⟨⟨reply, shared⟩, replied, rfl⟩ := Option.map_eq_some_iff.mp moved
      exact represents.advanceSync balanced running replied fun recognised =>
        represents.wires.no_programs (sends_of_recognises running replied recognised sends)
    next => cases moved
  | advanceAsync answers =>
    simp only [Dialogue.step] at moved
    split at moved
    next op next running =>
      obtain ⟨⟨reply, shared⟩, replied, rfl⟩ := Option.map_eq_some_iff.mp moved
      refine represents.advanceAsync running replied fun same wrote => ?_
      subst same
      exact reports (by rw [running]; rfl) (represents.raises balanced wrote)
    next => cases moved

theorem judged_of_agreed {rmt : RMT} {delivered : Bool} (agreed : rmt.expected = delivered) :
    ((RMTOp.receivedSyncMessage delivered).apply rmt).1 ≠ .rmtMismatch := by
  obtain ⟨expected⟩ := rmt
  cases agreed
  cases expected <;> decide

theorem Balances.neverMismatched (balances : Balances maxRx dialogue) : dialogue.NeverMismatched := by
  obtain ⟨ledger, represents, balanced⟩ := balances
  intro loop member delivered next
  rcases List.mem_pair.mp member with rfl | rfl
  · have sync := represents.sync
    cases running : dialogue.sync with
    | pure value => rw [running] at next; cases next
    | request op rest =>
      rw [running] at next sync
      cases next
      have standing : ledger.syncPhase = (Stage.committed delivered).phase := sync.1
      obtain ⟨committed, -⟩ := Ledger.stage_of (.committed delivered) standing
      exact judged_of_agreed (represents.kept.expected.trans (balanced.agreed committed))
  · obtain ⟨phase, -, async⟩ := represents.async
    cases running : dialogue.async with
    | pure value => rw [running] at next; cases next
    | request op rest =>
      rw [running] at next async
      cases next
      cases (show true = false from async.1)

theorem balances_initially (profile : Profile) (policy : ResponsePolicy σ) (id : UInt16) (version : Version)
    (current : version.less .version10 = false) (sync async : Stream) :
    Balances profile.maxRxPayload
      { shared := { session := .paired profile policy id version current sync async } : Dialogue σ } :=
  ⟨{}, {
    kept := ⟨rfl, rfl, rfl, rfl, rfl⟩
    accounted := ⟨rfl, rfl, rfl, rfl⟩
    wires := ⟨rfl, rfl, rfl, rfl, rfl, rfl, nofun, nofun⟩
    sync := rfl
    async := ⟨.resting, .inr (.inr ⟨rfl, rfl, rfl⟩), rfl⟩ }, .initially⟩

/-- In every run in which a query has no program message behind it and no report comes
before the server expects it, no message of the client is judged mismatched. -/
theorem never_mismatched (profile : Profile) (policy : ResponsePolicy σ) (id : UInt16) (version : Version)
    (current : version.less .version10 = false) (sync async : Stream) (actions : List Action)
    (inTurn : Throughout (Dialogue.step policy profile.toConfig)
      (fun dialogue action => dialogue.SendsInTurn policy action ∧ dialogue.ReportsInTurn action) actions
      { shared := { session := .paired profile policy id version current sync async } }) :
    Always (Dialogue.step policy profile.toConfig) Dialogue.NeverMismatched actions
      { shared := { session := .paired profile policy id version current sync async } } :=
  always_of_invariant (fun _ => Balances.neverMismatched) (fun _ _ _ balances met moved => balances.step met moved)
    (balances_initially profile policy id version current sync async) inTurn

def answering : Answers
  | .write _ _ _ | .send _ _ _ => some none
  | .read _ _ => some ⟨[65], true, none⟩
  | .pending => some false
  | .readStatusByte _ => some (.ok 0)
  | _ => none

def emptyQuery : ProgramMessage := ⟨{ header := { type := .dataEnd } }, dataEnd_kind⟩

def freshDialogue : Dialogue Unit :=
  { shared := { session := .paired .standard alwaysReadPolicy 1 .version10 Version.version10_current 0 1 } }

/-- A query, up to where its DataEnd is on the wire and not yet noted. -/
def untilWritten : List Action := [.sendProgram emptyQuery, .takeSync 1] ++ List.replicate 23 (.advanceSync answering)

def report : List Action := [.hearSync, .sendQuery 0, .takeAsync 0] ++ List.replicate 11 (.advanceAsync answering)

def nextMessage : List Action :=
  [.hearAsync, .sendProgram emptyQuery, .takeSync 1] ++ List.replicate 5 (.advanceSync answering)

theorem never_mismatched_reported_late :
    Throughout (Dialogue.step alwaysReadPolicy Profile.standard.toConfig)
        (fun dialogue action => dialogue.SendsInTurn alwaysReadPolicy action ∧ dialogue.ReportsInTurn action)
        (untilWritten ++ List.replicate 6 (.advanceSync answering) ++ report ++ nextMessage) freshDialogue ∧
      Always (Dialogue.step alwaysReadPolicy Profile.standard.toConfig) Dialogue.NeverMismatched
        (untilWritten ++ List.replicate 6 (.advanceSync answering) ++ report ++ nextMessage) freshDialogue :=
  ⟨by decide +kernel, never_mismatched .standard alwaysReadPolicy 1 .version10 rfl 0 1 _ (by decide +kernel)⟩

/-- The report is handled between the write of the DataEnd and the note of it: the
expectation is raised with nothing left to meet it. -/
theorem mismatched_after_early_report :
    Throughout (Dialogue.step alwaysReadPolicy Profile.standard.toConfig) (Dialogue.SendsInTurn alwaysReadPolicy)
        (untilWritten ++ report ++ List.replicate 6 (.advanceSync answering) ++ nextMessage) freshDialogue ∧
      ∃ dialogue, finish (Dialogue.step alwaysReadPolicy Profile.standard.toConfig)
          (untilWritten ++ report ++ List.replicate 6 (.advanceSync answering) ++ nextMessage) freshDialogue =
          some dialogue ∧
        upcoming dialogue.sync = some (.shared (.session (.rmt (.receivedSyncMessage false)))) ∧
        ((RMTOp.receivedSyncMessage false).apply dialogue.shared.session.rmt).1 = .rmtMismatch :=
  ⟨by decide, _, rfl, rfl, rfl⟩

end Runs

end Hislip.Proofs.ConformingClient
