import Hislip.Proofs.Agreement

/-! The operations of the two loops, as steps of the ledger. An operation that is not
marked changes nothing the ledger records; the others are taken one by one. -/

namespace Hislip.Proofs.Ledger
open LoopPhases

variable {ledger : Ledger} {phase : AsyncPhase}

theorem staged {phase : SyncPhase} (standing : ledger.syncPhase = phase) (working : phase ≠ .resetting)
    (unreset : phase ≠ .reset) : ledger.stage.phase = phase ∧ ledger.clear ≠ .resetting ∧ ledger.clear ≠ .reset := by
  unfold syncPhase at standing
  split at standing
  · exact absurd standing.symm working
  · exact absurd standing.symm unreset
  next unfinished other => exact ⟨standing, unfinished, other⟩

theorem Stage.of_phase {stage other : Stage} (same : stage.phase = other.phase) : stage = other := by
  cases stage <;> cases other <;> cases same <;> rfl

theorem stage_of (stage : Stage) (standing : ledger.syncPhase = stage.phase) :
    ledger.stage = stage ∧ ledger.clear ≠ .resetting ∧ ledger.clear ≠ .reset := by
  obtain ⟨same, rest⟩ := staged standing (by cases stage <;> nofun) (by cases stage <;> nofun)
  exact ⟨Stage.of_phase same, rest⟩

private theorem Stage.phase_ne (stage : Stage) : stage.phase ≠ .resetting ∧ stage.phase ≠ .reset := by
  cases stage <;> exact ⟨nofun, nofun⟩

theorem clear_of_resetting (standing : ledger.syncPhase = .resetting) : ledger.clear = .resetting := by
  unfold syncPhase at standing
  split at standing
  next resetting => exact resetting
  next => cases standing
  next => exact absurd standing (Stage.phase_ne _).1

theorem clear_of_reset (standing : ledger.syncPhase = .reset) : ledger.clear = .reset := by
  unfold syncPhase at standing
  split at standing
  next => cases standing
  next reset => exact reset
  next => exact absurd standing (Stage.phase_ne _).2

theorem Poll.of_phase {poll other : Poll} (same : poll.phase = other.phase) (handled : other.phase ≠ none) :
    poll = other := by
  cases other with
  | held delivered => cases poll <;> first | cases same; rfl | cases same
  | polled => cases poll <;> first | rfl | cases same
  | _ => exact absurd rfl handled

theorem Clear.of_phase {clear other : Clear} (same : clear.phase = other.phase) (handled : other.phase ≠ none) :
    clear = other := by
  cases other with
  | preparing | begun => cases clear <;> first | rfl | cases same
  | _ => exact absurd rfl handled

theorem Handling.poll (handling : ledger.Handling phase) (poll : Poll) (standing : poll.phase = some phase) :
    ledger.poll = poll ∧ ledger.clear.phase = none := by
  obtain ⟨holds, other⟩ | ⟨-, holds⟩ | ⟨-, -, rfl⟩ := handling
  · exact ⟨Poll.of_phase (holds.trans standing.symm) (by rw [standing]; nofun), other⟩
  · obtain same | same := Clear.handled_of_phase holds <;>
      rw [same] at holds <;> cases holds <;> cases poll <;> cases standing
  · cases poll <;> cases standing

theorem Handling.clear (handling : ledger.Handling phase) (clear : Clear) (standing : clear.phase = some phase) :
    ledger.clear = clear ∧ ledger.poll.phase = none := by
  obtain ⟨holds, -⟩ | ⟨other, holds⟩ | ⟨-, -, rfl⟩ := handling
  · obtain rfl | rfl := Clear.handled_of_phase standing <;> cases standing <;>
      cases found : ledger.poll <;> rw [found] at holds <;> cases holds
  · exact ⟨Clear.of_phase (holds.trans standing.symm) (by rw [standing]; nofun), other⟩
  · cases clear <;> cases standing

end Hislip.Proofs.Ledger

namespace Hislip.Proofs.Agreement
open Hislip.Server Footprint SyncChannel LoopPhases Ledger Dialogue Act Program Transition Relation

variable {σ : Type}

section Operations
variable {dialogue : Dialogue σ} {maxRx : UInt64} {ledger : Ledger} {policy : ResponsePolicy σ} {answers : Answers}
  {shared : Shared σ} {op : Op} {reply : op.Reply}

theorem Kept.possible (kept : Kept shared.session maxRx ledger) (op : SharedOp) :
    possible maxRx (.shared op) (op.apply policy shared).1 := by
  cases op with
  | session op =>
    cases op with
    | state =>
      change shared.session.state = .ready ∨ shared.session.state = .clearing
      rw [kept.state]
      split
      · exact .inr rfl
      · exact .inl rfl
    | version => exact shared.session.current
    | maxRx => exact kept.maxRx
    | syncWriter => exact kept.syncW
    | asyncWriter => exact kept.asyncW
    | _ => trivial
  | _ => trivial

theorem Kept.replies (kept : Kept dialogue.shared.session maxRx ledger)
    (replied : dialogue.reply policy answers op = some (reply, shared)) : LoopPhases.possible maxRx op reply := by
  cases op with
  | shared op =>
    obtain rfl := congrArg Prod.fst (Option.some_inj.mp replied)
    exact kept.possible op
  | environment op => trivial

def unsettling : SessionOp → Bool
  | .rmt _ | .beginClear | .completeClear _ | .setSyncWriter _ | .setAsyncWriter _ | .attachAsync _ | .close => true
  | _ => false

theorem Kept.settled {session : Session σ} (kept : Kept session maxRx ledger) {op : SessionOp}
    (settled : unsettling op = false) : Kept (op.apply policy session).2 maxRx ledger := by
  obtain ⟨syncW, asyncW, limit, state, expected⟩ := kept
  cases op with
  | rmt | beginClear | completeClear | setSyncWriter | setAsyncWriter | attachAsync | close => cases settled
  | disposition =>
    simp only [SessionOp.apply]
    split <;> exact ⟨syncW, asyncW, limit, state, expected⟩
  | _ => exact ⟨syncW, asyncW, limit, state, expected⟩

theorem unsettling_of_calm {op : SessionOp} (calm : marked (.shared (.session op)) = false) :
    unsettling op = false := by
  unfold unsettling
  split <;> first | rfl | exact absurd (show true = false from calm) Bool.noConfusion

theorem Kept.calm (kept : Kept dialogue.shared.session maxRx ledger) (calm : marked op = false)
    (replied : dialogue.reply policy answers op = some (reply, shared)) : Kept shared.session maxRx ledger := by
  cases op with
  | shared op =>
    obtain rfl := congrArg Prod.snd (Option.some_inj.mp replied)
    cases op with
    | session op => exact kept.settled (unsettling_of_calm calm)
    | _ => exact kept
  | environment op =>
    obtain ⟨_, -, same⟩ := Option.map_eq_some_iff.mp replied
    obtain rfl := congrArg Prod.snd same
    exact kept

abbrev Silent (op : Op) (reply : op.Reply) : Prop :=
  ∀ channel, ∀ header ∈ sent channel op reply, concluding header.type = false

theorem silent_of_calm (calm : marked op = false) (reply : op.Reply) : Silent op reply := by
  intro channel header member
  unfold sent at member
  split at member
  · split at member
    · rw [List.mem_singleton.mp member]
      exact calm
    · cases member
  · cases member

theorem silent_shared (op : SharedOp) (reply : op.Reply) : Silent (.shared op) reply := by
  intro channel header member
  simp [sent] at member

private theorem unmarked_of_plain {header : Header} (plain : concluding header.type = false) :
    endMark header = none ∧ statusMark header = none ∧ agreementMark header = none := by
  have other : ∀ {type : MessageType}, concluding type = true → header.type ≠ type := fun ends same => by
    rw [same, ends] at plain
    cases plain
  exact ⟨by rw [endMark, if_neg (other rfl), if_neg (other rfl)], if_neg (other rfl), if_neg (other rfl)⟩

theorem Wires.silent (wires : Wires dialogue maxRx ledger) (silent : Silent op reply) (shared : Shared σ)
    (sync async : Act (Option Err)) : Wires { dialogue.performed op reply shared with sync, async } maxRx ledger := by
  have none : ∀ {β : Type} {mark : Header → Option β} (channel : Channel) (sofar : List Header),
      (∀ header, concluding header.type = false → mark header = Option.none) →
      (sofar ++ sent channel op reply).filterMap mark = sofar.filterMap mark := by
    intro β mark channel sofar unmarked
    rw [List.filterMap_append, List.filterMap_eq_nil_iff.mpr fun header member => unmarked header (silent channel header member),
      List.append_nil]
  exact ⟨wires.toSync, (none _ _ fun _ plain => (unmarked_of_plain plain).1).trans wires.fromSync, wires.queries,
    wires.clears, (none _ _ fun _ plain => (unmarked_of_plain plain).2.1).trans wires.statuses,
    (none _ _ fun _ plain => (unmarked_of_plain plain).2.2).trans wires.agreements, wires.programs, wires.polls⟩

theorem Accounted.unrecognised (accounted : Accounted dialogue.client ledger)
    (unrecognised : recognises op reply = false) (shared : Shared σ) :
    Accounted (dialogue.performed op reply shared).client ledger :=
  ⟨accounted.owes, by rw [← accounted.outstanding]; simp [Dialogue.performed, unrecognised], accounted.waiting,
    accounted.clear⟩

end Operations

section SyncLoop
variable {dialogue : Dialogue σ} {maxRx : UInt64} {ledger : Ledger} {policy : ResponsePolicy σ} {answers : Answers}
  {op : Op} {next : op.Reply → Act (Option Err)} {reply : op.Reply} {shared : Shared σ} {header : Header}

theorem Represents.follows (represents : Represents dialogue maxRx ledger) (running : dialogue.sync = .request op next)
    (replied : dialogue.reply policy answers op = some (reply, shared)) :
    ledger.syncPhase.allowed op ∧
      (next reply).Follows (syncDiscipline maxRx) Rests (ledger.syncPhase.advance op reply) := by
  have sync := represents.sync
  rw [running] at sync
  exact ⟨sync.1, sync.2 reply (represents.kept.replies replied)⟩

theorem Represents.quietSync (represents : Represents dialogue maxRx ledger) (op : Op)
    {next : op.Reply → Act (Option Err)} {reply : op.Reply}
    (following : (next reply).Follows (syncDiscipline maxRx) Rests (ledger.syncPhase.advance op reply))
    (kept : Kept shared.session maxRx ledger) (silent : Silent op reply) (unrecognised : recognises op reply = false)
    (same : ledger.syncPhase.advance op reply = ledger.syncPhase) :
    Represents { dialogue.performed op reply shared with sync := next reply } maxRx ledger := by
  obtain ⟨-, accounted, wires, -, async⟩ := represents
  rw [same] at following
  exact ⟨kept, accounted.unrecognised unrecognised shared, wires.silent silent shared _ _, following, async⟩

theorem Represents.restage (represents : Represents dialogue maxRx ledger) (op : Op)
    {next : op.Reply → Act (Option Err)} {reply : op.Reply} (unfinished : ledger.clear ≠ .resetting)
    (unreset : ledger.clear ≠ .reset) (silent : Silent op reply) {stage : Stage} {expected outstanding : Bool}
    (recognised : (ledger.outstanding || recognises op reply) = outstanding)
    (kept : Kept shared.session maxRx { ledger with stage, expected, outstanding })
    (following : (next reply).Follows (syncDiscipline maxRx) Rests stage.phase) :
    Represents { dialogue.performed op reply shared with sync := next reply } maxRx
      { ledger with stage, expected, outstanding } := by
  obtain ⟨-, accounted, wires, -, async⟩ := represents
  have wires := wires.silent silent shared (next reply) dialogue.async
  refine ⟨kept, ⟨accounted.owes, ?_, accounted.waiting, accounted.clear⟩,
    ⟨wires.toSync, wires.fromSync, wires.queries, wires.clears, wires.statuses, wires.agreements, wires.programs,
      wires.polls⟩, ?_, async⟩
  · rw [← recognised, ← accounted.outstanding]
    rfl
  · have standing : Ledger.syncPhase { ledger with stage, expected, outstanding } = stage.phase :=
      Ledger.syncPhase_eq unfinished unreset
    rw [standing]
    exact following

theorem taken_of {phase : SyncPhase} (unsteady : ¬ phase.steady = true) (working : phase ≠ .wrote) :
    ∃ delivered, phase = .taken delivered := by
  cases phase with
  | taken delivered => exact ⟨delivered, rfl⟩
  | wrote => exact absurd rfl working
  | _ => exact absurd rfl unsteady

section
variable (represents : Represents dialogue maxRx ledger)
include represents

theorem Represents.checked {next : State → Act (Option Err)} {delivered : Bool}
    (standing : ledger.syncPhase = .taken delivered)
    (following : (next dialogue.shared.session.state).Follows (syncDiscipline maxRx) Rests
      (if dialogue.shared.session.state = .clearing then .resting else .committed delivered)) :
    Simulated
      { dialogue.performed (.shared (.session .state)) dialogue.shared.session.state dialogue.shared with
        sync := next dialogue.shared.session.state } maxRx ledger := by
  obtain ⟨taken, unfinished, unreset⟩ := Ledger.stage_of (.taken delivered) standing
  obtain ⟨syncW, asyncW, limit, state, expected⟩ := represents.kept
  by_cases clearing : ledger.clear.clearing = true
  · rw [if_pos (by rw [state, if_pos clearing])] at following
    exact .one (.drop taken clearing) (represents.restage (.shared (.session .state)) unfinished unreset
      (silent_shared _ _) (Bool.or_false _) ⟨syncW, asyncW, limit, state, expected⟩ following)
  · rw [if_neg (by rw [state, if_neg clearing]; nofun)] at following
    exact .one (.commit taken (Bool.eq_false_iff.mpr clearing)) (represents.restage (.shared (.session .state))
      unfinished unreset (silent_shared _ _) (Bool.or_false _) ⟨syncW, asyncW, limit, state, expected⟩ following)

theorem Represents.classified {next : Disposition → Act (Option Err)} (standing : ledger.syncPhase = .judged)
    {reply : Disposition} (kept : Kept shared.session maxRx ledger)
    (inTurn : reply = .responseExpected → ledger.programs = [])
    (following : (next reply).Follows (syncDiscipline maxRx) Rests (if reply = .responseExpected then .answering
      else .judged)) :
    Simulated
      { dialogue.performed (.shared (.session .disposition)) reply shared with sync := next reply } maxRx ledger := by
  by_cases expected : reply = .responseExpected
  · obtain ⟨judged, unfinished, unreset⟩ := Ledger.stage_of .judged standing
    rw [if_pos expected] at following
    refine .one (.classify judged (inTurn expected)) (represents.restage (.shared (.session .disposition)) unfinished
      unreset (silent_shared _ _) ?_ ⟨kept.syncW, kept.asyncW, kept.maxRx, kept.state, kept.expected⟩ following)
    simp [recognises, expected]
  · refine .none (represents.quietSync (.shared (.session .disposition)) ?_ kept (silent_shared _ _) ?_ ?_)
    · rw [standing]
      exact following
    · simp [recognises, expected]
    · rw [standing]
      exact if_neg expected

theorem Represents.reset {next : Unit → Act (Option Err)} (standing : ledger.syncPhase = .resetting) (overlap : Bool)
    (following : (next ()).Follows (syncDiscipline maxRx) Rests .reset) :
    Simulated
      { dialogue.performed (.shared (.session (.completeClear overlap))) ()
          { dialogue.shared with session := dialogue.shared.session.completeClear overlap } with
        sync := next () } maxRx ledger := by
  have resetting := Ledger.clear_of_resetting standing
  obtain ⟨kept, accounted, wires, -, phase, handling, async⟩ := represents
  have wires := wires.silent (silent_shared (.session (.completeClear overlap)) ())
    { dialogue.shared with session := dialogue.shared.session.completeClear overlap } (next ()) dialogue.async
  have clearing : dialogue.shared.session.state = .clearing := by rw [kept.state, resetting]; rfl
  refine .one (.reset resetting) ⟨⟨kept.syncW, kept.asyncW, kept.maxRx, if_pos clearing, rfl⟩,
    ⟨accounted.owes, (Bool.or_false _).trans accounted.outstanding, accounted.waiting,
      accounted.clear.trans (by rw [resetting]; rfl)⟩,
    ⟨wires.toSync.trans (by rw [resetting]; rfl), wires.fromSync.trans (by rw [resetting]; rfl), wires.queries,
      wires.clears.trans (by rw [resetting]; rfl), wires.statuses, wires.agreements.trans (by rw [resetting]; rfl),
      wires.programs, wires.polls⟩, following, phase, handling.congr rfl (by rw [resetting]; rfl), async⟩

theorem Represents.wroteEnd {next : Option Err → Act (Option Err)} (balanced : ledger.Balanced)
    (standing : ledger.syncPhase = .answering) (ending : header.type = .dataEnd) (payload : Bytes)
    (following : (next none).Follows (syncDiscipline maxRx) Rests .wrote) :
    Simulated
      { dialogue.performed (.environment (.send .synchronous header payload)) none dialogue.shared with
        sync := next none } maxRx ledger := by
  obtain ⟨answering, unfinished, unreset⟩ := Ledger.stage_of .answering standing
  obtain ⟨kept, accounted, wires, -, async⟩ := represents
  have unreturned : ledger.clear.fromSync = [] := by
    have early := (balanced.working (by rw [answering]; nofun)).2
    revert early
    cases ledger.clear <;> first | exact fun _ => rfl | exact fun late => absurd late Bool.noConfusion
  have marked : endMark header = some .dataEnd := if_pos ending
  refine .one (.writeEnd answering) ⟨⟨kept.syncW, kept.asyncW, kept.maxRx, kept.state, kept.expected⟩,
    ⟨accounted.owes, (Bool.or_false _).trans accounted.outstanding, accounted.waiting, accounted.clear⟩,
    ⟨wires.toSync, ?_, wires.queries, wires.clears, ?_, ?_, wires.programs, wires.polls⟩, ?_, async⟩
  · change (dialogue.fromSync ++ [header]).filterMap endMark = _
    rw [filterMap_concat, wires.fromSync, marked, unreturned, List.replicate_succ']
    simp
  · change (dialogue.fromAsync ++ []).filterMap statusMark = _
    rw [List.append_nil, wires.statuses]
  · change (dialogue.fromAsync ++ []).filterMap agreementMark = _
    rw [List.append_nil, wires.agreements]
  · have held : Ledger.syncPhase { ledger with stage := .wrote, ends := ledger.ends + 1 } = .wrote :=
      Ledger.syncPhase_eq unfinished unreset
    rw [held]
    exact following

theorem Represents.returned {next : Option Err → Act (Option Err)} (balanced : ledger.Balanced)
    (standing : ledger.syncPhase = .reset) (acknowledging : header.type = .deviceClearAcknowledge) (payload : Bytes)
    (following : (next none).Follows (syncDiscipline maxRx) Rests .resting) :
    Simulated
      { dialogue.performed (.environment (.send .synchronous header payload)) none dialogue.shared with
        sync := next none } maxRx ledger := by
  have reset := Ledger.clear_of_reset standing
  obtain ⟨resting, -, -⟩ := balanced.late (by rw [reset]; rfl)
  obtain ⟨kept, accounted, wires, -, phase, handling, async⟩ := represents
  have marked : endMark header = some .acknowledged := by
    rw [endMark, if_neg (by rw [acknowledging]; decide), if_pos acknowledging]
  refine .one (.acknowledge reset)
    ⟨⟨kept.syncW, kept.asyncW, kept.maxRx, kept.state.trans (by rw [reset]; rfl), kept.expected⟩,
    ⟨accounted.owes, (Bool.or_false _).trans accounted.outstanding, accounted.waiting,
      accounted.clear.trans (by rw [reset]; rfl)⟩,
    ⟨wires.toSync.trans (by rw [reset]; rfl), ?_, wires.queries, wires.clears.trans (by rw [reset]; rfl), ?_, ?_,
      wires.programs, wires.polls⟩, ?_, phase, handling.congr rfl (by rw [reset]; rfl), async⟩
  · change (dialogue.fromSync ++ [header]).filterMap endMark = _
    rw [filterMap_concat, wires.fromSync, marked, reset]
    simp [Clear.fromSync]
  · change (dialogue.fromAsync ++ []).filterMap statusMark = _
    rw [List.append_nil, wires.statuses]
  · change (dialogue.fromAsync ++ []).filterMap agreementMark = _
    rw [List.append_nil, wires.agreements, reset]
    rfl
  · change (next none).Follows (syncDiscipline maxRx) Rests ledger.stage.phase
    rw [resting]
    exact following

theorem Represents.concluded {next : Option Err → Act (Option Err)} {channel : Channel} {payload : Bytes}
    {reply : Option Err} (balanced : ledger.Balanced) (ends : concluding header.type = true)
    (allowed : ledger.syncPhase.allowed (.environment (.send channel header payload)))
    (following : (next reply).Follows (syncDiscipline maxRx) Rests
      (ledger.syncPhase.advance (.environment (.send channel header payload)) reply)) :
    Simulated
      { dialogue.performed (.environment (.send channel header payload)) reply dialogue.shared with
        sync := next reply } maxRx ledger := by
  obtain ⟨rfl, due⟩ := allowed.2 ends
  cases reply with
  | some err =>
    refine .none (represents.quietSync _ following represents.kept ?_ rfl ?_)
    · intro other sent member
      simp [Dialogue.sent] at member
    · obtain ⟨-, standing⟩ | ⟨-, standing⟩ := due <;> rw [standing] <;> exact if_neg fun written => nomatch written.2
  | none =>
    obtain ⟨ending, standing⟩ | ⟨acknowledging, standing⟩ := due
    · have moved : SyncPhase.advance .answering (.environment (.send .synchronous header payload)) none = .wrote :=
        if_pos ⟨ending, rfl⟩
      rw [standing, moved] at following
      exact represents.wroteEnd balanced standing ending payload following
    · have moved : SyncPhase.advance .reset (.environment (.send .synchronous header payload)) none = .resting :=
        if_pos ⟨acknowledging, rfl⟩
      rw [standing, moved] at following
      exact represents.returned balanced standing acknowledging payload following

theorem Represents.advanceSync (balanced : ledger.Balanced) (running : dialogue.sync = .request op next)
    (replied : dialogue.reply policy answers op = some (reply, shared))
    (inTurn : recognises op reply = true → ledger.programs = []) :
    Simulated { dialogue.performed op reply shared with sync := next reply } maxRx ledger := by
  obtain ⟨allowed, following⟩ := represents.follows running replied
  have kept := represents.kept
  have calmly : marked op = false → (ledger.syncPhase.steady = true ∨ op ≠ .shared (.session .state)) →
      Simulated { dialogue.performed op reply shared with sync := next reply } maxRx ledger := by
    intro calm steady
    refine .none (represents.quietSync _ following (kept.calm calm replied) (silent_of_calm calm reply) ?_
      (SyncPhase.advance_of_calm calm steady reply))
    unfold recognises
    split
    · exact absurd (show true = false from calm) Bool.noConfusion
    · rfl
  cases op with
  | shared op =>
    obtain rfl := congrArg Prod.fst (Option.some_inj.mp replied)
    obtain rfl := congrArg Prod.snd (Option.some_inj.mp replied)
    cases op with
    | session op =>
      cases op with
      | state =>
        by_cases steady : ledger.syncPhase.steady = true
        · exact calmly rfl (.inl steady)
        · obtain ⟨delivered, standing⟩ := taken_of steady allowed.1
          rw [standing] at following
          exact represents.checked standing following
      | rmt op =>
        cases op with
        | receivedSyncMessage delivered =>
          obtain ⟨committed, unfinished, unreset⟩ := Ledger.stage_of (.committed delivered) allowed
          rw [show ledger.syncPhase = .committed delivered from allowed] at following
          exact .one (.judge committed) (represents.restage _ unfinished unreset (silent_shared _ _) (Bool.or_false _)
            ⟨kept.syncW, kept.asyncW, kept.maxRx, kept.state, rfl⟩ following)
        | sentDataEnd =>
          obtain ⟨wrote, unfinished, unreset⟩ := Ledger.stage_of .wrote allowed
          rw [show ledger.syncPhase = .wrote from allowed] at following
          exact .one (.raise wrote) (represents.restage _ unfinished unreset (silent_shared _ _) (Bool.or_false _)
            ⟨kept.syncW, kept.asyncW, kept.maxRx, kept.state, rfl⟩ following)
        | receivedStatusQuery delivered => cases allowed.2
      | disposition =>
        rw [show ledger.syncPhase = .judged from allowed] at following
        exact represents.classified allowed (kept.settled rfl) (fun expected => inTurn (decide_eq_true expected)) following
      | completeClear overlap =>
        rw [show ledger.syncPhase = .resetting from allowed] at following
        exact represents.reset allowed overlap following
      | feed chunk =>
        refine .none (represents.quietSync _ following (kept.settled rfl) (silent_shared _ _) rfl ?_)
        cases ledger.syncPhase <;> rfl
      | beginClear | setSyncWriter | setAsyncWriter | setSyncPending | attachAsync | close => cases allowed.2
      | _ => exact calmly rfl (.inr nofun)
    | _ => exact calmly rfl (.inr nofun)
  | environment op =>
    cases op with
    | send channel header payload =>
      by_cases ends : concluding header.type = true
      · obtain ⟨_, -, same⟩ := Option.map_eq_some_iff.mp replied
        obtain rfl := congrArg Prod.snd same
        exact represents.concluded balanced ends allowed following
      · exact calmly (Bool.eq_false_iff.mpr ends) (.inr nofun)
    | _ => exact calmly rfl (.inr nofun)

end

end SyncLoop

section AsyncLoop
variable {dialogue : Dialogue σ} {maxRx : UInt64} {ledger : Ledger} {policy : ResponsePolicy σ} {answers : Answers}
  {op : Op} {next : op.Reply → Act (Option Err)} {reply : op.Reply} {shared : Shared σ} {phase : AsyncPhase}
  {header : Header}

section
variable (represents : Represents dialogue maxRx ledger)
include represents

theorem Represents.quietAsync (op : Op) {next : op.Reply → Act (Option Err)} {reply : op.Reply}
    (handling : ledger.Handling phase) (following : (next reply).Follows (asyncDiscipline maxRx) RestsAsync phase)
    (kept : Kept shared.session maxRx ledger) (silent : Silent op reply) (unrecognised : recognises op reply = false) :
    Represents { dialogue.performed op reply shared with async := next reply } maxRx ledger := by
  obtain ⟨-, accounted, wires, sync, -⟩ := represents
  exact ⟨kept, accounted.unrecognised unrecognised shared, wires.silent silent shared _ _, sync, phase, handling, following⟩

theorem Represents.repoll (op : Op) {next : op.Reply → Act (Option Err)} {reply : op.Reply} {delivered : Bool}
    (held : ledger.poll = .held delivered) (uncleared : ledger.clear.phase = none) {expected : Bool}
    (silent : Silent op reply) (unrecognised : recognises op reply = false)
    (kept : Kept shared.session maxRx { ledger with poll := .polled, expected })
    (following : (next reply).Follows (asyncDiscipline maxRx) RestsAsync .polled) :
    Represents { dialogue.performed op reply shared with async := next reply } maxRx
      { ledger with poll := .polled, expected } := by
  obtain ⟨-, accounted, wires, sync, -⟩ := represents
  have accounted := accounted.unrecognised unrecognised shared
  have wires := wires.silent silent shared dialogue.sync (next reply)
  exact ⟨kept, ⟨accounted.owes, accounted.outstanding, accounted.waiting.trans (by rw [held]; rfl), accounted.clear⟩,
    ⟨wires.toSync, wires.fromSync, wires.queries.trans (by rw [held]; rfl), wires.clears,
      wires.statuses.trans (by rw [held]; rfl), wires.agreements, wires.programs, wires.polls⟩, sync, .polled,
    .inl ⟨rfl, uncleared⟩, following⟩

theorem Represents.polled {next : Interrupted → Act (Option Err)} {delivered : Bool}
    (handling : ledger.Handling (.querying delivered)) (raised : delivered = true → ledger.stage ≠ .wrote)
    (following : (next .notInterrupted).Follows (asyncDiscipline maxRx) RestsAsync .polled) :
    Simulated
      { dialogue.performed (.shared (.session (.rmt (.receivedStatusQuery delivered)))) .notInterrupted
          ((SharedOp.session (.rmt (.receivedStatusQuery delivered))).apply policy dialogue.shared).2 with
        async := next .notInterrupted } maxRx ledger := by
  obtain ⟨held, uncleared⟩ := handling.poll (.held delivered) rfl
  obtain ⟨syncW, asyncW, limit, state, expected⟩ := represents.kept
  cases delivered with
  | true =>
    exact .one (.pollDelivered held (raised rfl)) (represents.repoll (.shared (.session (.rmt (.receivedStatusQuery true))))
      held uncleared (silent_shared _ _) rfl ⟨syncW, asyncW, limit, state, rfl⟩ following)
  | false =>
    exact .one (.poll held) (represents.repoll (.shared (.session (.rmt (.receivedStatusQuery false)))) held uncleared
      (silent_shared _ _) rfl ⟨syncW, asyncW, limit, state, expected⟩ following)

theorem Represents.begun {next : Unit → Act (Option Err)} (handling : ledger.Handling .preparing)
    (following : (next ()).Follows (asyncDiscipline maxRx) RestsAsync .begun) :
    Simulated
      { dialogue.performed (.shared (.session .beginClear)) ()
          { dialogue.shared with session := dialogue.shared.session.beginClear } with
        async := next () } maxRx ledger := by
  obtain ⟨preparing, unpolled⟩ := handling.clear .preparing rfl
  obtain ⟨kept, accounted, wires, sync, -⟩ := represents
  have wires := wires.silent (silent_shared (.session .beginClear) ())
    { dialogue.shared with session := dialogue.shared.session.beginClear } dialogue.sync (next ())
  have ready : dialogue.shared.session.state = .ready := by rw [kept.state, preparing]; rfl
  have moved : dialogue.shared.session.beginClear = { dialogue.shared.session with state := .clearing } := if_pos ready
  rw [Ledger.syncPhase_eq (by rw [preparing]; nofun) (by rw [preparing]; nofun)] at sync
  refine .one (.begin preparing) ⟨?_,
    ⟨accounted.owes, (Bool.or_false _).trans accounted.outstanding, accounted.waiting,
      accounted.clear.trans (by rw [preparing]; rfl)⟩,
    ⟨wires.toSync.trans (by rw [preparing]; rfl), wires.fromSync.trans (by rw [preparing]; rfl), wires.queries,
      wires.clears.trans (by rw [preparing]; rfl), wires.statuses, wires.agreements.trans (by rw [preparing]; rfl),
      wires.programs, wires.polls⟩, sync, .begun, .inr (.inl ⟨unpolled, rfl⟩), following⟩
  change Kept dialogue.shared.session.beginClear maxRx _
  rw [moved]
  exact ⟨kept.syncW, kept.asyncW, kept.maxRx, rfl, kept.expected⟩

theorem Represents.responded {next : Option Err → Act (Option Err)} (handling : ledger.Handling .polled)
    (answering : header.type = .asyncStatusResponse) (payload : Bytes)
    (following : (next none).Follows (asyncDiscipline maxRx) RestsAsync .resting) :
    Simulated
      { dialogue.performed (.environment (.send .asynchronous header payload)) none dialogue.shared with
        async := next none } maxRx ledger := by
  obtain ⟨polled, uncleared⟩ := handling.poll .polled rfl
  obtain ⟨kept, accounted, wires, sync, -⟩ := represents
  have marked : statusMark header = some () := if_pos answering
  have unmarked : agreementMark header = none := if_neg (by rw [answering]; decide)
  refine .one (.respond polled) ⟨⟨kept.syncW, kept.asyncW, kept.maxRx, kept.state, kept.expected⟩,
    ⟨accounted.owes, (Bool.or_false _).trans accounted.outstanding, accounted.waiting.trans (by rw [polled]; rfl),
      accounted.clear⟩,
    ⟨wires.toSync, ?_, wires.queries.trans (by rw [polled]; rfl), wires.clears, ?_, ?_, wires.programs, wires.polls⟩,
    sync, .resting, .inr (.inr ⟨rfl, uncleared, rfl⟩), following⟩
  · change (dialogue.fromSync ++ []).filterMap endMark = _
    rw [List.append_nil, wires.fromSync]
  · change (dialogue.fromAsync ++ [header]).filterMap statusMark = _
    rw [filterMap_concat, wires.statuses, marked, polled]
    rfl
  · change (dialogue.fromAsync ++ [header]).filterMap agreementMark = _
    rw [filterMap_concat, wires.agreements, unmarked]
    exact List.append_nil _

theorem Represents.agreed {next : Option Err → Act (Option Err)} (handling : ledger.Handling .begun)
    (agreeing : header.type = .asyncDeviceClearAcknowledge) (payload : Bytes)
    (following : (next none).Follows (asyncDiscipline maxRx) RestsAsync .resting) :
    Simulated
      { dialogue.performed (.environment (.send .asynchronous header payload)) none dialogue.shared with
        async := next none } maxRx ledger := by
  obtain ⟨begun, unpolled⟩ := handling.clear .begun rfl
  obtain ⟨kept, accounted, wires, sync, -⟩ := represents
  have marked : agreementMark header = some () := if_pos agreeing
  have unmarked : statusMark header = none := if_neg (by rw [agreeing]; decide)
  rw [Ledger.syncPhase_eq (by rw [begun]; nofun) (by rw [begun]; nofun)] at sync
  refine .one (.agree begun)
    ⟨⟨kept.syncW, kept.asyncW, kept.maxRx, kept.state.trans (by rw [begun]; rfl), kept.expected⟩,
    ⟨accounted.owes, (Bool.or_false _).trans accounted.outstanding, accounted.waiting,
      accounted.clear.trans (by rw [begun]; rfl)⟩,
    ⟨wires.toSync.trans (by rw [begun]; rfl), ?_, wires.queries, wires.clears.trans (by rw [begun]; rfl), ?_, ?_,
      wires.programs, wires.polls⟩, sync, .resting, .inr (.inr ⟨unpolled, rfl, rfl⟩), following⟩
  · change (dialogue.fromSync ++ []).filterMap endMark = _
    rw [List.append_nil, wires.fromSync, begun]
    rfl
  · change (dialogue.fromAsync ++ [header]).filterMap statusMark = _
    rw [filterMap_concat, wires.statuses, unmarked]
    exact List.append_nil _
  · change (dialogue.fromAsync ++ [header]).filterMap agreementMark = _
    rw [filterMap_concat, wires.agreements, marked, begun]
    rfl

theorem Represents.answered {next : Option Err → Act (Option Err)} {channel : Channel} {payload : Bytes}
    {reply : Option Err} (handling : ledger.Handling phase) (ends : concluding header.type = true)
    (allowed : phase.allowed (.environment (.send channel header payload)))
    (following : (next reply).Follows (asyncDiscipline maxRx) RestsAsync
      (phase.advance (.environment (.send channel header payload)) reply)) :
    Simulated
      { dialogue.performed (.environment (.send channel header payload)) reply dialogue.shared with
        async := next reply } maxRx ledger := by
  obtain ⟨rfl, due⟩ := allowed ends
  cases reply with
  | some err =>
    have kept : phase.advance (.environment (.send .asynchronous header payload)) (some err) = phase := by
      obtain ⟨-, rfl⟩ | ⟨-, rfl⟩ := due <;> exact if_neg fun written => nomatch written.2
    rw [kept] at following
    refine .none (represents.quietAsync _ handling following represents.kept ?_ rfl)
    intro other sent member
    simp [Dialogue.sent] at member
  | none =>
    obtain ⟨answering, rfl⟩ | ⟨agreeing, rfl⟩ := due
    · have moved : AsyncPhase.advance .polled (.environment (.send .asynchronous header payload)) none = .resting :=
        if_pos ⟨answering, rfl⟩
      rw [moved] at following
      exact represents.responded handling answering payload following
    · have moved : AsyncPhase.advance .begun (.environment (.send .asynchronous header payload)) none = .resting :=
        if_pos ⟨agreeing, rfl⟩
      rw [moved] at following
      exact represents.agreed handling agreeing payload following

theorem Represents.advanceAsync (running : dialogue.async = .request op next)
    (replied : dialogue.reply policy answers op = some (reply, shared))
    (raised : op = .shared (.session (.rmt (.receivedStatusQuery true))) → ledger.stage ≠ .wrote) :
    Simulated { dialogue.performed op reply shared with async := next reply } maxRx ledger := by
  have kept := represents.kept
  obtain ⟨phase, handling, async⟩ := represents.async
  rw [running] at async
  obtain ⟨allowed, resume⟩ : phase.allowed op ∧ _ := async
  have following := resume reply (kept.replies replied)
  have calmly : marked op = false →
      Simulated { dialogue.performed op reply shared with async := next reply } maxRx ledger := by
    intro calm
    rw [show (asyncDiscipline maxRx).advance phase op reply = phase from AsyncPhase.advance_of_calm calm reply] at following
    refine .none (represents.quietAsync _ handling following (kept.calm calm replied) (silent_of_calm calm reply) ?_)
    unfold recognises
    split
    · exact absurd (show true = false from calm) Bool.noConfusion
    · rfl
  cases op with
  | shared op =>
    obtain rfl := congrArg Prod.fst (Option.some_inj.mp replied)
    obtain rfl := congrArg Prod.snd (Option.some_inj.mp replied)
    cases op with
    | session op =>
      cases op with
      | rmt op =>
        cases op with
        | receivedStatusQuery delivered =>
          obtain rfl : phase = .querying delivered := allowed
          exact represents.polled handling (fun reports => raised (by rw [reports])) following
        | receivedSyncMessage delivered => cases allowed
        | sentDataEnd => cases allowed
      | beginClear =>
        obtain rfl : phase = .preparing := allowed
        exact represents.begun handling following
      | disposition | completeClear | feed | setSyncWriter | setAsyncWriter | setSyncPending | attachAsync | close =>
        cases allowed
      | _ => exact calmly rfl
    | _ => exact calmly rfl
  | environment op =>
    cases op with
    | send channel header payload =>
      by_cases ends : concluding header.type = true
      · obtain ⟨_, -, same⟩ := Option.map_eq_some_iff.mp replied
        obtain rfl := congrArg Prod.snd same
        exact represents.answered handling ends allowed following
      · exact calmly (Bool.eq_false_iff.mpr ends)
    | _ => exact calmly rfl

end

end AsyncLoop

section Standing
variable {dialogue : Dialogue σ} {maxRx : UInt64} {ledger : Ledger}

theorem Wires.no_programs (wires : Wires dialogue maxRx ledger)
    (none : ∀ message ∈ dialogue.toSync, message.err = none → message.header.type ≠ .data ∧
      message.header.type ≠ .dataEnd ∧ message.header.type ≠ .trigger) :
    ledger.programs = [] := by
  have wired := wires.toSync
  cases found : ledger.programs with
  | nil => rfl
  | cons delivered others =>
    rw [found] at wired
    have member : SyncMark.program delivered ∈ dialogue.toSync.filterMap syncMark := by
      rw [wired]; exact List.mem_cons_self
    obtain ⟨message, sent, marked⟩ := List.mem_filterMap.mp member
    have read := (wires.programs message sent delivered marked).1
    obtain ⟨data, dataEnd, trigger⟩ := none message sent read
    rw [syncMark, if_neg (not_not.mpr read), if_neg (by rintro (kind | kind | kind) <;> contradiction)] at marked
    split at marked <;> cases marked

/-- In the phase between a DataEnd and its expectation the loop can do nothing else. -/
theorem Represents.raises (represents : Represents dialogue maxRx ledger) (balanced : ledger.Balanced)
    (wrote : ledger.stage = .wrote) : upcoming dialogue.sync = some (.shared (.session (.rmt .sentDataEnd))) := by
  obtain ⟨active, unheard⟩ := balanced.working (by rw [wrote]; nofun)
  have unreset : ledger.clear ≠ .reset := fun reset => by rw [reset] at unheard; cases unheard
  have sync := represents.sync
  rw [Ledger.syncPhase_eq active unreset, wrote] at sync
  cases running : dialogue.sync with
  | pure value =>
    rw [running] at sync
    cases (show SyncPhase.mayRest .wrote = true from sync)
  | request op next =>
    rw [running] at sync
    have allowed : SyncPhase.allowed .wrote op := sync.1
    unfold SyncPhase.allowed at allowed
    split at allowed
    case h_2 => rfl
    case h_5 => exact absurd rfl allowed
    case h_6 => exact absurd rfl allowed.1
    case h_7 => exact absurd rfl allowed.1
    all_goals cases allowed

end Standing

end Hislip.Proofs.Agreement
