import Hislip.Proofs.Footprint

/-! Handlers under a discipline that minds the reports of errors and nothing else. What
one report leads to, the handlers that make it lead to as well. -/

namespace Hislip.Proofs.Reporting
open Hislip.Server Program Footprint

variable {Φ α : Type} {discipline : Discipline Op Op.Reply Φ}

/-- A FatalError of the peer, which ended its loop by `errClientFatal`. -/
def ends (message : Message) (result : Option Err) : Bool :=
  message.err = none ∧ message.header.type = .fatalError ∧ result = some (Sentinel.clientFatal : Err)

def quiet (kind : Kind) : Bool := kind ≠ .lifecycle && kind ≠ .count && kind ≠ .send .fatalError

def Counts (discipline : Discipline Op Op.Reply Φ) (phase : Φ) : Prop :=
  ∀ counter, counter ≠ .fatalErrors → discipline.allowed phase (.shared (.count counter)) ∧
    ∀ reply, discipline.advance phase (.shared (.count counter)) reply = phase

theorem Counts.count {phase : Φ} (counts : Counts discipline phase) {counter : Counter} {next : Unit → Act α}
    {goal : α → Φ → Prop} (other : counter ≠ .fatalErrors) (resume : Follows discipline goal (next ()) phase) :
    Follows discipline goal (Act.count counter >>= next) phase := by
  obtain ⟨allowed, still⟩ := counts counter other
  refine Follows.step allowed fun _ _ => ?_
  rw [still]
  exact resume

/-- Only reports leave the phase. They lead to `post`, and so does what may follow them. -/
structure Reports (discipline : Discipline Op Op.Reply Φ) (phase : Φ) (post : Option Err → Φ → Prop)
    (writer : Option MessageWriter) : Prop where
  spares : Spares discipline phase (quiet · = true)
  counts : Counts discipline phase
  rests : ∀ result, post result phase
  reports : ∀ err code, Follows discipline post (reportError writer err code) phase
  releases : ∀ result last, post result last → ∀ number,
    Follows discipline post (releaseOperation number >>= fun _ => Pure.pure result) last

namespace Reports
variable {discipline : Discipline Op Op.Reply Φ} {phase : Φ} {post : Option Err → Φ → Prop}
  {writer : Option MessageWriter} (rules : Reports discipline phase post writer)
include rules

theorem countInterrupted (interrupted : Interrupted) {next : Unit → Act α} {goal : α → Φ → Prop}
    (resume : Follows discipline goal (next ()) phase) :
    Follows discipline goal (Server.countInterrupted interrupted >>= next) phase := by
  cases interrupted with
  | notInterrupted => exact resume
  | rmtMismatch | inputQueued => exact rules.counts.count (by decide) resume

theorem countOutcome (outcome : ResponseOutcome) {next : Unit → Act α} {goal : α → Φ → Prop}
    (resume : Follows discipline goal (next ()) phase) :
    Follows discipline goal (Server.countOutcome outcome >>= next) phase := by
  cases outcome with
  | complete => exact resume
  | absent | truncated | interrupted => exact rules.counts.count (by decide) resume

theorem within {kinds : List Kind} {program : Act (Option Err)} (within : Within kinds program)
    (spared : ∀ kind ∈ kinds, quiet kind = true) : Follows discipline post program phase := by
  refine (rules.spares.rest within spared).mono fun result last same => ?_
  rw [same]
  exact rules.rests result

theorem write (writer : MessageWriter) {header : Header} (payload : Bytes) (plain : quiet (.send header.type) = true) :
    Follows discipline post (writer.write header payload) phase := by
  have sends : Within [.send header.type] (writer.write header payload) :=
    write_within writer payload (List.elem_iff.mpr List.mem_cons_self)
  exact rules.within sends (by simpa using plain)

theorem writeVia (writer : Option MessageWriter) {header : Header} (payload : Bytes)
    (plain : quiet (.send header.type) = true) : Follows discipline post (Server.writeVia writer header payload) phase :=
  rules.within (writeVia_only writer header payload) (by simpa using ⟨plain, rfl⟩)

theorem reportReadError (err : Err) : Follows discipline post (Server.reportReadError writer err) phase := by
  refine Follows.ite (fun _ => ?_) fun _ => rules.rests _
  refine rules.counts.count (by decide) (rules.counts.count (by decide) ?_)
  cases writer with
  | some writer => exact rules.write writer _ rfl
  | none => exact rules.rests none

theorem reportAcceptError (err : Err) : Follows discipline post (Server.reportAcceptError writer err) phase :=
  Follows.ite (fun _ => rules.counts.count (by decide) (rules.reports err id)) fun _ => rules.reports err id

variable (config : Config)

theorem answerProgramMessage (header : Header) (fuel : Nat) :
    Follows discipline post (Server.answerProgramMessage config header writer fuel) phase := by
  refine rules.spares.step rfl fun found =>
    Follows.ite (fun _ => rules.spares.step rfl fun result => rules.rests result) fun _ => ?_
  refine rules.spares.skip operation_within (by decide) fun number => ?_
  refine rules.spares.step rfl fun async => rules.spares.step rfl fun limit => ?_
  refine rules.spares.skip syncPending_within (by decide) fun queued => ?_
  refine rules.spares.skip (sendResponse_within _ _ fuel) (by decide) fun result => ?_
  obtain ⟨outcome, err⟩ := result
  refine rules.countOutcome outcome ?_
  cases err with
  | some err => exact Follows.bind (rules.reports err _) fun result last met => rules.releases result last met number
  | none => exact rules.releases none phase (rules.rests none) number

variable (message : Message)

theorem handleData (fuel : Nat) : Follows discipline post (Server.handleData config message writer fuel) phase := by
  refine rules.spares.skip (receiveData_within _ _) (by decide) fun result => ?_
  obtain ⟨interrupted, err⟩ := result
  refine rules.countInterrupted interrupted ?_
  have last : Follows discipline post (if message.header.type ≠ .dataEnd then Pure.pure none
      else Server.answerProgramMessage config message.header writer fuel) phase :=
    Follows.ite (fun _ => rules.rests none) fun _ => rules.answerProgramMessage config message.header fuel
  cases err with
  | some err => exact rules.reports err _
  | none => exact Follows.ite (fun _ => rules.spares.step rfl fun _ => last) fun _ => last

theorem handleTrigger : Follows discipline post (Server.handleTrigger message writer) phase := by
  refine rules.spares.skip (trigger_within _) (by decide) fun result => ?_
  obtain ⟨interrupted, err⟩ := result
  refine rules.countInterrupted interrupted ?_
  cases err with
  | some err => exact rules.reports err _
  | none => exact rules.counts.count (by decide) (rules.rests none)

theorem handleDeviceClearComplete :
    Follows discipline post (Server.handleDeviceClearComplete config message writer) phase := by
  refine rules.spares.bind (completeDeviceClear_within config message.header) (by decide) fun result typed => ?_
  obtain ⟨ack, clearErr⟩ := result
  have plain : ∀ kind ∈ [Kind.send ack.type, .never], quiet kind = true := by
    obtain same | same := typed <;> rw [same] <;> decide
  refine rules.spares.skip (writeVia_only writer ack []) plain fun failed => ?_
  cases failed with
  | some err => exact rules.rests (some err)
  | none =>
    refine rules.counts.count (by decide) ?_
    cases clearErr with
    | some err => exact rules.reports err _
    | none => exact rules.rests none

end Reports

theorem Reports.answerAsync {phase : Φ} {post : Option Err → Φ → Prop} {writer : MessageWriter}
    (rules : Reports discipline phase post (some writer)) {type : MessageType} {answer : Except Err Header}
    (answers : Footprint.Answers type answer) (plain : quiet (.send type) = true) :
    Follows discipline post (Server.answerAsync writer answer) phase := by
  cases answer with
  | error err => exact rules.reports err _
  | ok header => exact rules.write writer [] (by rw [answers header rfl]; exact plain)

section Handlers
variable {discipline : Discipline Op Op.Reply Φ} {phase : Φ} {post : Option Err → Φ → Prop} {peered : Φ → Prop}
  {writer : Option MessageWriter} {message : Message} {last : Φ} {result : Option Err} (config : Config)

/-- A FatalError of the peer leads to `peered`, anything else to `post`. -/
def outcome (message : Message) (post : Option Err → Φ → Prop) (peered : Φ → Prop) (result : Option Err) (last : Φ) :
    Prop :=
  if ends message result then peered last else post result last

/-- What the two handlers leave to a discipline: a FatalError of the peer, and an initialization
that comes too late. -/
structure Takes (discipline : Discipline Op Op.Reply Φ) (phase : Φ) (post : Option Err → Φ → Prop) (peered : Φ → Prop)
    (writer : Option MessageWriter) (message : Message) (late : MessageType) : Prop where
  rules : Reports discipline phase post writer
  refuses : ∀ err, Refusal err → Follows discipline (outcome message post peered) (reportAcceptError writer err) phase
  peer : Follows discipline (fun _ => peered) (Act.count .fatalErrors) phase
  again : message.err = none → message.header.type = late → ∀ header payload err,
    Follows discipline post (writeVia writer header payload >>= fun _ => Pure.pure (some err)) phase

theorem outcome_of_err {err : Err} (failed : message.err = some err) (met : post result last) :
    outcome message post peered result last := by
  simpa [outcome, ends, failed] using met

theorem outcome_of_type (other : message.header.type ≠ .fatalError) (met : post result last) :
    outcome message post peered result last := by
  simpa [outcome, ends, other] using met

theorem outcome_none (met : post none last) : outcome message post peered none last := by
  simpa [outcome, ends] using met

theorem follows_of_type {program : Act (Option Err)} {type : MessageType} (same : message.header.type = type)
    (other : type ≠ .fatalError) (follows : Follows discipline post program phase) :
    Follows discipline (outcome message post peered) program phase :=
  follows.mono fun _ _ => outcome_of_type (same ▸ other)

theorem Takes.leaves {late : MessageType} (takes : Takes discipline phase post peered writer message late)
    (whole : message.err = none) (same : message.header.type = .fatalError) :
    Follows discipline (outcome message post peered)
      (Act.count .fatalErrors >>= fun _ => Pure.pure (some (Sentinel.clientFatal : Err))) phase := by
  refine Follows.bind takes.peer fun _ last met => ?_
  simpa [Follows, outcome, ends, whole, same] using met

theorem handleSync_reports (message : Message) (fuel : Nat) :
    ∃ rest : Option MessageWriter → Act (Option Err),
      handleSync config message fuel = Act.session .syncWriter >>= rest ∧
        ∀ {Φ : Type} {discipline : Discipline Op Op.Reply Φ} {phase : Φ} {post : Option Err → Φ → Prop}
          {peered : Φ → Prop} {writer : Option MessageWriter},
          Takes discipline phase post peered writer message .initializeRequest →
            Follows discipline (outcome message post peered) (rest writer) phase := by
  refine ⟨_, rfl, fun {Φ discipline phase post peered writer} takes => ?_⟩
  have rules := takes.rules
  cases failed : message.err with
  | some err => exact (rules.reportReadError err).mono fun _ _ => outcome_of_err failed
  | none =>
    refine rules.spares.skip (discardDuringClear_within _) (by decide) fun _ =>
      Follows.ite (fun _ => outcome_none (rules.rests none)) fun _ => ?_
    refine rules.spares.bind (accept_refuses _ _) (by decide) fun result refusal => ?_
    cases result with
    | error err => exact takes.refuses err (refusal err rfl)
    | ok found =>
      refine Follows.ite (fun data => (rules.handleData config message fuel).mono fun _ _ => outcome_of_type ?_)
        fun _ => ?_
      · obtain same | same := data <;> rw [same] <;> decide
      refine Follows.ite (fun same => follows_of_type same (by decide) (rules.handleTrigger message)) fun _ => ?_
      refine Follows.ite (fun same => follows_of_type same (by decide) (rules.handleDeviceClearComplete config message))
        fun _ => ?_
      refine Follows.ite (fun same => takes.leaves failed same) fun peaceful => ?_
      refine Follows.mono ?_ fun _ _ => outcome_of_type peaceful
      refine Follows.ite (fun _ => rules.counts.count (by decide) (rules.rests none)) fun _ => ?_
      refine Follows.ite (fun same => takes.again failed same _ _ _) fun _ => ?_
      exact Follows.ite (fun _ => rules.counts.count (by decide) (rules.writeVia writer _ rfl))
        fun _ => rules.counts.count (by decide) (rules.writeVia writer _ rfl)

theorem handleAsync_reports (message : Message) (fuel : Nat) :
    ∃ rest : Option MessageWriter → Act (Option Err),
      handleAsync config message fuel = Act.session .asyncWriter >>= rest ∧
        rest none = Pure.pure (some (Sentinel.sessionNotReady : Err)) ∧
        ∀ {Φ : Type} {discipline : Discipline Op Op.Reply Φ} {phase : Φ} {post : Option Err → Φ → Prop}
          {peered : Φ → Prop} {writer : MessageWriter},
          Takes discipline phase post peered (some writer) message .asyncInitialize →
            Follows discipline (outcome message post peered) (rest (some writer)) phase := by
  refine ⟨_, rfl, rfl, fun {Φ discipline phase post peered writer} takes => ?_⟩
  have rules := takes.rules
  cases failed : message.err with
  | some err => exact (rules.reportReadError err).mono fun _ _ => outcome_of_err failed
  | none =>
    refine rules.spares.bind (accept_refuses _ _) (by decide) fun result refusal => ?_
    cases result with
    | error err => exact takes.refuses err (refusal err rfl)
    | ok found =>
      refine Follows.ite (fun same => follows_of_type same (by decide) (rules.spares.bind (beginDeviceClear_within config)
        (by decide) fun _ answers => rules.answerAsync answers rfl)) fun _ => ?_
      refine Follows.ite (fun same => follows_of_type same (by decide) (rules.spares.bind (statusQuery_within _)
        (by decide) fun _ answers => rules.counts.count (by decide) (rules.answerAsync answers rfl))) fun _ => ?_
      refine Follows.ite (fun same => follows_of_type same (by decide) (rules.spares.bind (lock_within _ _ fuel)
        (by decide) fun _ answers => rules.answerAsync answers rfl)) fun _ => ?_
      refine Follows.ite (fun same => follows_of_type same (by decide) (rules.spares.bind (lockInfo_within _)
        (by decide) fun _ answers => rules.answerAsync answers rfl)) fun _ => ?_
      refine Follows.ite (fun same => follows_of_type same (by decide) (rules.spares.bind (remoteLocal_within _)
        (by decide) fun _ answers => rules.answerAsync answers rfl)) fun _ => ?_
      refine Follows.ite (fun same => follows_of_type same (by decide) (rules.spares.bind
        (maximumMessageSize_within config _) (by decide) fun _ typed => rules.write writer _ (by rw [typed]; decide)))
        fun _ => ?_
      refine Follows.ite (fun same => follows_of_type same (by decide) (takes.again failed same _ _ _)) fun _ => ?_
      refine Follows.ite (fun same => takes.leaves failed same) fun peaceful => ?_
      refine Follows.mono ?_ fun _ _ => outcome_of_type peaceful
      exact Follows.ite (fun _ => rules.counts.count (by decide) (rules.rests none)) fun _ =>
        rules.counts.count (by decide) (rules.write writer _ rfl)

end Handlers

end Hislip.Proofs.Reporting
