import Hislip.Proofs.Footprint

/-! What the two loops do to the status of a session. The synchronous loop notes a message,
raises the pending flag for the response to it and lowers the flag again; a status query
reads the device's byte and answers with the one computed from it. -/

namespace Hislip.Proofs.StatusPhases
open Hislip.Server Act Program Footprint

section Synchronous

/-- How far the synchronous loop has come with a message: its MessageID is noted, the
pending flag is raised for the response and lowered again. -/
inductive Phase where
  | fresh | noted | answering | answered
  deriving DecidableEq, Repr

def Phase.late (phase : Phase) : Bool := phase = .answering || phase = .answered

/-- The flag is raised once, for the message that was noted, before anything is read and
before the DataEnd. -/
def raising (id : MessageID) : Discipline Op Op.Reply Phase where
  allowed
    | phase, .shared (.session (.receivedSyncMessage received)) => phase = .fresh ∧ received = id
    | phase, .shared (.session (.setResponsePending pending)) => if pending then phase = .noted else phase.late
    | phase, .shared (.session (.completeClear _)) => phase = .fresh
    | phase, .environment (.read _ _) => phase.late
    | phase, .environment (.send _ header _) => header.type = .dataEnd → phase.late
    | _, _ => True
  advance
    | _, .shared (.session (.receivedSyncMessage _)), _ => .noted
    | _, .shared (.session (.setResponsePending pending)), _ => if pending then .answering else .answered
    | phase, _, _ => phase

def spares (phase : Phase) : Kind → Bool
  | .note | .clear => false
  | .deviceRead => phase.late
  | .send type => type ≠ .dataEnd || phase.late
  | _ => true

variable {α β : Type} {kinds : List Kind} {id : MessageID} {phase : Phase} (response : CheckedResponse)
  (config : Config) (message : Message) (writer : Option MessageWriter) {program : Act α} (header : Header)

theorem raising_spares : Spares (raising id) phase (spares phase · = true) := by
  intro op spared
  cases op with
  | shared op =>
    cases op with
    | session op => cases op <;> first | exact ⟨trivial, fun _ => rfl⟩ | cases spared
    | _ => exact ⟨trivial, fun _ => rfl⟩
  | environment op =>
    cases op with
    | read ctx size => exact ⟨spared, fun _ => rfl⟩
    | send channel header payload =>
      refine ⟨fun same => ?_, fun _ => rfl⟩
      simpa [spares, kind, same] using spared
    | _ => exact ⟨trivial, fun _ => rfl⟩

/-- From a phase in which the response has begun, the program leads to such a phase. -/
def Late (id : MessageID) (program : Act α) : Prop :=
  ∀ phase : Phase, phase.late = true → Follows (raising id) (fun _ last => last.late = true) program phase

theorem late_pure (value : α) : Late id (Pure.pure value) := fun _ late => late

theorem Late.bind {next : α → Act β} (first : Late id program) (second : ∀ value, Late id (next value)) :
    Late id (program >>= next) :=
  fun phase late => Follows.bind (first phase late) fun value last still => second value last still

theorem Late.ite {condition : Prop} [Decidable condition] {program other : Act α} (met : Late id program)
    (unmet : Late id other) : Late id (if condition then program else other) :=
  fun phase late => Follows.ite (fun _ => met phase late) fun _ => unmet phase late

theorem late_within (within : Within kinds program) (plain : Kind.note ∉ kinds ∧ Kind.clear ∉ kinds) :
    Late id program := by
  intro phase late
  refine (Spares.rest raising_spares within fun kind member => ?_).mono fun _ last same => same ▸ late
  cases kind with
  | note => exact absurd member plain.1
  | clear => exact absurd member plain.2
  | deviceRead => exact late
  | send type => simp [spares, late]
  | _ => rfl

/-- An operation of the session that neither raises the flag nor notes another message. -/
def settled : SessionOp → Bool
  | .receivedSyncMessage _ | .setResponsePending true | .completeClear _ => false
  | _ => true

theorem late_step {op : SessionOp} {next : op.Reply → Act β} (calm : settled op = true)
    (resume : ∀ reply, Late id (next reply)) : Late id (session op >>= next) := by
  intro phase late
  have allowed : (raising id).allowed phase (.shared (.session op)) := by
    cases op with
    | setResponsePending pending =>
      cases pending with
      | false => exact late
      | true => cases calm
    | receivedSyncMessage received | completeClear overlap => cases calm
    | _ => trivial
  refine Follows.step allowed fun reply _ => resume reply _ ?_
  cases op with
  | setResponsePending pending => cases pending <;> rfl
  | receivedSyncMessage received => cases calm
  | _ => exact late

theorem late_last {op : SessionOp} (calm : settled op = true) : Late id (session op) :=
  late_step calm fun reply => late_pure reply

theorem late_write (writer : MessageWriter) (header : Header) (payload : Bytes) :
    Late id (writer.write header payload) :=
  late_within (write_within writer payload (List.elem_iff.mpr (List.mem_singleton_self _))) (by simp)

theorem terminate_late (final : Bytes) : Late id (terminate response final) := by
  refine (late_write _ _ _).bind fun failed => ?_
  cases failed with
  | some err => exact late_pure _
  | none => exact late_step rfl fun _ => late_step rfl fun _ => late_last rfl

theorem completeAbsentResponse_late : Late id (completeAbsentResponse response) := by
  refine (late_write _ _ _).bind fun failed => ?_
  cases failed with
  | some err => exact late_pure _
  | none =>
    refine late_step rfl fun (refused : Option Err) => ?_
    cases refused with
    | some err => exact late_pure _
    | none => exact (terminate_late response []).bind fun _ => late_pure _

theorem completeTruncatedResponse_late : Late id (completeTruncatedResponse response) := by
  refine (late_write _ _ _).bind fun failed => ?_
  cases failed with
  | some err => exact late_pure _
  | none => exact (terminate_late response []).bind fun _ => late_pure _

theorem sendInterrupted_late : Late id (sendInterrupted response) := by
  refine late_step rfl fun (refused : Option Err) => ?_
  cases refused with
  | some err => exact late_pure _
  | none =>
    refine late_step rfl fun _ => ?_
    refine (late_write _ _ _).bind fun failed => ?_
    cases failed with
    | some err => exact late_pure _
    | none =>
      refine (late_write _ _ _).bind fun failed => ?_
      cases failed with
      | some err => exact late_pure _
      | none => exact late_last rfl

theorem offerTerminator_late (final : Bytes) : Late id (offerTerminator response final) := by
  refine (late_within (ask_within response.inputQueued) (by decide)).bind fun queued => Late.ite ?_ ?_
  · exact (sendInterrupted_late response).bind fun _ => late_pure _
  · refine late_step rfl fun (refused : Option Err) => ?_
    cases refused with
    | some err => exact late_pure _
    | none => exact (terminate_late response final).bind fun _ => late_pure _

theorem responseLoop_late (ctx : Ctx) (response : CheckedResponse) (fuel : Nat) (delivered : UInt64) :
    Late id (responseLoop ctx response fuel delivered) := by
  induction fuel generalizing delivered with
  | zero => exact late_within (exhausted_within (by decide) : Within [.never] _) (by decide)
  | succ fuel ih =>
    refine (late_within (last_within rfl : Within [.deviceRead] _) (by decide)).bind fun (result : ReadResult) => ?_
    refine (late_within (sendChunk_within response result) (by decide)).bind fun sent => ?_
    cases sent with
    | error refused => exact late_pure _
    | ok sent =>
      cases result.err with
      | some err => exact Late.ite (completeAbsentResponse_late response) (completeTruncatedResponse_late response)
      | none => exact Late.ite (offerTerminator_late response _) (ih _)

def lowered (_ : α) (last : Phase) : Prop := last ≠ .answering

theorem spared_lowered (within : Within kinds program) (spared : ∀ kind ∈ kinds, spares phase kind = true)
    (down : phase ≠ .answering) : Follows (raising id) lowered program phase :=
  (Spares.rest raising_spares within spared).mono fun _ _ same => same ▸ down

theorem sendResponse_lowers (ctx : Ctx) (response : Response) (fuel : Nat) :
    Follows (raising id) (fun _ last => last = .noted ∨ last = .answered) (sendResponse ctx response fuel) .noted := by
  refine Spares.skip raising_spares (validate_within response) (by decide) fun checked => ?_
  cases checked with
  | error err => exact .inl rfl
  | ok checked =>
    refine Spares.step raising_spares rfl fun (refused : Option Err) => ?_
    cases refused with
    | some err => exact .inl rfl
    | none =>
      refine Follows.step rfl fun _ _ => Follows.bind (responseLoop_late ctx checked fuel 0 _ rfl) fun _ last late => ?_
      exact Follows.step late fun _ _ => .inr rfl

theorem answerProgramMessage_lowers (writer : Option MessageWriter) (fuel : Nat) :
    Follows (raising id) lowered (answerProgramMessage config header writer fuel) .noted := by
  refine Spares.step raising_spares rfl fun (found : Disposition) => Follows.ite (fun _ => ?_) fun _ => ?_
  · exact spared_lowered (last_within rfl : Within [.tx] _) (by decide) (by decide)
  · refine Spares.skip raising_spares operation_within (by decide) fun number => ?_
    refine Spares.step raising_spares rfl fun async => Spares.step raising_spares rfl fun limit =>
      Spares.skip raising_spares syncPending_within (by decide) fun queued => ?_
    refine Follows.bind (sendResponse_lowers _ _ fuel) fun result last done => ?_
    obtain ⟨outcome, err⟩ := result
    have down : last ≠ .answering := by
      rcases done with rfl | rfl <;> decide
    have release : ∀ result : Option Err, Follows (raising id) lowered
        (releaseOperation number >>= fun _ => Pure.pure result) last :=
      fun result => Spares.skip raising_spares (releaseOperation_within number) (by cases last <;> decide) fun _ => down
    refine Spares.skip raising_spares (countOutcome_within outcome) (by cases last <;> decide) fun _ => ?_
    cases err with
    | some err =>
      exact Spares.skip raising_spares (reportOperationError_within writer err) (by cases last <;> decide) release
    | none => exact release none

theorem receiveData_notes (payload : Bytes) :
    Follows (raising header.messageID) (fun result last => last = .noted ∨ last = .fresh ∧ result.2.isSome = true)
      (receiveData header payload) .fresh := by
  refine Follows.ite (fun _ => .inr ⟨rfl, rfl⟩) fun _ => ?_
  refine Spares.step raising_spares rfl fun _ => Follows.step ⟨rfl, rfl⟩ fun _ _ => ?_
  refine Spares.step raising_spares (by split <;> rfl) fun (refused : Option Err) => ?_
  cases refused with
  | some err => exact .inl rfl
  | none => exact Spares.step raising_spares rfl fun _ => .inl rfl

theorem handleData_lowers (fuel : Nat) :
    Follows (raising message.header.messageID) lowered (handleData config message writer fuel) .fresh := by
  refine Follows.bind (receiveData_notes _ _) fun result last noted => ?_
  obtain ⟨interrupted, err⟩ := result
  have down : last ≠ .answering := by
    rcases noted with rfl | ⟨rfl, -⟩ <;> decide
  refine Spares.skip raising_spares (countInterrupted_within interrupted) (by cases last <;> decide) fun _ => ?_
  cases err with
  | some err => exact spared_lowered (reportOperationError_within writer err) (by cases last <;> decide) down
  | none =>
    obtain rfl | ⟨-, failed⟩ := noted
    · have ends : Follows (raising message.header.messageID) lowered (if message.header.type ≠ .dataEnd then Pure.pure none
          else answerProgramMessage config message.header writer fuel) .noted :=
        Follows.ite (fun _ => down) fun _ => answerProgramMessage_lowers config message.header writer fuel
      exact Follows.ite (fun _ => Spares.step raising_spares rfl fun _ => ends) fun _ => ends
    · cases failed

theorem handleTrigger_lowers :
    Follows (raising message.header.messageID) lowered (handleTrigger message writer) .fresh := by
  have noted : Follows (raising message.header.messageID) lowered (trigger message.header) .fresh := by
    refine Follows.ite (fun _ => Phase.noConfusion) fun _ =>
      Spares.skip raising_spares requireReady_within (by decide) fun refused => ?_
    cases refused with
    | some err => exact Phase.noConfusion
    | none =>
      refine Spares.step raising_spares rfl fun _ => Follows.step ⟨rfl, rfl⟩ fun _ _ =>
        Spares.step raising_spares rfl fun (refused : Option Err) => ?_
      cases refused with
      | some err => exact Phase.noConfusion
      | none =>
        refine Spares.step raising_spares rfl fun (failed : Option Err) => ?_
        cases failed with
        | some err => exact Phase.noConfusion
        | none => exact Spares.step raising_spares rfl fun _ => Phase.noConfusion
  refine Follows.bind noted fun result last down => ?_
  obtain ⟨interrupted, err⟩ := result
  refine Spares.skip raising_spares (countInterrupted_within interrupted) (by cases last <;> decide) fun _ => ?_
  cases err with
  | some err => exact spared_lowered (reportOperationError_within writer err) (by cases last <;> decide) down
  | none => exact Spares.step raising_spares (by cases last <;> rfl) fun _ => down

theorem handleDeviceClearComplete_lowers :
    Follows (raising message.header.messageID) lowered (handleDeviceClearComplete config message writer) .fresh := by
  have reset : Follows (raising message.header.messageID) (fun result last => result.1.type ≠ .dataEnd ∧ last = .fresh)
      (completeDeviceClear config message.header) .fresh :=
    Follows.ite (fun _ => ⟨show MessageType.initializeRequest ≠ .dataEnd by decide, rfl⟩) fun _ =>
      Follows.step rfl fun _ _ => Spares.step raising_spares rfl fun _ => Spares.step raising_spares rfl fun _ =>
        ⟨show MessageType.deviceClearAcknowledge ≠ .dataEnd by decide, rfl⟩
  refine Follows.bind reset ?_
  rintro ⟨ack, clearErr⟩ _ ⟨other, rfl⟩
  refine Spares.skip raising_spares (writeVia_only writer ack []) (by simp [spares, other]) fun failed => ?_
  cases failed with
  | some err => exact Phase.noConfusion
  | none =>
    refine Spares.step raising_spares rfl fun _ => ?_
    cases clearErr with
    | some err => exact spared_lowered (reportOperationError_within writer err) (by decide) (by decide)
    | none => exact Phase.noConfusion

theorem handleSync_lowers (fuel : Nat) :
    Follows (raising message.header.messageID) lowered (handleSync config message fuel) .fresh :=
  Spares.handleSync config message fuel raising_spares (by decide) (fun _ => Phase.noConfusion)
    (fun _ _ writer => handleData_lowers config message writer fuel) (fun _ writer => handleTrigger_lowers message writer)
    fun _ writer => handleDeviceClearComplete_lowers config message writer

end Synchronous

section Asynchronous

/-- How far a status query has come: what the device reported, and the byte computed
from it. -/
structure Report where
  device : Option UInt8 := none
  byte : Option UInt8 := none

/-- A status response carries the byte that was computed for the query, with RQS or
without. Of the status, the asynchronous loop only lowers the flag. -/
def reporting (query : MessageID) : Discipline Op Op.Reply Report where
  allowed
    | report, .shared (.session (.statusByte device id _)) => report.device = some device ∧ id = query
    | _, .shared (.session (.setResponsePending pending)) => pending = false
    | _, .shared (.session (.receivedSyncMessage _)) | _, .shared (.session (.completeClear _)) => False
    | _, .environment (.read _ _) => False
    | report, .environment (.send _ header _) => header.type ≠ .dataEnd ∧ (header.type = .asyncStatusResponse →
        ∃ byte, report.byte = some byte ∧ (header.control = byte ∨ header.control = byte ||| statusRQS))
    | _, _ => True
  advance
    | _, .environment (.readStatusByte _), .ok device => { device := some device }
    | report, .shared (.session (.statusByte _ _ _)), byte => { report with byte := some byte }
    | report, _, _ => report

/-- The kinds of operations that have nothing to do with a status query. -/
def foreign : Kind → Bool
  | .note | .clear | .device | .deviceRead => false
  | .send type => type ≠ .dataEnd && type ≠ .asyncStatusResponse
  | _ => true

variable {α β : Type} {kinds : List Kind} {query : MessageID} {report : Report} (writer : MessageWriter)
  (config : Config) {answer : Except Err Header} (header : Header)

theorem reporting_spares : Spares (reporting query) report (foreign · = true) := by
  intro op other
  cases op with
  | shared op =>
    cases op with
    | session op => cases op <;> first | exact ⟨trivial, fun _ => rfl⟩ | cases other
    | _ => exact ⟨trivial, fun _ => rfl⟩
  | environment op =>
    cases op with
    | read ctx size | readStatusByte ctx => cases other
    | send channel header payload =>
      simp only [foreign, kind, ne_eq, decide_not, Bool.and_eq_true, Bool.not_eq_true', decide_eq_false_iff_not] at other
      exact ⟨⟨other.1, fun same => absurd same other.2⟩, fun _ => rfl⟩
    | _ => exact ⟨trivial, fun _ => rfl⟩

theorem foreign_write {header : Header} (payload : Bytes) (other : foreign (.send header.type) = true) :
    Follows (reporting query) (fun _ last => last = report) (writer.write header payload) report := by
  have within : Within [.send header.type] (writer.write header payload) :=
    write_within writer payload (List.elem_iff.mpr (List.mem_singleton_self _))
  refine (Spares.follows reporting_spares within fun kind member => ?_).mono fun _ _ => And.right
  rw [List.mem_singleton.mp member]
  exact other

theorem foreign_answer {type : MessageType} (answers : Answers type answer) (other : foreign (.send type) = true) :
    Follows (reporting query) (fun _ _ => True) (answerAsync writer answer) report := by
  cases answer with
  | error err =>
    exact (Spares.follows reporting_spares (reportOperationError_within (some writer) err) (by decide)).mono
      fun _ _ _ => trivial
  | ok header =>
    refine (foreign_write writer [] ?_).mono fun _ _ _ => trivial
    rw [answers header rfl]
    exact other

theorem beginDeviceClear_reports :
    Follows (reporting query) (fun answer _ => Answers .asyncDeviceClearAcknowledge answer) (beginDeviceClear config)
      report := by
  refine Spares.bind reporting_spares requireReady_within (by decide) fun refused _ => ?_
  cases refused with
  | some err => exact answers_error _ err
  | none =>
    refine Spares.bind reporting_spares abortOperation_within (by decide) fun _ _ => ?_
    refine Follows.step rfl fun _ _ => Follows.step trivial fun (refused : Option Err) _ => ?_
    cases refused with
    | some err => exact answers_error _ err
    | none => exact Follows.step trivial fun _ _ => answers_ok rfl

/-- The answer of a status query is the byte that was computed for it. -/
def Computed (answer : Except Err Header) (report : Report) : Prop :=
  ∀ header, answer = .ok header → header.type = .asyncStatusResponse ∧
    ∃ byte, report.byte = some byte ∧ (header.control = byte ∨ header.control = byte ||| statusRQS)

theorem statusQuery_reports : Follows (reporting header.messageID) Computed (statusQuery header) report := by
  refine Follows.ite (fun _ => fun _ => nofun) fun _ =>
    Spares.bind reporting_spares requireReady_within (by decide) fun refused _ => ?_
  cases refused with
  | some err => exact fun _ => nofun
  | none =>
    refine Follows.step trivial fun _ _ => Follows.step trivial fun (read : Except Err UInt8) _ => ?_
    cases read with
    | error err => exact fun _ => nofun
    | ok device =>
      refine Follows.step ⟨rfl, rfl⟩ fun byte _ => Follows.step trivial fun _ _ => Follows.ite (fun _ => ?_) fun _ => ?_
      · rintro _ ⟨⟩
        exact ⟨rfl, byte, rfl, .inr rfl⟩
      · rintro _ ⟨⟩
        exact ⟨rfl, byte, rfl, .inl rfl⟩

theorem computed_answer (computed : Computed answer report) :
    Follows (reporting query) (fun _ _ => True) (answerAsync writer answer) report := by
  cases answer with
  | error err =>
    exact (Spares.follows reporting_spares (reportOperationError_within (some writer) err) (by decide)).mono
      fun _ _ _ => trivial
  | ok header =>
    obtain ⟨typed, told⟩ := computed header rfl
    refine Follows.ite (fun _ => trivial) fun _ => Follows.ite (fun _ => trivial) fun _ => ?_
    refine Follows.perform ⟨?_, fun _ => told⟩ fun _ _ => trivial
    rw [typed]
    decide

theorem remoteLocal_reports :
    Follows (reporting query) (fun answer _ => Answers .asyncRemoteLocalResponse answer)
      (remoteLocal header) report := by
  refine Follows.ite (fun _ => answers_error _ _) fun _ =>
    Spares.bind reporting_spares requireReady_within (by decide) fun refused _ => ?_
  cases refused with
  | some err => exact answers_error _ err
  | none =>
    refine Follows.ite (fun _ => answers_error _ _) fun _ => Follows.step trivial fun (failed : Option Err) _ => ?_
    cases failed with
    | some err => exact answers_error _ err
    | none => exact answers_ok rfl

theorem maximumMessageSize_reports (clientMax : UInt64) :
    Follows (reporting query) (fun result _ => result.1.type = .asyncMaximumMessageSizeResponse)
      (maximumMessageSize config clientMax) report := by
  unfold maximumMessageSize
  split
  next large => exact Follows.step trivial fun _ _ => rfl
  next => exact rfl

theorem handleAsync_reports (message : Message) (fuel : Nat) :
    Follows (reporting message.header.messageID) (fun _ _ => True) (handleAsync config message fuel) report := by
  have plain {kinds : List Kind} {program : Act (Option Err)} (within : Within kinds program)
      (others : ∀ kind ∈ kinds, foreign kind = true) :
      Follows (reporting message.header.messageID) (fun _ _ => True) program report :=
    (Spares.follows reporting_spares within others).mono fun _ _ _ => trivial
  refine Follows.step trivial fun (writer : Option MessageWriter) _ => ?_
  cases writer with
  | none => trivial
  | some writer =>
    cases message.err with
    | some err => exact plain (reportReadError_within (some writer) err) (by decide)
    | none =>
      refine Spares.bind reporting_spares (accept_within _ _) (by decide) fun result _ => ?_
      cases result with
      | error err => exact plain (reportAcceptError_within (some writer) err) (by decide)
      | ok found =>
        refine Follows.ite (fun _ => Follows.bind (beginDeviceClear_reports config) fun _ _ answers =>
          foreign_answer writer answers rfl) fun _ => ?_
        refine Follows.ite (fun _ => Follows.bind (statusQuery_reports message.header) fun _ _ computed =>
          Follows.step trivial fun _ _ => computed_answer writer computed) fun _ => ?_
        refine Follows.ite (fun _ => Spares.bind reporting_spares (lock_within _ _ fuel) (by decide) fun _ answers =>
          foreign_answer writer answers rfl) fun _ => ?_
        refine Follows.ite (fun _ => Spares.bind reporting_spares (lockInfo_within _) (by decide) fun _ answers =>
          foreign_answer writer answers rfl) fun _ => ?_
        refine Follows.ite (fun _ => Follows.bind (remoteLocal_reports _) fun _ _ answers =>
          foreign_answer writer answers rfl) fun _ => ?_
        refine Follows.ite (fun _ => Follows.bind (maximumMessageSize_reports config _) fun _ _ typed => ?_) fun _ => ?_
        · exact (foreign_write writer _ (by rw [typed]; rfl)).mono fun _ _ _ => trivial
        · refine Follows.ite (fun _ => Follows.bind (foreign_write writer [] rfl) fun _ _ _ => trivial) fun _ => ?_
          refine Follows.ite (fun _ => Follows.step trivial fun _ _ => trivial) fun _ => ?_
          refine Follows.ite (fun _ => Follows.step trivial fun _ _ => trivial) fun _ =>
            Follows.step trivial fun _ _ => ?_
          exact (foreign_write writer _ rfl).mono fun _ _ _ => trivial

end Asynchronous

end Hislip.Proofs.StatusPhases
