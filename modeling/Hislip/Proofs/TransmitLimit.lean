import Hislip.Proofs.DeviceClear

/-! The payloads that the server writes and the session's transmit limit. Response chunks
are cut to the limit; error texts are not. -/

namespace Hislip.Proofs.TransmitLimit
open Hislip.Server Hislip.Proofs.Footprint Hislip.Proofs.DeviceClear Act Program Transition

variable {σ δ : Type}

/-- The length of the text of `ErrSessionNotReady`. The server sends no longer text of its own. -/
def longestText : Nat := 49

/-- An error of the package itself. That of a response without its `inputQueued` is never
sent, since the handlers always supply it. -/
def Own (err : Err) : Prop := ∃ sentinel : Sentinel, err = sentinel ∧ sentinel ≠ .inputQueuedRequired

theorem Own.text_le_longest {err : Err} (own : Own err) : err.text.length ≤ longestText := by
  obtain ⟨sentinel, rfl, sent⟩ := own
  cases sentinel with
  | inputQueuedRequired => exact absurd rfl sent
  | _ => decide +kernel

theorem own_of_refusal {err : Err} (refusal : Refusal err) : Own err := by
  obtain ⟨sentinel, member, rfl⟩ := refusal
  refine ⟨sentinel, rfl, ?_⟩
  rintro rfl
  exact absurd member (by decide)

/-- An error, if there is one, with a text of at most `bound` bytes. -/
def brief (bound : Nat) : Option Err → Bool
  | some err => err.text.length ≤ bound
  | none => true

/-- The device keeps to the size of the buffer, and errors of the device and the streams
have texts of at most `bound` bytes. -/
def tame (bound : Nat) : (op : EnvironmentOp) → op.Reply → Bool
  | .write _ _ _, failed => brief bound failed
  | .clear _, failed => brief bound failed
  | .trigger _, failed => brief bound failed
  | .remoteLocal _ _, failed => brief bound failed
  | .send _ _ _, failed => brief bound failed
  | .read _ size, result => result.data.length ≤ size
  | .readStatusByte _, .error err => err.text.length ≤ bound
  | _, _ => true

/-- A loop knows the limit in force, which only it changes, and sends nothing longer as
long as the errors it gets are brief. -/
def metered (bound : Nat) : Discipline Op Op.Reply UInt64 where
  allowed
    | limit, .environment (.send _ _ payload) => payload.length ≤ limit.toNat
    | _, _ => True
  possible
    | limit, .shared (.session .maxTx), found => found = limit
    | _, .shared (.session (.tx _)), refused => brief bound refused
    | _, .environment op, reply => tame bound op reply
    | _, _, _ => True
  advance
    | _, .shared (.session (.setMaxTx limit)), _ => limit.1
    | limit, _, _ => limit

/-- The program leaves the limit alone and its result meets `post`. -/
abbrev Mild {α : Type} (bound : Nat) (limit : UInt64) (program : Act α) (post : α → Prop) : Prop :=
  Follows (metered bound) (fun value last => last = limit ∧ post value) program limit

section Rules
variable {α β : Type} {bound : Nat} {limit : UInt64} {program : Act α} {post : α → Prop}

theorem Mild.bind {next : α → Act β} {last : β → Prop} (first : Mild bound limit program post)
    (second : ∀ value, post value → Mild bound limit (next value) last) : Mild bound limit (program >>= next) last := by
  refine Follows.bind first ?_
  rintro value _ ⟨rfl, met⟩
  exact second value met

theorem mild_pure {value : α} (met : post value) : Mild bound limit (Pure.pure value : Act α) post := ⟨rfl, met⟩

theorem mild_step {op : Op} {next : op.Reply → Act α} (allowed : (metered bound).allowed limit op)
    (rests : ∀ reply, (metered bound).advance limit op reply = limit)
    (resume : ∀ reply, (metered bound).possible limit op reply → Mild bound limit (next reply) post) :
    Mild bound limit (Program.perform op >>= next) post := by
  refine Follows.step allowed fun reply possible => ?_
  rw [rests]
  exact resume reply possible

theorem mild_last {op : Op} {post : op.Reply → Prop} (allowed : (metered bound).allowed limit op)
    (rests : ∀ reply, (metered bound).advance limit op reply = limit)
    (met : ∀ reply, (metered bound).possible limit op reply → post reply) :
    Mild bound limit (Program.perform op) post := ⟨allowed, fun reply possible => ⟨rests reply, met reply possible⟩⟩

/-- The kinds of operations that no text comes from or goes to. -/
def silent : List Kind := [.get, .rmt, .clear, .operation, .release, .lock, .wait, .count, .pending, .never]

theorem mild_performs {kinds : List Kind} (performs : Performs kinds program post)
    (fewer : ∀ kind ∈ kinds, kind ∈ silent) : Mild bound limit program post := by
  refine (performs.rests fun op member => ?_).mono fun _ _ met => ⟨met.2, met.1⟩
  have plain := fewer _ member
  cases op with
  | shared op =>
    cases op with
    | session op =>
      cases op with
      | setMaxTx limit => exact absurd plain (show Kind.note ∉ silent by decide)
      | _ => exact ⟨trivial, fun _ => rfl⟩
    | _ => exact ⟨trivial, fun _ => rfl⟩
  | environment op =>
    cases op with
    | send channel header payload => exact absurd plain (show Kind.send header.type ∉ silent by simp [silent])
    | _ => exact ⟨trivial, fun _ => rfl⟩

end Rules

/-- Brief errors and the server's own texts are within the limit. -/
structure Room (bound : Nat) (limit : UInt64) : Prop where
  own : longestText ≤ bound
  errors : bound ≤ limit.toNat

section Reports
variable {bound : Nat} {limit : UInt64} (room : Room bound limit)
include room

variable {err : Err}

theorem brief_own (own : Own err) : brief bound (some err) = true :=
  decide_eq_true (Nat.le_trans own.text_le_longest room.own)

theorem write_mild (writer : MessageWriter) (header : Header) {payload : Bytes} (short : payload.length ≤ limit.toNat) :
    Mild bound limit (writer.write header payload) fun failed => brief bound failed = true := by
  unfold MessageWriter.write
  refine Follows.ite (fun _ => mild_pure (brief_own room ⟨_, rfl, nofun⟩)) fun _ =>
    Follows.ite (fun _ => mild_pure (brief_own room ⟨_, rfl, nofun⟩)) fun _ => ?_
  exact mild_last short (fun _ => rfl) fun _ possible => possible

variable (writer : Option MessageWriter)

theorem writeVia_mild (header : Header) {payload : Bytes} (short : payload.length ≤ limit.toNat) :
    Mild bound limit (writeVia writer header payload) fun failed => brief bound failed = true := by
  cases writer with
  | some writer => exact write_mild room writer header short
  | none => exact ⟨trivial, fun reply => reply.elim⟩

theorem reportError_mild (short : brief bound (some err) = true) (code : ErrorCode → ErrorCode) :
    Mild bound limit (reportError writer err code) fun _ => True := by
  have text : err.text.length ≤ limit.toNat := Nat.le_trans (of_decide_eq_true short) room.errors
  unfold reportError
  cases wireErrorFor err with
  | fatal fatal =>
    refine mild_step trivial (fun _ => rfl) fun _ _ => ?_
    cases writer with
    | some writer => exact (write_mild room writer _ text).bind fun _ _ => mild_pure trivial
    | none => exact mild_pure trivial
  | nonFatal nonFatal =>
    refine mild_step trivial (fun _ => rfl) fun _ _ => ?_
    cases writer with
    | some writer => exact (write_mild room writer _ text).mono fun _ _ => And.imp_right fun _ => trivial
    | none => exact mild_pure trivial

theorem reportAcceptError_mild (own : Own err) : Mild bound limit (reportAcceptError writer err) fun _ => True := by
  have reports := reportError_mild room writer (brief_own room own) id
  exact Follows.ite (fun _ => mild_step trivial (fun _ => rfl) fun _ _ => reports) fun _ => reports

theorem reportOperationError_mild (short : brief bound (some err) = true) :
    Mild bound limit (reportOperationError writer err) fun _ => True := reportError_mild room writer short _

theorem literal_fits {text : Bytes} (short : text.length ≤ longestText) : text.length ≤ limit.toNat :=
  Nat.le_trans short (Nat.le_trans room.own room.errors)

theorem reportReadError_mild (err : Err) : Mild bound limit (reportReadError writer err) fun _ => True := by
  refine Follows.ite (fun _ => ?_) fun _ => mild_pure trivial
  refine mild_step trivial (fun _ => rfl) fun _ _ => mild_step trivial (fun _ => rfl) fun _ _ => ?_
  cases writer with
  | some writer =>
    have text := literal_fits room (show (ascii "message too large").length ≤ longestText by decide +kernel)
    exact (write_mild room writer _ text).mono fun _ _ => And.imp_right fun _ => trivial
  | none => exact mild_pure trivial

end Reports

section Responses
variable {bound : Nat} {limit : UInt64} (room : Room bound limit) (response : CheckedResponse)
include room

theorem terminate_mild {final : Bytes} (short : final.length ≤ limit.toNat) :
    Mild bound limit (terminate response final) fun failed => brief bound failed = true := by
  refine (write_mild room response.sync _ short).bind fun failed told => ?_
  cases failed with
  | some err => exact mild_pure told
  | none =>
    refine mild_step trivial (fun _ => rfl) fun _ _ => mild_step trivial (fun _ => rfl) fun _ _ => ?_
    exact mild_last trivial (fun _ => rfl) fun _ possible => possible

theorem completeAbsentResponse_mild :
    Mild bound limit (completeAbsentResponse response) fun result => brief bound result.2 = true := by
  have text := literal_fits room (show (ascii "no response from instrument").length ≤ longestText by decide +kernel)
  refine (write_mild room response.sync _ text).bind fun failed told => ?_
  cases failed with
  | some err => exact mild_pure told
  | none =>
    refine mild_step trivial (fun _ => rfl) fun (refused : Option Err) told => ?_
    cases refused with
    | some err => exact mild_pure told
    | none => exact (terminate_mild room response (Nat.zero_le _)).bind fun _ told => mild_pure told

theorem completeTruncatedResponse_mild :
    Mild bound limit (completeTruncatedResponse response) fun result => brief bound result.2 = true := by
  have text := literal_fits room (show (ascii "response truncated").length ≤ longestText by decide +kernel)
  refine (write_mild room response.sync _ text).bind fun failed told => ?_
  cases failed with
  | some err => exact mild_pure told
  | none => exact (terminate_mild room response (Nat.zero_le _)).bind fun _ told => mild_pure told

theorem sendInterrupted_mild : Mild bound limit (sendInterrupted response) fun failed => brief bound failed = true := by
  refine mild_step trivial (fun _ => rfl) fun (refused : Option Err) told => ?_
  cases refused with
  | some err => exact mild_pure told
  | none =>
    refine mild_step trivial (fun _ => rfl) fun _ _ => (write_mild room _ _ (Nat.zero_le _)).bind fun failed told => ?_
    cases failed with
    | some err => exact mild_pure told
    | none =>
      refine (write_mild room _ _ (Nat.zero_le _)).bind fun failed told => ?_
      cases failed with
      | some err => exact mild_pure told
      | none => exact mild_last trivial (fun _ => rfl) fun _ possible => possible

theorem offerTerminator_mild {final : Bytes} (short : final.length ≤ limit.toNat) :
    Mild bound limit (offerTerminator response final) fun result => brief bound result.2 = true := by
  refine (mild_performs (ask_within response.inputQueued) (by decide)).bind fun queued _ =>
    Follows.ite (fun _ => ?_) fun _ => ?_
  · exact (sendInterrupted_mild room response).bind fun _ told => mild_pure told
  · refine mild_step trivial (fun _ => rfl) fun (refused : Option Err) told => ?_
    cases refused with
    | some err => exact mild_pure told
    | none => exact (terminate_mild room response short).bind fun _ told => mild_pure told

theorem sendChunk_mild {result : ReadResult} (short : result.data.length ≤ limit.toNat) :
    Mild bound limit (sendChunk response result) fun sent => ∀ outcome err, sent = .error (outcome, err) →
      brief bound (some err) = true := by
  refine Follows.ite (fun _ => mild_pure fun _ _ => nofun) fun _ => ?_
  refine mild_step trivial (fun _ => rfl) fun (refused : Option Err) told => ?_
  cases refused with
  | some err =>
    refine mild_pure ?_
    rintro _ _ ⟨⟩
    exact told
  | none =>
    refine Follows.ite (fun _ => ?_) fun _ => mild_pure fun _ _ => nofun
    refine (write_mild room response.sync _ short).bind fun failed told => ?_
    cases failed with
    | some err =>
      refine mild_pure ?_
      rintro _ _ ⟨⟩
      exact told
    | none => exact mild_pure fun _ _ => nofun

theorem responseLoop_mild (ctx : Ctx) (scratch : response.scratch ≤ limit.toNat) (fuel : Nat) (delivered : UInt64) :
    Mild bound limit (responseLoop ctx response fuel delivered) fun result => brief bound result.2 = true := by
  induction fuel generalizing delivered with
  | zero => exact ⟨trivial, fun reply => reply.elim⟩
  | succ fuel ih =>
    refine mild_step trivial (fun _ => rfl) fun (result : ReadResult) tame => ?_
    have short : result.data.length ≤ limit.toNat := Nat.le_trans (of_decide_eq_true tame) scratch
    refine (sendChunk_mild room response short).bind fun sent told => ?_
    cases sent with
    | error refused => exact mild_pure (told _ _ rfl)
    | ok sent =>
      cases result.err with
      | some err =>
        exact Follows.ite (fun _ => completeAbsentResponse_mild room response)
          fun _ => completeTruncatedResponse_mild room response
      | none => exact Follows.ite (fun _ => offerTerminator_mild room response short) fun _ => ih _

end Responses

section Handlers
variable {bound : Nat} {limit : UInt64} (room : Room bound limit)
include room

theorem validate_mild {response : Response} (sized : response.scratch < 2 ^ 64) (asks : response.inputQueued ≠ none) :
    Mild bound limit response.validate fun result =>
      (∀ err, result = .error err → brief bound (some err) = true) ∧
        ∀ checked, result = .ok checked → checked.scratch ≤ limit.toNat := by
  have own {sentinel : Sentinel} (sent : sentinel ≠ .inputQueuedRequired) :
      (∀ err, (.error sentinel : Except Err CheckedResponse) = .error err → brief bound (some err) = true) ∧
        ∀ checked, (.error sentinel : Except Err CheckedResponse) = .ok checked → checked.scratch ≤ limit.toNat := by
    refine ⟨?_, fun _ => nofun⟩
    rintro _ ⟨⟩
    exact brief_own room ⟨sentinel, rfl, sent⟩
  obtain ⟨sync, async, messageID, scratch, inputQueued⟩ := response
  cases sync with
  | none => exact mild_pure (own nofun)
  | some sync =>
    cases async with
    | none => exact mild_pure (own nofun)
    | some async =>
      refine Follows.ite (fun _ => mild_pure (own nofun)) fun _ => ?_
      refine mild_step trivial (fun _ => rfl) fun (found : UInt64) (same : found = limit) => ?_
      refine Follows.ite (fun _ => mild_pure (own nofun)) fun small => ?_
      rw [same, gt_iff_lt, UInt64.lt_iff_toNat_lt, UInt64.toNat_ofNat_of_lt' sized] at small
      cases inputQueued with
      | none => exact absurd rfl asks
      | some queued =>
        refine mild_pure ⟨fun _ => nofun, ?_⟩
        rintro _ ⟨⟩
        exact Nat.le_of_not_lt small

theorem sendResponse_mild (ctx : Ctx) {response : Response} (sized : response.scratch < 2 ^ 64)
    (asks : response.inputQueued ≠ none) (fuel : Nat) :
    Mild bound limit (sendResponse ctx response fuel) fun result => brief bound result.2 = true := by
  refine (validate_mild room sized asks).bind fun checked told => ?_
  cases checked with
  | error err => exact mild_pure (told.1 err rfl)
  | ok checked =>
    refine mild_step trivial (fun _ => rfl) fun (refused : Option Err) brief => ?_
    cases refused with
    | some err => exact mild_pure brief
    | none =>
      refine mild_step trivial (fun _ => rfl) fun _ _ => ?_
      refine (responseLoop_mild room checked ctx (told.2 checked rfl) fuel 0).bind fun result told => ?_
      exact mild_step trivial (fun _ => rfl) fun _ _ => mild_pure told

variable (config : Config) (header : Header) (message : Message) (writer : Option MessageWriter) (fuel : Nat)

theorem answerProgramMessage_mild :
    Mild bound limit (answerProgramMessage config header writer fuel) fun _ => True := by
  refine mild_step trivial (fun _ => rfl) fun (found : Disposition) _ => Follows.ite (fun _ => ?_) fun _ => ?_
  · exact mild_last trivial (fun _ => rfl) fun _ _ => trivial
  refine (mild_performs operation_within (by decide)).bind fun number _ => ?_
  refine mild_step trivial (fun _ => rfl) fun async _ => mild_step trivial (fun _ => rfl) fun (sized : UInt64) _ => ?_
  refine (mild_performs syncPending_within (by decide)).bind fun queued _ => ?_
  have fits : responseScratch config.maxTxPayload.toNat sized < 2 ^ 64 := by
    unfold responseScratch
    split
    · exact config.maxTxPayload.toNat_lt
    · exact sized.toNat_lt
  refine (sendResponse_mild room _ fits (Option.some_ne_none queued) fuel).bind fun result told => ?_
  obtain ⟨outcome, err⟩ := result
  refine (mild_performs (countOutcome_within outcome) (by decide)).bind fun _ _ => ?_
  have release (result : Option Err) : Mild bound limit (releaseOperation number >>= fun _ => Pure.pure result) fun _ => True :=
    (mild_performs (releaseOperation_within number) (by decide)).bind fun _ _ => mild_pure trivial
  cases err with
  | some err => exact (reportOperationError_mild room writer told).bind fun result _ => release result
  | none => exact release none

theorem receiveData_mild (payload : Bytes) :
    Mild bound limit (receiveData header payload) fun result => brief bound result.2 = true := by
  refine Follows.ite (fun _ => mild_pure (brief_own room ⟨_, rfl, nofun⟩)) fun _ => ?_
  refine mild_step trivial (fun _ => rfl) fun _ _ => mild_step trivial (fun _ => rfl) fun _ _ => ?_
  refine mild_step trivial (fun _ => rfl) fun (refused : Option Err) told => ?_
  cases refused with
  | some err => exact mild_pure told
  | none => exact mild_step trivial (fun _ => rfl) fun _ told => mild_pure told

theorem handleData_mild : Mild bound limit (handleData config message writer fuel) fun _ => True := by
  refine (receiveData_mild room _ _).bind fun result told => ?_
  obtain ⟨interrupted, err⟩ := result
  refine (mild_performs (countInterrupted_within interrupted) (by decide)).bind fun _ _ => ?_
  have last : Mild bound limit (if message.header.type ≠ .dataEnd then Pure.pure none
      else answerProgramMessage config message.header writer fuel) fun _ => True :=
    Follows.ite (fun _ => mild_pure trivial) fun _ => answerProgramMessage_mild room config message.header writer fuel
  cases err with
  | some err => exact reportOperationError_mild room writer told
  | none => exact Follows.ite (fun _ => mild_step trivial (fun _ => rfl) fun _ _ => last) fun _ => last

theorem trigger_mild : Mild bound limit (trigger header) fun result => brief bound result.2 = true := by
  refine Follows.ite (fun _ => mild_pure (brief_own room ⟨_, rfl, nofun⟩)) fun _ => ?_
  refine (mild_performs requireReady_refuses (by decide)).bind fun refused refusal => ?_
  cases refused with
  | some err => exact mild_pure (brief_own room (own_of_refusal (refusal err rfl)))
  | none =>
    refine mild_step trivial (fun _ => rfl) fun _ _ => mild_step trivial (fun _ => rfl) fun _ _ => ?_
    refine mild_step trivial (fun _ => rfl) fun (refused : Option Err) told => ?_
    cases refused with
    | some err => exact mild_pure told
    | none =>
      refine mild_step trivial (fun _ => rfl) fun (failed : Option Err) told => ?_
      cases failed with
      | some err => exact mild_pure told
      | none => exact mild_step trivial (fun _ => rfl) fun _ told => mild_pure told

theorem handleTrigger_mild : Mild bound limit (handleTrigger message writer) fun _ => True := by
  refine (trigger_mild room message.header).bind fun result told => ?_
  obtain ⟨interrupted, err⟩ := result
  refine (mild_performs (countInterrupted_within interrupted) (by decide)).bind fun _ _ => ?_
  cases err with
  | some err => exact reportOperationError_mild room writer told
  | none => exact mild_step trivial (fun _ => rfl) fun _ _ => mild_pure trivial

theorem handleDeviceClearComplete_mild :
    Mild bound limit (handleDeviceClearComplete config message writer) fun _ => True := by
  have completes : Mild bound limit (completeDeviceClear config message.header) fun result =>
    brief bound result.2 = true := by
    refine Follows.ite (fun _ => mild_pure (brief_own room ⟨_, rfl, nofun⟩)) fun _ => ?_
    refine mild_step trivial (fun _ => rfl) fun _ _ => mild_step trivial (fun _ => rfl) fun _ _ => ?_
    exact mild_step trivial (fun _ => rfl) fun _ told => mild_pure told
  refine completes.bind fun result told => ?_
  obtain ⟨ack, clearErr⟩ := result
  refine (writeVia_mild room writer ack (Nat.zero_le _)).bind fun failed _ => ?_
  cases failed with
  | some err => exact mild_pure trivial
  | none =>
    refine mild_step trivial (fun _ => rfl) fun _ _ => ?_
    cases clearErr with
    | some err => exact reportOperationError_mild room writer told
    | none => exact mild_pure trivial

theorem otherSync_mild (found : Server.Class) (writer : Option MessageWriter) :
    Mild bound limit (otherSync header found writer) fun _ => True := by
  have tells (header : Header) {text : Bytes} (short : text.length ≤ longestText) :
      Mild bound limit (writeVia writer header text) fun _ => True :=
    (writeVia_mild room writer header (literal_fits room short)).mono fun _ _ => And.imp_right fun _ => trivial
  refine Follows.ite (fun _ => mild_step trivial (fun _ => rfl) fun _ _ => mild_pure trivial) fun _ => ?_
  refine Follows.ite (fun _ => mild_step trivial (fun _ => rfl) fun _ _ => mild_pure trivial) fun _ => ?_
  refine Follows.ite (fun _ => (tells _ (by decide +kernel)).bind fun _ _ => mild_pure trivial) fun _ => ?_
  exact Follows.ite (fun _ => mild_step trivial (fun _ => rfl) fun _ _ => tells _ (by decide +kernel))
    fun _ => mild_step trivial (fun _ => rfl) fun _ _ => tells _ (by decide +kernel)

theorem handleSync_mild : Mild bound limit (handleSync config message fuel) fun _ => True := by
  refine mild_step trivial (fun _ => rfl) fun writer _ => ?_
  cases message.err with
  | some err => exact reportReadError_mild room writer err
  | none =>
    refine (mild_performs (discardDuringClear_within _) (by decide)).bind fun _ _ =>
      Follows.ite (fun _ => mild_pure trivial) fun _ => ?_
    refine (mild_performs (accept_refuses _ _) (by decide)).bind fun result refusal => ?_
    cases result with
    | error err => exact reportAcceptError_mild room writer (own_of_refusal (refusal err rfl))
    | ok found =>
      refine Follows.ite (fun _ => handleData_mild room config message writer fuel) fun _ => ?_
      refine Follows.ite (fun _ => handleTrigger_mild room message writer) fun _ => ?_
      refine Follows.ite (fun _ => handleDeviceClearComplete_mild room config message writer) fun _ => ?_
      exact otherSync_mild room message.header found writer

/-- What an asynchronous operation answers: a header, or an error that is brief. -/
def Told (bound : Nat) (answer : Except Err Header) : Prop := ∀ err, answer = .error err → brief bound (some err) = true

omit room in
theorem told_ok (header : Header) : Told bound (.ok header) := fun _ => nofun

omit room in
theorem told_error {err : Err} (short : brief bound (some err) = true) : Told bound (.error err) := by
  rintro _ ⟨⟩
  exact short

theorem answerAsync_mild (writer : MessageWriter) {answer : Except Err Header} (told : Told bound answer) :
    Mild bound limit (answerAsync writer answer) fun _ => True := by
  cases answer with
  | error err => exact reportOperationError_mild room (some writer) (told err rfl)
  | ok header => exact (write_mild room writer header (Nat.zero_le _)).mono fun _ _ => And.imp_right fun _ => trivial

theorem ready_mild {next : Act (Except Err Header)} (resume : Mild bound limit next (Told bound)) :
    Mild bound limit (do
      match ← requireReady with
      | some err => return .error err
      | none => next) (Told bound) := by
  refine (mild_performs requireReady_refuses (by decide)).bind fun refused refusal => ?_
  cases refused with
  | some err => exact mild_pure (told_error (brief_own room (own_of_refusal (refusal err rfl))))
  | none => exact resume

theorem beginDeviceClear_mild : Mild bound limit (beginDeviceClear config) (Told bound) := by
  refine ready_mild room ?_
  refine (mild_performs abortOperation_within (by decide)).bind fun _ _ => ?_
  refine mild_step trivial (fun _ => rfl) fun _ _ =>
    mild_step trivial (fun _ => rfl) fun (refused : Option Err) told => ?_
  cases refused with
  | some err => exact mild_pure (told_error told)
  | none => exact mild_step trivial (fun _ => rfl) fun _ _ => mild_pure (told_ok _)

theorem statusQuery_mild : Mild bound limit (statusQuery header) (Told bound) := by
  refine Follows.ite (fun _ => mild_pure (told_error (brief_own room ⟨_, rfl, nofun⟩))) fun _ => ready_mild room ?_
  refine mild_step trivial (fun _ => rfl) fun _ _ =>
    mild_step trivial (fun _ => rfl) fun (read : Except Err UInt8) tame => ?_
  cases read with
  | error err => exact mild_pure (told_error tame)
  | ok device =>
    refine mild_step trivial (fun _ => rfl) fun _ _ => mild_step trivial (fun _ => rfl) fun _ _ => ?_
    exact Follows.ite (fun _ => mild_pure (told_ok _)) fun _ => mild_pure (told_ok _)

theorem remoteLocal_mild : Mild bound limit (remoteLocal header) (Told bound) := by
  refine Follows.ite (fun _ => mild_pure (told_error (brief_own room ⟨_, rfl, nofun⟩))) fun _ => ready_mild room ?_
  refine Follows.ite (fun _ => mild_pure (told_error (brief_own room ⟨_, rfl, nofun⟩))) fun _ => ?_
  refine mild_step trivial (fun _ => rfl) fun (failed : Option Err) told => ?_
  cases failed with
  | some err => exact mild_pure (told_error told)
  | none => exact mild_pure (told_ok _)

theorem lock_mild (lockString : Bytes) (fuel : Nat) : Mild bound limit (lock header lockString fuel) (Told bound) := by
  refine Follows.ite (fun _ => mild_pure (told_error (brief_own room ⟨_, rfl, nofun⟩))) fun _ => ready_mild room ?_
  refine Follows.ite (fun _ => mild_step trivial (fun _ => rfl) fun id _ => ?_) fun _ =>
    Follows.ite (fun _ => ?_) fun _ => ?_
  · exact (mild_performs (ofRequest_within _) (by decide)).bind fun _ _ => mild_pure (told_ok _)
  · exact mild_step trivial (fun _ => rfl) fun _ _ => mild_step trivial (fun _ => rfl) fun _ _ => mild_pure (told_ok _)
  · exact mild_pure (told_error (brief_own room ⟨_, rfl, nofun⟩))

theorem lockInfo_mild : Mild bound limit (lockInfo header) (Told bound) := by
  refine Follows.ite (fun _ => mild_pure (told_error (brief_own room ⟨_, rfl, nofun⟩))) fun _ => ready_mild room ?_
  exact mild_step trivial (fun _ => rfl) fun _ _ => mild_pure (told_ok _)

/-- The reply to MaximumMessageSize is the only message after the limit is changed. -/
theorem maximumMessageSize_meters (writer : MessageWriter) (config : Config) (clientMax : UInt64) :
    Follows (metered bound) (fun _ _ => True)
      (maximumMessageSize config clientMax >>= fun result => writer.write result.1 (putUint64 result.2)) limit := by
  have replies (limit : UInt64) (large : 8 ≤ limit.toNat) (header : Header) (agreed : UInt64) :
      Follows (metered bound) (fun _ _ => True) (writer.write header (putUint64 agreed)) limit := by
    unfold MessageWriter.write
    refine Follows.ite (fun _ => trivial) fun _ => Follows.ite (fun _ => trivial) fun _ => ?_
    exact ⟨large, fun _ _ => trivial⟩
  unfold maximumMessageSize
  split
  next large =>
    have least : 256 ≤ clientMax.toNat := UInt64.le_iff_toNat_le.mp large
    exact Follows.step trivial fun _ _ => replies clientMax (Nat.le_trans (by decide) least) _ _
  next =>
    have least : longestText ≤ limit.toNat := Nat.le_trans room.own room.errors
    exact replies limit (Nat.le_trans (by decide) least) _ _

theorem handleAsync_meters : Follows (metered bound) (fun _ _ => True) (handleAsync config message fuel) limit := by
  have meters {program : Act (Option Err)} (mild : Mild bound limit program fun _ => True) :
      Follows (metered bound) (fun _ _ => True) program limit := mild.mono fun _ _ _ => trivial
  have answers {program : Act (Except Err Header)} (writer : MessageWriter) (mild : Mild bound limit program (Told bound)) :
      Follows (metered bound) (fun _ _ => True) (program >>= answerAsync writer) limit :=
    meters (mild.bind fun _ told => answerAsync_mild room writer told)
  refine Follows.step trivial fun (writer : Option MessageWriter) _ => ?_
  cases writer with
  | none => trivial
  | some writer =>
    cases message.err with
    | some err => exact meters (reportReadError_mild room (some writer) err)
    | none =>
      refine Follows.bind (mild_performs (accept_refuses _ _) (by decide)) ?_
      rintro result _ ⟨rfl, refusal⟩
      cases result with
      | error err => exact meters (reportAcceptError_mild room (some writer) (own_of_refusal (refusal err rfl)))
      | ok found =>
        refine Follows.ite (fun _ => answers writer (beginDeviceClear_mild room config)) fun _ => ?_
        refine Follows.ite (fun _ => meters ((statusQuery_mild room message.header).bind fun _ told =>
          mild_step trivial (fun _ => rfl) fun _ _ => answerAsync_mild room writer told)) fun _ => ?_
        refine Follows.ite (fun _ => answers writer (lock_mild room _ _ fuel)) fun _ => ?_
        refine Follows.ite (fun _ => answers writer (lockInfo_mild room _)) fun _ => ?_
        refine Follows.ite (fun _ => answers writer (remoteLocal_mild room _)) fun _ => ?_
        refine Follows.ite (fun _ => maximumMessageSize_meters room writer config _) fun _ => ?_
        refine Follows.ite (fun _ => meters ((write_mild room writer _ (Nat.zero_le _)).bind fun _ _ =>
          mild_pure trivial)) fun _ => ?_
        refine Follows.ite (fun _ => Follows.step trivial fun _ _ => trivial) fun _ => ?_
        refine Follows.ite (fun _ => Follows.step trivial fun _ _ => trivial) fun _ => ?_
        have text := literal_fits room (show (ascii "unsupported message").length ≤ longestText by decide +kernel)
        exact Follows.step trivial fun _ _ => (write_mild room writer _ text).mono fun _ _ _ => trivial

theorem handle_meters (message : ClientMessage) :
    Follows (metered bound) (fun _ _ => True) (message.handle config) limit := by
  cases message with
  | sync message framed fuel => exact (handleSync_mild room config message fuel).mono fun _ _ _ => trivial
  | async message framed fuel => exact handleAsync_meters room config message fuel

end Handlers

/-- A session with the payloads that were sent so far, each with the transmit limit that
was in force then. -/
structure Meter (σ δ : Type) where
  world : World σ δ
  written : List (Bytes × UInt64) := []
  running : Bool := true

def weigh (limit : UInt64) : Op → List (Bytes × UInt64)
  | .environment (.send _ _ payload) => [(payload, limit)]
  | _ => []

def meterHandler (policy : ResponsePolicy σ) (environment : Environment δ) : Handler Op Op.Reply (Meter σ δ) :=
    fun op meter =>
  ((handler policy environment op meter.world).1,
    { meter with
      world := (handler policy environment op meter.world).2
      written := meter.written ++ weigh meter.world.session.maxTx op })

def tameEvent (bound : Nat) : Event → Bool
  | ⟨op, some reply⟩ => tame bound op reply
  | ⟨_, none⟩ => true

namespace Meter

/-- One message of either channel, handled to completion. The session ends with the loop
that handling it ends. -/
def step (policy : ResponsePolicy σ) (environment : Environment δ) (config : Config) (meter : Meter σ δ)
    (message : ClientMessage) : Option (Meter σ δ) :=
  if meter.running then
    let (result, after) := exec (meterHandler policy environment) (message.handle config) meter
    some { after with running := result = some none }
  else none

def Fits (meter : Meter σ δ) : Prop := ∀ entry ∈ meter.written, entry.1.length ≤ entry.2.toNat

/-- The limit leaves room for the server's own texts, and the errors that the device and
the streams return meanwhile have texts within it. -/
def Moderate (policy : ResponsePolicy σ) (environment : Environment δ) (config : Config) (meter : Meter σ δ)
    (message : ClientMessage) : Prop :=
  longestText ≤ meter.world.session.maxTx.toNat ∧
    ∀ event ∈ (exec (meterHandler policy environment) (message.handle config) meter).2.world.trace.drop meter.world.trace.length,
      tameEvent meter.world.session.maxTx.toNat event = true

end Meter

section Runs
variable {policy : ResponsePolicy σ} {environment : Environment δ} {bound : Nat} {before meter after : Meter σ δ}
  {limit : UInt64} {world : World σ δ} {op : Op}

/-- As long as every reply was tame, the limit is as the phase says and everything fits. -/
structure Stands (bound : Nat) (before : Meter σ δ) (phase : Option UInt64) (meter : Meter σ δ) : Prop where
  trace : ∃ events, meter.world.trace = before.world.trace ++ events ∧
    (phase = none → ∃ event ∈ events, tameEvent bound event = false)
  limit : ∀ limit, phase = some limit → meter.world.session.maxTx = limit
  fits : phase ≠ none → meter.Fits

private theorem apply_maxTx {op : SessionOp} (session : Session σ) {limit : UInt64} (same : session.maxTx = limit)
    {reply : op.Reply} :
    (op.apply policy session).2.maxTx = (metered bound).advance limit (.shared (.session op)) reply := by
  have keeps := op.apply_keeps policy session
  cases op with
  | setMaxTx size => rfl
  | _ => exact (keeps.maxTx fun _ => nofun).trans same

theorem handler_maxTx {limit : UInt64} (same : world.session.maxTx = limit) (reply : op.Reply) :
    (handler policy environment op world).2.session.maxTx = (metered bound).advance limit op reply := by
  cases op with
  | shared op =>
    cases op with
    | session op => exact apply_maxTx world.session same
    | _ => exact same
  | environment op => exact same

theorem tx_refuses (op : TxOp) (transaction : Transaction) :
    (op.apply transaction).1 = none ∨ (op.apply transaction).1 = some (Sentinel.invalidTransition : Err) := by
  obtain ⟨state, id⟩ := transaction
  cases op <;> cases state <;> first | exact .inl rfl | exact .inr rfl

/-- A reply that the discipline does not expect is an error that is too long, or a read
beyond the buffer. -/
theorem possible_of_tame (own : longestText ≤ bound) {limit : UInt64} {reply : op.Reply}
    (same : world.session.maxTx = limit) (handled : (handler policy environment op world).1 = some reply)
    (tamed : ∀ call, op = .environment call → tameEvent bound ⟨call, (environment call world.environment).1⟩ = true) :
    (metered bound).possible limit op reply := by
  cases op with
  | shared op =>
    cases op with
    | session op =>
      obtain rfl := Option.some.inj handled
      cases op with
      | maxTx => exact same
      | tx op =>
        change brief bound (op.apply world.session.tx).1 = true
        obtain done | refused := tx_refuses op world.session.tx
        · rw [done]
          rfl
        · rw [refused]
          exact decide_eq_true (Nat.le_trans (Own.text_le_longest ⟨.invalidTransition, rfl, nofun⟩) own)
      | _ => trivial
    | _ => trivial
  | environment call =>
    have expected := tamed call rfl
    rw [show (environment call world.environment).1 = some reply from handled] at expected
    exact expected

theorem handler_trace (policy : ResponsePolicy σ) (environment : Environment δ) (op : Op) (world : World σ δ) :
    ∃ more, (handler policy environment op world).2.trace = world.trace ++ more ∧
      ∀ call, op = .environment call → ⟨call, (environment call world.environment).1⟩ ∈ more := by
  cases op with
  | shared op => exact ⟨[], (List.append_nil _).symm, fun _ => nofun⟩
  | environment call =>
    refine ⟨[⟨call, (environment call world.environment).1⟩], rfl, ?_⟩
    rintro _ ⟨⟩
    exact List.mem_singleton_self _

theorem Stands.fits_after (stands : Stands bound before (some limit) meter)
    (allowed : (metered bound).allowed limit op) :
    ∀ entry ∈ meter.written ++ weigh meter.world.session.maxTx op, entry.1.length ≤ entry.2.toNat := by
  intro entry member
  rcases List.mem_append.mp member with earlier | new
  · exact stands.fits (Option.some_ne_none _) entry earlier
  · cases op with
    | shared op => cases new
    | environment op =>
      cases op with
      | send channel header payload =>
        rw [List.mem_singleton.mp new, stands.limit limit rfl]
        exact allowed
      | _ => cases new

theorem Stands.moves (policy : ResponsePolicy σ) (environment : Environment δ) (own : longestText ≤ bound)
    (phase : Option UInt64) (op : Op) (meter : Meter σ δ) (reply : op.Reply)
    (after : Meter σ δ) (stands : Stands bound before phase meter) (allowed : (metered bound).lenient.allowed phase op)
    (handled : meterHandler policy environment op meter = (some reply, after)) :
    True ∧ Stands bound before ((metered bound).lenient.advance phase op reply) after := by
  refine ⟨trivial, ?_⟩
  have replied : (handler policy environment op meter.world).1 = some reply := congrArg Prod.fst handled
  obtain rfl := congrArg Prod.snd handled
  obtain ⟨events, traced, untame⟩ := stands.trace
  obtain ⟨more, longer, told⟩ := handler_trace policy environment op meter.world
  have extended : (handler policy environment op meter.world).2.trace = before.world.trace ++ (events ++ more) := by
    rw [longer, traced, List.append_assoc]
  cases phase with
  | none =>
    obtain ⟨event, member, wild⟩ := untame rfl
    refine ⟨⟨_, extended, fun _ => ⟨event, List.mem_append_left _ member, wild⟩⟩, ?_, fun other => absurd rfl other⟩
    exact fun _ other => absurd other.symm (Option.some_ne_none _)
  | some limit =>
    simp only [Discipline.lenient]
    split
    next possible =>
      refine ⟨⟨_, extended, fun other => absurd other (Option.some_ne_none _)⟩, ?_, fun _ => stands.fits_after allowed⟩
      rintro _ ⟨⟩
      exact handler_maxTx (stands.limit limit rfl) reply
    next unexpected =>
      refine ⟨⟨_, extended, fun _ => ?_⟩, fun _ other => absurd other.symm (Option.some_ne_none _),
        fun other => absurd rfl other⟩
      by_contra calm
      refine unexpected (possible_of_tame own (stands.limit limit rfl) replied fun call same => ?_)
      by_contra wild
      exact calm ⟨_, List.mem_append_right _ (told call same), Bool.eq_false_iff.mpr wild⟩

theorem handle_fits {config : Config} {message : ClientMessage} (fits : meter.Fits)
    (moderate : meter.Moderate policy environment config message) :
    (exec (meterHandler policy environment) (message.handle config) meter).2.Fits := by
  obtain ⟨own, tamed⟩ := moderate
  have room : Room meter.world.session.maxTx.toNat meter.world.session.maxTx := ⟨own, Nat.le_refl _⟩
  have start : Stands meter.world.session.maxTx.toNat meter (some meter.world.session.maxTx) meter := by
    refine ⟨⟨[], (List.append_nil _).symm, nofun⟩, ?_, fun _ => fits⟩
    rintro _ ⟨⟩
    rfl
  have calm {phase : Option UInt64} {after : Meter σ δ} {more : List Event}
      (stands : Stands meter.world.session.maxTx.toNat meter phase after)
      (ends : (exec (meterHandler policy environment) (message.handle config) meter).2.world.trace = after.world.trace ++ more) :
      ∃ limit, phase = some limit := by
    cases phase with
    | some limit => exact ⟨limit, rfl⟩
    | none =>
      obtain ⟨events, traced, untame⟩ := stands.trace
      obtain ⟨event, member, wild⟩ := untame rfl
      rw [ends, traced, List.append_assoc, List.drop_left] at tamed
      exact absurd (tamed event (List.mem_append_left _ member)) (Bool.eq_false_iff.mp wild)
  have ends := (handle_meters room config message).lenient.exec (Stands meter.world.session.maxTx.toNat meter) start
    (Stands.moves policy environment own)
  obtain ⟨value, after, phase, returned, stands, -⟩ | ⟨op, last, after, phase, stopped, stands, allowed, blocked⟩ := ends
  · rw [returned] at calm ⊢
    obtain ⟨limit, rfl⟩ := calm stands (List.append_nil _).symm
    exact stands.fits (Option.some_ne_none _)
  · rw [stopped] at calm ⊢
    obtain ⟨more, longer, -⟩ := handler_trace policy environment op last.world
    obtain rfl := congrArg Prod.snd blocked
    obtain ⟨limit, rfl⟩ := calm stands longer
    exact stands.fits_after allowed

end Runs

/-- In every run in which the limit leaves room for the server's own texts and for those of
the errors that come from the device and the streams, no message exceeds the limit. -/
theorem messages_within_limit (policy : ResponsePolicy σ) (environment : Environment δ) (profile : Profile)
    (world : World σ δ) (messages : List ClientMessage)
    (moderate : Throughout (Meter.step policy environment profile.toConfig)
      (Meter.Moderate policy environment profile.toConfig) messages { world }) :
    Always (Meter.step policy environment profile.toConfig) Meter.Fits messages { world } := by
  refine always_of_invariant (fun _ => id) (fun meter message after fits moderate moved => ?_) nofun moderate
  unfold Meter.step at moved
  split at moved
  · have handled := handle_fits fits moderate
    obtain rfl := Option.some.inj moved
    exact handled
  · cases moved

theorem framed_of_length {message : Message} (same : message.payload.length = message.header.length.toNat) :
    Framed message :=
  fun _ => same

def lastByte : ClientMessage :=
  .sync { header := { type := .dataEnd, length := 1 }, payload := [63] } (framed_of_length rfl) 2

def lowering : ClientMessage :=
  .async { header := { type := .asyncMaximumMessageSize, length := 8 }, payload := putUint64 256 } (framed_of_length rfl) 0

def vendorMessage : ClientMessage := .sync { header := { type := ⟨200⟩ } } (framed_of_length rfl) 0

instance (policy : ResponsePolicy σ) (environment : Environment δ) (config : Config) (meter : Meter σ δ)
    (message : ClientMessage) : Decidable (meter.Moderate policy environment config message) :=
  inferInstanceAs (Decidable (_ ∧ _))

/-- A query after the limit was lowered, and a message that is refused. -/
theorem lowered_within_limit :
    Always (Meter.step alwaysReadPolicy scripted Profile.standard.toConfig) Meter.Fits
      [lowering, lastByte, vendorMessage]
      { world := SyncRuns.freshlyPaired alwaysReadPolicy [⟨[49], false, none⟩, ⟨[50], true, none⟩] } :=
  messages_within_limit alwaysReadPolicy scripted .standard _ _ (by decide +kernel)

/-- The smallest transmit limit that a configuration may have. -/
def smallest : Config := { ({} : Config).withDefaults with maxTxPayload := 16 }

theorem smallest_accepted : smallest.validate = none := by decide

/-- A device that fails every Write with an error text of 300 bytes. -/
def wordy : Environment (List ReadResult)
  | .write _ _ _, reads => (some (some (.other (List.replicate 300 33) [])), reads)
  | op, reads => scripted op reads

def sizes (meter : Meter σ δ) : List (Nat × UInt64) := meter.written.map fun entry => (entry.1.length, entry.2)

/-- The text of a device error exceeds the limit of 256 that the client asked for, and a
text of the server's own exceeds the limit of 16 that `New` accepts. -/
theorem error_texts_exceed :
    (finish (Meter.step alwaysReadPolicy wordy Profile.standard.toConfig) [lowering, lastByte]
        { world := SyncRuns.freshlyPaired alwaysReadPolicy [] }).map sizes = some [(8, 256), (300, 256)] ∧
      (finish (Meter.step alwaysReadPolicy scripted smallest) [vendorMessage]
        { world :=
          { shared :=
            { session := .paired ⟨smallest, smallest_accepted⟩ alwaysReadPolicy 1 .version10 Version.version10_current 0 1 }
            environment := [] } }).map sizes = some [(28, 16)] := by
  decide +kernel

end Hislip.Proofs.TransmitLimit
