import Hislip.Proofs.Classification
import Hislip.Proofs.Responses

/-! A response beside MaximumMessageSize transactions. The transmit limit is read twice,
once to size the buffer and once to check it, and the client may change it in between. -/

namespace Hislip.Proofs.Resizing
open Hislip.Server Hislip.Proofs.Footprint Hislip.Proofs.SyncChannel Hislip.Proofs.SyncRuns
  Hislip.Proofs.Classification Act Program
open Responses (dataMessage endMessage written written_append)

variable {σ δ : Type} {policy : ResponsePolicy σ} {environment : Environment δ}

/-- A world with the client's values of the MaximumMessageSize calls that come after each
of the next operations, and with the transmit limits that were read so far. -/
structure Busy (σ δ : Type) where
  world : World σ δ
  calls : List (List UInt64) := []
  limits : List UInt64 := []

def readsLimit : Op → Bool
  | .shared (.session .maxTx) => true
  | _ => false

def resize (policy : ResponsePolicy σ) (environment : Environment δ) (config : Config) (world : World σ δ)
    (clientMax : UInt64) : World σ δ :=
  (exec (handler policy environment) (maximumMessageSize config clientMax) world).2

def busyHandler (policy : ResponsePolicy σ) (environment : Environment δ) (config : Config) :
    Handler Op Op.Reply (Busy σ δ) := fun op busy =>
  ((handler policy environment op busy.world).1,
    { world := (busy.calls.headD []).foldl (resize policy environment config) (handler policy environment op busy.world).2
      calls := busy.calls.tail
      limits := busy.limits ++ if readsLimit op then [busy.world.session.maxTx] else [] })

/-- A device whose reads succeed and come to an end, `left` reads after at most, streams
that accept every message, and a client that sends nothing meanwhile. -/
structure Prompt (environment : Environment δ) where
  left : δ → Nat
  read : ∀ ctx size state, 0 < size → ∃ result, (environment (.read ctx size) state).1 = some result ∧
    result.err = none ∧ result.data.length ≤ size ∧
    (result.last = false → left (environment (.read ctx size) state).2 < left state)
  send : ∀ channel header payload state, (environment (.send channel header payload) state).1 = some none ∧
    left (environment (.send channel header payload) state).2 ≤ left state
  pending : ∀ state, (environment .pending state).1 = some false

/-- Data messages and one DataEnd that carry the device's response in pieces of at most
`size` bytes. -/
def Intact (id : MessageID) (size : Nat) (sent : List (Header × Bytes)) (response : Bytes) : Prop :=
  ∃ chunks final, sent = chunks.map (dataMessage id) ++ [endMessage id final] ∧ response = chunks.flatten ++ final ∧
    ∀ piece ∈ chunks ++ [final], piece.length ≤ size

def obtained : List Event → Bytes
  | [] => []
  | ⟨.read _ _, some result⟩ :: later => result.data ++ obtained later
  | _ :: later => obtained later

section Discipline

/-- How far a query has come: what it did to the policy and the transaction, the limits
that it read, and what was read from the device and sent to the client. -/
structure Phase where
  stage : Classification.Stage := .untaken
  tx : Transaction
  limits : List UInt64 := []
  reads : Nat := 0
  ended : Bool := false
  data : Bytes := []
  sent : List (Header × Bytes) := []

def aside : List Kind := [.note, .rmt, .operation, .release, .count]

/-- The course of a query with at most `fuel` reads, whatever the limits are. -/
def answering (message : Message) (fuel : Nat) : Discipline Op Op.Reply Phase where
  allowed
    | phase, .environment (.write ctx payload last) =>
      phase.stage = .untaken ∧ ctx = .server ∧ payload = message.payload ∧ last = true
    | phase, .shared (.session (.feed chunk)) =>
      phase.stage = .taken ∧ message.payload.length ≠ 0 ∧ chunk = message.payload
    | phase, .shared (.session .disposition) => phase.stage = .fed ∨ phase.stage = .taken ∧ message.payload.length = 0
    | phase, .environment (.read _ size) => phase.stage = .asked ∧ phase.ended = false ∧ 0 < size
    | phase, .environment (.send _ _ _) => phase.stage = .asked
    | phase, .environment .pending => phase.stage = .asked ∧ phase.ended = true
    | phase, .environment .exhausted => phase.stage = .asked ∧ phase.ended = false ∧ phase.reads = fuel
    | _, .shared (.session (.tx _)) => True
    | _, op => kind op ∈ Kind.get :: aside
  possible
    | phase, .shared (.session (.tx op)), reply => reply = (op.apply phase.tx).1
    | _, .shared (.session .disposition), found => found = .responseExpected
    | _, .shared (.session .asyncWriter), writer => writer = some ⟨.asynchronous⟩
    | _, .shared (.session .maxTx), limit => 16 ≤ limit
    | _, .environment (.write _ _ _), failed => failed = none
    | _, .environment (.read _ size), result => result.err = none ∧ result.data.length ≤ size
    | _, .environment (.send _ _ _), failed => failed = none
    | _, .environment .pending, queued => queued = false
    | _, _, _ => True
  advance
    | phase, .shared (.session (.tx op)), _ => { phase with tx := (op.apply phase.tx).2 }
    | phase, .shared (.session (.feed _)), _ => { phase with stage := .fed }
    | phase, .shared (.session .disposition), _ => { phase with stage := .asked }
    | phase, .shared (.session .maxTx), limit => { phase with limits := phase.limits ++ [limit] }
    | phase, .environment (.write _ _ _), _ => { phase with stage := .taken }
    | phase, .environment (.read _ _), result =>
      { phase with reads := phase.reads + 1, ended := result.last, data := phase.data ++ result.data }
    | phase, .environment (.send .synchronous header payload), _ =>
      { phase with sent := phase.sent ++ [(header, payload)] }
    | phase, _, _ => phase

end Discipline

section Programs
variable {message : Message} {fuel : Nat} {phase : Phase} {transaction : Transaction}

theorem answering_spares : Spares (answering message fuel) phase (· ∈ aside) := by
  intro op member
  cases op with
  | shared op =>
    cases op with
    | session op =>
      cases op with
      | feed chunk => exact absurd member (show Kind.policy ∉ aside by decide)
      | tx op => cases op <;> exact absurd member (List.elem_iff.not.mp (by simp [kind, aside]))
      | disposition | maxTx => exact absurd member (by decide)
      | _ => exact ⟨List.mem_cons_of_mem _ member, fun _ => rfl⟩
    | _ => exact ⟨List.mem_cons_of_mem _ member, fun _ => rfl⟩
  | environment op =>
    cases op with
    | send channel header payload => exact absurd member (show Kind.send header.type ∉ aside by simp [aside])
    | read ctx size => exact absurd member (show Kind.deviceRead ∉ aside by decide)
    | pending => exact absurd member (show Kind.pending ∉ aside by decide)
    | exhausted => exact absurd member (show Kind.never ∉ aside by decide)
    | select | remaining => exact absurd member (show Kind.wait ∉ aside by decide)
    | _ => exact absurd member (show Kind.device ∉ aside by decide)

theorem write_sends {writer : MessageWriter} (sync : writer = ⟨.synchronous⟩) {header : Header} {payload : Bytes}
    (legal : header.type.legalOn .synchronous)
    (agrees : header.length = 0 ∨ header.length = UInt64.ofNat payload.length) (asked : phase.stage = .asked) :
    Follows (answering message fuel)
      (fun failed last => failed = none ∧
        last = { phase with sent := phase.sent ++ [({ header with length := UInt64.ofNat payload.length }, payload)] })
      (writer.write header payload) phase := by
  subst sync
  rw [MessageWriter.write_eq legal agrees]
  exact ⟨asked, fun failed accepted => ⟨accepted, rfl⟩⟩

def Answering (transaction : Transaction) : Prop :=
  transaction.state = .responsePending ∨ transaction.state = .sendingResponse

theorem beginResponse_answering (answering : Answering transaction) :
    (TxOp.beginResponse.apply transaction).1 = none ∧ Answering (TxOp.beginResponse.apply transaction).2 := by
  obtain ⟨state, id⟩ := transaction
  obtain rfl | rfl : state = .responsePending ∨ state = .sendingResponse := answering <;> exact ⟨rfl, .inr rfl⟩

theorem complete_answering (answering : Answering transaction) : (TxOp.complete.apply transaction).1 = none := by
  obtain ⟨state, id⟩ := transaction
  obtain rfl | rfl : state = .responsePending ∨ state = .sendingResponse := answering <;> rfl

/-- A response in progress: what was read so far has been sent in pieces. -/
structure Partway (id : MessageID) (size : Nat) (limits : List UInt64) (phase : Phase) : Prop where
  stage : phase.stage = .asked
  ended : phase.ended = false
  limits : phase.limits = limits
  tx : Answering phase.tx
  pieces : ∃ chunks : List Bytes, phase.sent = chunks.map (dataMessage id) ∧ phase.data = chunks.flatten ∧
    ∀ piece ∈ chunks, piece.length ≤ size

def Done (id : MessageID) (size : Nat) (limits : List UInt64) (phase : Phase) : Prop :=
  phase.limits = limits ∧ Intact id size phase.sent phase.data

variable {response : CheckedResponse} {ctx : Ctx} {limits : List UInt64} (profile : Profile)

theorem terminate_answers (phase : Phase) (sync : response.sync = ⟨.synchronous⟩) (asked : phase.stage = .asked)
    (tx : Answering phase.tx) (final : Bytes) :
    Follows (answering message fuel)
      (fun failed last => failed = none ∧ last.limits = phase.limits ∧ last.data = phase.data ∧
        last.sent = phase.sent ++ [endMessage response.messageID final])
      (terminate response final) phase := by
  have legal : MessageType.dataEnd.legalOn .synchronous := by decide
  refine (write_sends sync legal (.inr rfl) asked).bind ?_
  rintro _ _ ⟨rfl, rfl⟩
  refine ⟨List.elem_iff.mp rfl, fun _ _ => ⟨List.elem_iff.mp rfl, fun _ _ => ⟨trivial, fun refused same => ?_⟩⟩⟩
  exact ⟨same.trans (complete_answering tx), rfl, rfl, rfl⟩

theorem offerTerminator_answers (sync : response.sync = ⟨.synchronous⟩) {size : Nat} {chunks : List Bytes}
    (stage : phase.stage = .asked) (ended : phase.ended = true) (tx : Answering phase.tx)
    (same : phase.limits = limits) (sent : phase.sent = chunks.map (dataMessage response.messageID)) {final : Bytes}
    (data : phase.data = chunks.flatten ++ final) (small : ∀ piece ∈ chunks ++ [final], piece.length ≤ size) :
    Follows (answering message fuel) (fun result last => result.2 = none ∧ Done response.messageID size limits last)
      (offerTerminator response final) phase := by
  have asks : Follows (answering message fuel) (fun queued last => queued = false ∧ last = phase) response.inputQueued.ask
      phase := by
    cases response.inputQueued with
    | never => exact ⟨rfl, rfl⟩
    | reader => exact ⟨⟨stage, ended⟩, fun queued same => ⟨same, rfl⟩⟩
  refine asks.bind ?_
  rintro _ _ ⟨rfl, unmoved⟩
  rw [unmoved]
  refine Follows.step trivial fun refused replied => ?_
  obtain ⟨begins, still⟩ := beginResponse_answering tx
  obtain rfl : refused = none := replied.trans begins
  refine Follows.bind (terminate_answers { phase with tx := (TxOp.beginResponse.apply phase.tx).2 } sync stage still final) ?_
  rintro _ last ⟨rfl, unchanged, kept, told⟩
  exact ⟨rfl, unchanged.trans same, chunks, final, told.trans (by rw [← sent]), kept.trans data, small⟩

theorem sendChunk_answers (phase : Phase) (sync : response.sync = ⟨.synchronous⟩) (stage : phase.stage = .asked)
    (tx : Answering phase.tx) {result : ReadResult} (succeeded : result.err = none) :
    Follows (answering message fuel)
      (fun sent last => (∃ count, sent = .ok count) ∧ ∃ tx, Answering tx ∧
        last = { phase with
          tx
          sent := phase.sent ++
            if result.data.length = 0 ∨ result.last then [] else [dataMessage response.messageID result.data] })
      (sendChunk response result) phase := by
  refine Follows.ite (fun empty => ?_) fun nonempty => Follows.step trivial fun refused same => ?_
  · refine ⟨⟨0, rfl⟩, phase.tx, tx, ?_⟩
    rw [if_pos (.inl empty), List.append_nil]
  · obtain ⟨begins, still⟩ := beginResponse_answering tx
    obtain rfl : refused = none := same.trans begins
    refine Follows.ite (fun more => ?_) fun last => ?_
    · have legal : MessageType.data.legalOn .synchronous := by decide
      have unfinished : ¬ (result.data.length = 0 ∨ result.last = true) := by
        simpa [nonempty, succeeded] using more
      refine Follows.bind (write_sends sync legal (.inr rfl) stage) ?_
      rintro _ _ ⟨rfl, rfl⟩
      refine ⟨⟨_, rfl⟩, _, still, ?_⟩
      rw [if_neg unfinished]
      rfl
    · have finished : result.last = true := by
        simpa [succeeded] using last
      refine ⟨⟨0, rfl⟩, _, still, ?_⟩
      rw [if_pos (.inr finished), List.append_nil]
      rfl

theorem responseLoop_answers (sync : response.sync = ⟨.synchronous⟩) (holds : 0 < response.scratch) {steps : Nat}
    (delivered : UInt64) (partway : Partway response.messageID response.scratch limits phase)
    (enough : phase.reads + steps = fuel) :
    Follows (answering message fuel)
      (fun result last => result.2 = none ∧ Done response.messageID response.scratch limits last)
      (responseLoop ctx response steps delivered) phase := by
  induction steps generalizing phase delivered with
  | zero => exact ⟨⟨partway.stage, partway.ended, enough⟩, fun reply => reply.elim⟩
  | succ steps ih =>
    obtain ⟨stage, ended, same, tx, chunks, sent, data, small⟩ := partway
    refine Follows.step ⟨stage, ended, holds⟩ fun result returned => ?_
    obtain ⟨succeeded, fits⟩ : result.err = none ∧ result.data.length ≤ response.scratch := returned
    refine Follows.bind (sendChunk_answers
      { phase with reads := phase.reads + 1, ended := result.last, data := phase.data ++ result.data }
      sync stage tx succeeded) ?_
    rintro _ _ ⟨⟨count, rfl⟩, moved, still, rfl⟩
    have kept (piece : Bytes) (member : piece ∈ chunks ++ [result.data]) : piece.length ≤ response.scratch := by
      rcases List.mem_append.mp member with earlier | last
      · exact small piece earlier
      · rw [List.mem_singleton.mp last]
        exact fits
    simp only [succeeded]
    refine Follows.ite (fun last => ?_) fun more => ?_
    · apply offerTerminator_answers sync
      · exact stage
      · exact last
      · exact still
      · exact same
      · rw [if_pos (.inr last), List.append_nil]
        exact sent
      · exact congrArg (· ++ result.data) data
      · exact kept
    · apply ih
      swap
      · change phase.reads + 1 + steps = fuel
        omega
      constructor
      · exact stage
      · exact Bool.eq_false_iff.mpr more
      · exact same
      · exact still
      by_cases empty : result.data.length = 0
      · refine ⟨chunks, ?_, ?_, small⟩
        · rw [if_pos (.inl empty), List.append_nil]
          exact sent
        · rw [List.eq_nil_of_length_eq_zero empty, List.append_nil]
          exact data
      · refine ⟨chunks ++ [result.data], ?_, ?_, kept⟩
        · rw [if_neg (not_or_intro empty more), List.map_append]
          exact congrArg (· ++ _) sent
        · rw [List.flatten_append, List.flatten_singleton]
          exact congrArg (· ++ _) data

/-- A query at its end, before anything was read from the device. -/
structure Unanswered (phase : Phase) : Prop where
  stage : phase.stage = .asked
  tx : phase.tx.state = .inputComplete
  reads : phase.reads = 0
  ended : phase.ended = false
  data : phase.data = []
  sent : phase.sent = []

theorem expectResponse_complete (complete : transaction.state = .inputComplete) :
    (TxOp.expectResponse.apply transaction).1 = none ∧
      (TxOp.expectResponse.apply transaction).2.state = .responsePending := by
  obtain ⟨state, id⟩ := transaction
  obtain rfl : state = .inputComplete := complete
  exact ⟨rfl, rfl⟩

/-- The second reading of the limit decides whether there is a response. -/
theorem sendResponse_answers (sync : MessageWriter) (same : sync = ⟨.synchronous⟩) (async : MessageWriter)
    (id : MessageID) {scratch : Nat} (holds : 0 < scratch) (fits : scratch < 2 ^ 64) (queued : InputQueued)
    (unanswered : Unanswered phase) :
    Follows (answering message fuel)
      (fun result last => ∃ limit, scratch ≤ limit.toNat ∧ result.2 = none ∧ Done id scratch (phase.limits ++ [limit]) last ∨
        limit.toNat < scratch ∧ result.2 = some (Sentinel.messageTooLarge : Err) ∧
          last = { phase with limits := phase.limits ++ [limit] })
      (sendResponse ctx ⟨some sync, some async, id, scratch, some queued⟩ fuel) phase := by
  have counts : (UInt64.ofNat scratch).toNat = scratch := UInt64.toNat_ofNat_of_lt' fits
  have validates : Follows (answering message fuel)
      (fun result last => ∃ limit, last = { phase with limits := phase.limits ++ [limit] } ∧
        result = if limit.toNat < scratch then .error (Sentinel.messageTooLarge : Err)
          else .ok ⟨sync, async, id, scratch, queued⟩)
      (Response.validate ⟨some sync, some async, id, scratch, some queued⟩) phase := by
    refine Follows.ite (fun empty => absurd empty (Nat.ne_of_gt holds)) fun _ => Follows.step (List.elem_iff.mp rfl) ?_
    intro (limit : UInt64) _
    refine Follows.ite (fun large => ⟨limit, rfl, ?_⟩) fun small => ⟨limit, rfl, ?_⟩
    · rw [if_pos]
      rwa [gt_iff_lt, UInt64.lt_iff_toNat_lt, counts] at large
    · rw [if_neg]
      rwa [gt_iff_lt, UInt64.lt_iff_toNat_lt, counts] at small
  refine validates.bind ?_
  rintro _ _ ⟨limit, rfl, rfl⟩
  by_cases large : limit.toNat < scratch
  · rw [if_pos large]
    exact ⟨limit, .inr ⟨large, rfl, rfl⟩⟩
  · rw [if_neg large]
    obtain ⟨expects, pending⟩ := expectResponse_complete unanswered.tx
    refine Follows.step trivial fun refused replied => ?_
    obtain rfl : refused = none := replied.trans expects
    refine Follows.step (List.elem_iff.mp rfl) fun _ _ => ?_
    have partway : Partway id scratch (phase.limits ++ [limit])
        { phase with tx := (TxOp.expectResponse.apply phase.tx).2, limits := phase.limits ++ [limit] } :=
      ⟨unanswered.stage, unanswered.ended, rfl, .inl pending, [], unanswered.sent, unanswered.data, nofun⟩
    have enough : phase.reads + fuel = fuel := by rw [unanswered.reads, Nat.zero_add]
    refine Follows.bind (responseLoop_answers same holds 0 partway enough) ?_
    rintro result last ⟨clean, done⟩
    exact Follows.step (List.elem_iff.mp rfl) fun _ _ => ⟨limit, .inl ⟨Nat.le_of_not_lt large, clean, done⟩⟩

def tooLarge : Header × Bytes :=
  ({ type := .error, control := ErrorCode.messageTooLarge, length := UInt64.ofNat Sentinel.messageTooLarge.text.length },
    Sentinel.messageTooLarge.text)

/-- The query has been answered: with the device's response if the buffer of `buffer`
bytes, cut to the limit first read, passes the limit read second, and with an error if not. -/
def Settled (id : MessageID) (buffer : Nat) (limits : List UInt64) (sent : List (Header × Bytes))
    (response : Bytes) : Prop :=
  ∃ sized checked, limits = [sized, checked] ∧
    (min buffer sized.toNat ≤ checked.toNat ∧ Intact id (min buffer sized.toNat) sent response ∨
      checked.toNat < min buffer sized.toNat ∧ sent = [tooLarge])

theorem responseScratch_eq (buffer : Nat) {limit : UInt64} (positive : 16 ≤ limit) :
    responseScratch buffer limit = min buffer limit.toNat := by
  have nonzero : ¬ limit = 0 := by
    rintro rfl
    exact absurd positive (by decide)
  unfold responseScratch
  split
  next holds => exact (Nat.min_eq_left (holds.resolve_left nonzero)).symm
  next short => exact (Nat.min_eq_right (Nat.le_of_lt (Nat.lt_of_not_le fun large => short (.inr large)))).symm

theorem responseScratch_bounds {limit : UInt64} (positive : 16 ≤ limit) :
    0 < responseScratch profile.maxTxPayload.toNat limit ∧
      responseScratch profile.maxTxPayload.toNat limit < 2 ^ 64 := by
  rw [responseScratch_eq profile.maxTxPayload.toNat positive]
  have buffer : 16 ≤ profile.maxTxPayload.toNat := UInt64.le_iff_toNat_le.mp profile.maxTxPayload_ge
  have positive : 16 ≤ limit.toNat := UInt64.le_iff_toNat_le.mp positive
  exact ⟨by omega, Nat.lt_of_le_of_lt (Nat.min_le_left _ _) profile.maxTxPayload.toNat_lt⟩

theorem syncPending_answers (phase : Phase) :
    Follows (answering message fuel) (fun _ last => last = phase) syncPending phase :=
  Follows.step (List.elem_iff.mp rfl) fun _ _ => Follows.ite (fun _ => rfl) fun _ => rfl

theorem releaseOperation_answers {post : Phase → Prop} (number : Nat) (result : Option Err) (settled : post phase) :
    Follows (answering message fuel) (fun _ => post) (releaseOperation number >>= fun _ => Pure.pure result) phase :=
  answering_spares.skip (releaseOperation_within number) (by decide) fun _ => settled

theorem answerProgramMessage_answers (header : Header) (unanswered : Unanswered { phase with stage := .asked })
    (fed : phase.stage = .fed ∨ phase.stage = .taken ∧ message.payload.length = 0) (unread : phase.limits = []) :
    Follows (answering message fuel)
      (fun _ last => Settled header.messageID profile.maxTxPayload.toNat last.limits last.sent last.data)
      (answerProgramMessage profile.toConfig header (some ⟨.synchronous⟩) fuel) phase := by
  refine Follows.step fed fun found expected => ?_
  obtain rfl : found = .responseExpected := expected
  refine answering_spares.skip operation_within (by decide) fun number => ?_
  refine Follows.step (List.elem_iff.mp rfl) fun async installed => ?_
  obtain rfl : async = some ⟨.asynchronous⟩ := installed
  refine Follows.step (List.elem_iff.mp rfl) fun (sized : UInt64) (positive : 16 ≤ sized) => ?_
  refine Follows.bind (syncPending_answers { phase with stage := .asked, limits := phase.limits ++ [sized] }) ?_
  rintro queued _ rfl
  obtain ⟨holds, fits⟩ := responseScratch_bounds profile positive
  have ready : Unanswered { phase with stage := .asked, limits := phase.limits ++ [sized] } :=
    ⟨rfl, unanswered.tx, unanswered.reads, unanswered.ended, unanswered.data, unanswered.sent⟩
  refine Follows.bind (sendResponse_answers ⟨.synchronous⟩ rfl ⟨.asynchronous⟩ header.messageID holds fits queued ready) ?_
  rintro ⟨outcome, err⟩ last ⟨checked, outcomes⟩
  rw [responseScratch_eq profile.maxTxPayload.toNat positive, unread] at outcomes
  refine answering_spares.skip (countOutcome_within outcome) (by decide) fun _ => ?_
  rcases outcomes with ⟨passes, clean, limits, intact⟩ | ⟨fails, failed, rfl⟩
  · obtain rfl : err = none := clean
    exact releaseOperation_answers number none ⟨sized, checked, limits, .inl ⟨passes, intact⟩⟩
  · obtain rfl : err = some (Sentinel.messageTooLarge : Err) := failed
    have legal : MessageType.error.legalOn .synchronous := by decide
    refine Follows.bind (Follows.step (List.elem_iff.mp rfl) fun _ _ => write_sends rfl legal (.inl rfl) rfl) ?_
    rintro result _ ⟨rfl, rfl⟩
    refine releaseOperation_answers number none ⟨sized, checked, rfl, .inr ⟨fails, ?_⟩⟩
    exact congrArg (· ++ [tooLarge]) unanswered.sent

theorem completeInput_listening (listening : transaction.state = .idle ∨ transaction.state = .receivingInput)
    (id : MessageID) : (TxOp.completeInput id).apply transaction = (none, ⟨.inputComplete, id⟩) := by
  obtain ⟨state, old⟩ := transaction
  obtain rfl | rfl := listening <;> rfl

theorem receiveData_answers (last : message.header.type = .dataEnd)
    (listening : transaction.state = .idle ∨ transaction.state = .receivingInput) :
    Follows (answering message fuel)
      (fun result last => result.2 = none ∧ last = { stage := .taken, tx := ⟨.inputComplete, message.header.messageID⟩ })
      (receiveData message.header message.payload) { tx := transaction } := by
  refine Follows.ite (fun other => absurd last other.2) fun _ => ?_
  refine Follows.step (List.elem_iff.mp rfl) fun _ _ => Follows.step (List.elem_iff.mp rfl) fun _ _ => ?_
  rw [if_pos last]
  refine Follows.step trivial fun refused replied => ?_
  have completes := completeInput_listening listening message.header.messageID
  obtain rfl : refused = none := replied.trans (congrArg Prod.fst completes)
  refine Follows.step ⟨rfl, rfl, rfl, decide_eq_true last⟩ fun failed accepted => ⟨accepted, ?_⟩
  exact congrArg (fun tx => ({ stage := .taken, tx } : Phase)) (congrArg Prod.snd completes)

theorem handleData_answers (last : message.header.type = .dataEnd)
    (listening : transaction.state = .idle ∨ transaction.state = .receivingInput) :
    Follows (answering message fuel)
      (fun _ last => Settled message.header.messageID profile.maxTxPayload.toNat last.limits last.sent last.data)
      (handleData profile.toConfig message (some ⟨.synchronous⟩) fuel) { tx := transaction } := by
  refine (receiveData_answers last listening).bind ?_
  rintro ⟨interrupted, _⟩ _ ⟨rfl, rfl⟩
  refine answering_spares.skip (countInterrupted_within interrupted) (by decide) fun _ => ?_
  have ends (stage : Classification.Stage) (fed : stage = .fed ∨ stage = .taken ∧ message.payload.length = 0) :
      Follows (answering message fuel)
        (fun _ last => Settled message.header.messageID profile.maxTxPayload.toNat last.limits last.sent last.data)
        (if message.header.type ≠ .dataEnd then Pure.pure none
          else answerProgramMessage profile.toConfig message.header (some ⟨.synchronous⟩) fuel)
        { stage, tx := ⟨.inputComplete, message.header.messageID⟩ } := by
    refine Follows.ite (fun other => absurd last other) fun _ => ?_
    exact answerProgramMessage_answers profile message.header ⟨rfl, rfl, rfl, rfl, rfl, rfl⟩ fed rfl
  refine Follows.ite (fun nonempty => ?_) fun empty => ends .taken (.inr ⟨rfl, not_not.mp empty⟩)
  exact Follows.step ⟨rfl, nonempty, rfl⟩ fun _ _ => ends .fed (.inl rfl)

end Programs

section Runs
variable {message : Message} {fuel : Nat} {phase : Phase} {before world after : World σ δ}

theorem obtained_append (events later : List Event) :
    obtained (events ++ later) = obtained events ++ obtained later := by
  fun_induction obtained events with
  | case1 => rfl
  | case2 ctx size result rest ih => rw [List.cons_append, obtained, ih, List.append_assoc]
  | case3 event rest other ih => rw [List.cons_append, obtained.eq_3 _ _ other, ih]

/-- A world in which the query has come to the phase since `before`; the reads still to
come are fewer than those that were to come once the device had the query. -/
structure Stands (policy : ResponsePolicy σ) (prompt : Prompt environment) (message : Message) (before : World σ δ)
    (phase : Phase) (world : World σ δ) : Prop where
  policy : world.session.policy = holding policy message.payload before.session.policy phase.stage
  tx : world.session.tx = phase.tx
  async : world.session.asyncW = some ⟨.asynchronous⟩
  trace : ∃ events, world.trace = before.trace ++ events ∧ written .synchronous events = phase.sent ∧ obtained events = phase.data
  unwritten : phase.stage = .untaken → world.environment = before.environment ∧ phase.reads = 0
  left : phase.stage ≠ .untaken → phase.ended = false → phase.reads + prompt.left world.environment ≤
    prompt.left (environment (.write .server message.payload true) before.environment).2

variable {prompt : Prompt environment}

section
variable (stands : Stands policy prompt message before phase world)
include stands

private theorem traced {event : Event} {sent : List (Header × Bytes)} {data : Bytes}
    (tells : written .synchronous [event] = sent) (obtains : obtained [event] = data) :
    ∃ events, world.trace ++ [event] = before.trace ++ events ∧ written .synchronous events = phase.sent ++ sent ∧
      obtained events = phase.data ++ data := by
  obtain ⟨events, same, sent, data⟩ := stands.trace
  refine ⟨events ++ [event], ?_, ?_, ?_⟩
  · rw [same, List.append_assoc]
  · rw [written_append, sent, tells]
  · rw [obtained_append, data, obtains]

theorem Stands.session {op : SessionOp} {reply : op.Reply}
    (query : classify policy (heard policy message.payload before.session.policy) = .responseExpected)
    (allowed : (answering message fuel).allowed phase (.shared (.session op)))
    (handled : handler policy environment (.shared (.session op)) world = (some reply, after)) :
    (answering message fuel).possible phase (.shared (.session op)) reply ∧
      Stands policy prompt message before ((answering message fuel).advance phase (.shared (.session op)) reply) after := by
  obtain ⟨scanned, tx, async, trace, unwritten, left⟩ := stands
  cases handled
  cases op with
  | feed chunk =>
    obtain ⟨taken, nonempty, rfl⟩ := allowed
    rw [taken] at scanned left
    refine ⟨trivial, ?_, tx, async, trace, (fun untaken => by cases untaken), fun _ => left (by decide)⟩
    change world.session.policy.map _ = heard policy message.payload before.session.policy
    rw [scanned, heard, if_pos nonempty]
    rfl
  | disposition =>
    have held : world.session.policy = heard policy message.payload before.session.policy := by
      rw [scanned]
      obtain fed | ⟨taken, empty⟩ : phase.stage = .fed ∨ phase.stage = .taken ∧ message.payload.length = 0 := allowed
      · rw [fed]
        rfl
      · rw [taken, heard, if_neg (not_not.mpr empty)]
        rfl
    have written : phase.stage ≠ .untaken := by
      obtain fed | ⟨taken, -⟩ : phase.stage = .fed ∨ phase.stage = .taken ∧ message.payload.length = 0 := allowed
      · rw [fed]
        decide
      · rw [taken]
        decide
    refine ⟨?_, ?_, ?_, ?_, trace, (fun untaken => by cases untaken), fun _ => left written⟩
    · change (SessionOp.disposition.apply policy world.session).1 = _
      rw [disposition_apply, held]
      exact query
    · change (SessionOp.disposition.apply policy world.session).2.policy = _
      rw [disposition_apply]
      exact congrArg (Option.map _) held
    · change (SessionOp.disposition.apply policy world.session).2.tx = _
      rw [disposition_apply]
      exact tx
    · change (SessionOp.disposition.apply policy world.session).2.asyncW = _
      rw [disposition_apply]
      exact async
  | tx op =>
    refine ⟨congrArg (fun tx => (op.apply tx).1) tx, scanned, ?_, async, trace, unwritten, left⟩
    exact congrArg (fun tx => (op.apply tx).2) tx
  | maxTx => exact ⟨world.session.transmits, scanned, tx, async, trace, unwritten, left⟩
  | asyncWriter => exact ⟨async, scanned, tx, async, trace, unwritten, left⟩
  | attachAsync | close | setSyncWriter | setAsyncWriter | setSyncPending =>
    exact absurd allowed (show Kind.lifecycle ∉ Kind.get :: aside by decide)
  | beginClear | completeClear => exact absurd allowed (show Kind.clear ∉ Kind.get :: aside by decide)
  | _ => exact ⟨trivial, scanned, tx, async, trace, unwritten, left⟩

theorem Stands.write {ctx : Ctx} {payload : Bytes} {last : Bool} {reply : Option Err}
    (accepted : (environment (.write .server message.payload true) before.environment).1 = some none)
    (allowed : (answering message fuel).allowed phase (.environment (.write ctx payload last)))
    (replied : (environment (.write ctx payload last) world.environment).1 = some reply) :
    (answering message fuel).possible phase (.environment (.write ctx payload last)) reply ∧
      Stands policy prompt message before
        ((answering message fuel).advance phase (.environment (.write ctx payload last)) reply)
        (handler policy environment (.environment (.write ctx payload last)) world).2 := by
  obtain ⟨untaken, rfl, rfl, rfl⟩ := allowed
  obtain ⟨start, unread⟩ := stands.unwritten untaken
  rw [start, accepted] at replied
  refine ⟨(Option.some.inj replied).symm, ?_, stands.tx, stands.async, ?_, (fun untaken => by cases untaken),
    fun _ _ => ?_⟩
  · exact stands.policy.trans (by rw [untaken]; rfl)
  · obtain ⟨events, traced, sent, data⟩ := traced stands rfl rfl
    exact ⟨events, traced, sent.trans (List.append_nil _), data.trans (List.append_nil _)⟩
  · change phase.reads + prompt.left (environment (.write .server message.payload true) world.environment).2 ≤ _
    rw [unread, start, Nat.zero_add]

theorem Stands.read {ctx : Ctx} {size : Nat} {reply : ReadResult}
    (allowed : (answering message fuel).allowed phase (.environment (.read ctx size)))
    (replied : (environment (.read ctx size) world.environment).1 = some reply) :
    (answering message fuel).possible phase (.environment (.read ctx size)) reply ∧
      Stands policy prompt message before ((answering message fuel).advance phase (.environment (.read ctx size)) reply)
        (handler policy environment (.environment (.read ctx size)) world).2 := by
  obtain ⟨asked, unended, positive⟩ := allowed
  obtain ⟨result, returned, succeeded, fits, fewer⟩ := prompt.read ctx size world.environment positive
  obtain rfl : result = reply := Option.some.inj (returned.symm.trans replied)
  refine ⟨⟨succeeded, fits⟩, stands.policy, stands.tx, stands.async, ?_, ?_, fun written more => ?_⟩
  · have gives : obtained [⟨.read ctx size, (environment (.read ctx size) world.environment).1⟩] = result.data := by
      rw [returned]
      exact List.append_nil _
    obtain ⟨events, traced, sent, data⟩ := traced stands rfl gives
    exact ⟨events, traced, sent.trans (List.append_nil _), data⟩
  · exact fun untaken => absurd (asked.symm.trans untaken) (by decide)
  · have bound := stands.left written unended
    have less := fewer more
    change phase.reads + 1 + prompt.left (environment (.read ctx size) world.environment).2 ≤ _
    omega

theorem Stands.send {channel : Channel} {header : Header} {payload : Bytes} {reply : Option Err}
    (allowed : (answering message fuel).allowed phase (.environment (.send channel header payload)))
    (replied : (environment (.send channel header payload) world.environment).1 = some reply) :
    (answering message fuel).possible phase (.environment (.send channel header payload)) reply ∧
      Stands policy prompt message before
        ((answering message fuel).advance phase (.environment (.send channel header payload)) reply)
        (handler policy environment (.environment (.send channel header payload)) world).2 := by
  obtain ⟨sends, fewer⟩ := prompt.send channel header payload world.environment
  have failed : reply = none := (Option.some.inj (sends.symm.trans replied)).symm
  have bound (written : phase.stage ≠ .untaken) (more : phase.ended = false) :
      phase.reads + prompt.left (environment (.send channel header payload) world.environment).2 ≤
        prompt.left (environment (.write .server message.payload true) before.environment).2 :=
    Nat.le_trans (Nat.add_le_add_left fewer _) (stands.left written more)
  have asked : phase.stage = .asked := allowed
  have late : ¬ phase.stage = .untaken := by
    rw [asked]
    decide
  cases channel with
  | synchronous =>
    obtain ⟨events, traced, sent, data⟩ := traced stands rfl rfl
    refine ⟨failed, stands.policy, stands.tx, stands.async, ⟨events, traced, sent, ?_⟩, fun early => absurd early late,
      bound⟩
    exact data.trans (List.append_nil _)
  | _ =>
    obtain ⟨events, traced, sent, data⟩ := traced stands rfl rfl
    refine ⟨failed, stands.policy, stands.tx, stands.async, ⟨events, traced, ?_, ?_⟩, fun early => absurd early late,
      bound⟩
    · exact sent.trans (List.append_nil _)
    · exact data.trans (List.append_nil _)

theorem Stands.calls {op : EnvironmentOp} {reply : op.Reply}
    (accepted : (environment (.write .server message.payload true) before.environment).1 = some none)
    (allowed : (answering message fuel).allowed phase (.environment op))
    (handled : handler policy environment (.environment op) world = (some reply, after)) :
    (answering message fuel).possible phase (.environment op) reply ∧
      Stands policy prompt message before ((answering message fuel).advance phase (.environment op) reply) after := by
  obtain rfl := congrArg Prod.snd handled
  have replied : (environment op world.environment).1 = some reply := congrArg Prod.fst handled
  cases op with
  | write ctx payload last => exact stands.write accepted allowed replied
  | read ctx size => exact stands.read allowed replied
  | send channel header payload => exact stands.send allowed replied
  | pending =>
    obtain ⟨asked, ended⟩ := allowed
    have idle : reply = false := (Option.some.inj ((prompt.pending world.environment).symm.trans replied)).symm
    refine ⟨idle, stands.policy, stands.tx, stands.async, ?_, ?_, fun _ more => ?_⟩
    · obtain ⟨events, traced, sent, data⟩ := traced stands rfl rfl
      exact ⟨events, traced, sent.trans (List.append_nil _), data.trans (List.append_nil _)⟩
    · exact fun untaken => absurd (asked.symm.trans untaken) (by decide)
    · exact absurd (ended.symm.trans more) (by decide)
  | exhausted => cases reply
  | select | remaining => exact absurd allowed (show Kind.wait ∉ Kind.get :: aside by decide)
  | _ => exact absurd allowed (show Kind.device ∉ Kind.get :: aside by decide)

theorem Stands.resized (config : Config) (sizes : List UInt64) :
    Stands policy prompt message before phase (sizes.foldl (resize policy environment config) world) := by
  induction sizes generalizing world with
  | nil => exact stands
  | cons clientMax sizes ih =>
    refine ih ?_
    unfold resize maximumMessageSize
    split <;> exact ⟨stands.policy, stands.tx, stands.async, stands.trace, stands.unwritten, stands.left⟩

end

/-- A session that is about to take the end of a query: the device takes it, and the
policy expects a response. -/
structure Queried (policy : ResponsePolicy σ) (environment : Environment δ) (message : Message)
    (world : World σ δ) : Prop where
  last : message.header.type = .dataEnd
  listening : Listening world
  paired : world.session.asyncW = some ⟨.asynchronous⟩
  accepted : (environment (.write .server message.payload true) world.environment).1 = some none
  expected : classify policy (heard policy message.payload world.session.policy) = .responseExpected

/-- The same of a world with calls, whose limits have been read as the phase says. -/
def BusyStands (policy : ResponsePolicy σ) (prompt : Prompt environment) (message : Message) (before : World σ δ)
    (phase : Phase) (busy : Busy σ δ) : Prop :=
  Stands policy prompt message before phase busy.world ∧ busy.limits = phase.limits

theorem busy_moves (prompt : Prompt environment) (queried : Queried policy environment message before) (config : Config)
    (phase : Phase) (op : Op) (busy : Busy σ δ) (reply : op.Reply) (after : Busy σ δ)
    (stands : BusyStands policy prompt message before phase busy) (allowed : (answering message fuel).allowed phase op)
    (handled : busyHandler policy environment config op busy = (some reply, after)) :
    (answering message fuel).possible phase op reply ∧
      BusyStands policy prompt message before ((answering message fuel).advance phase op reply) after := by
  obtain ⟨standing, limits⟩ := stands
  have answered : (handler policy environment op busy.world).1 = some reply := congrArg Prod.fst handled
  have replied : handler policy environment op busy.world =
    (some reply, (handler policy environment op busy.world).2) :=
    Prod.ext answered rfl
  have moved : (answering message fuel).possible phase op reply ∧ Stands policy prompt message before
      ((answering message fuel).advance phase op reply) (handler policy environment op busy.world).2 := by
    cases op with
    | shared op =>
      cases op with
      | session op => exact standing.session queried.expected allowed replied
      | _ => exact ⟨trivial, standing.policy, standing.tx, standing.async, standing.trace, standing.unwritten, standing.left⟩
    | environment op => exact standing.calls queried.accepted allowed replied
  obtain rfl := congrArg Prod.snd handled
  refine ⟨moved.1, moved.2.resized config _, ?_⟩
  change busy.limits ++ _ = _
  rw [limits]
  cases op with
  | shared op =>
    cases op with
    | session op =>
      cases op with
      | maxTx => exact congrArg (fun limit => phase.limits ++ [limit]) (Option.some.inj answered)
      | _ => exact List.append_nil _
    | _ => exact List.append_nil _
  | environment op =>
    cases op with
    | send channel header payload => cases channel <;> exact List.append_nil _
    | _ => exact List.append_nil _

theorem busy_replies (queried : Queried policy environment message before) (config : Config) {op : Op} {busy : Busy σ δ}
    (enough : prompt.left (environment (.write .server message.payload true) before.environment).2 < fuel)
    (stands : Stands policy prompt message before phase busy.world)
    (allowed : (answering message fuel).allowed phase op) :
    (busyHandler policy environment config op busy).1 ≠ none := by
  cases op with
  | shared op => exact Option.some_ne_none _
  | environment op =>
    change (environment op busy.world.environment).1 ≠ none
    cases op with
    | write ctx payload last =>
      obtain ⟨untaken, rfl, rfl, rfl⟩ := allowed
      rw [(stands.unwritten untaken).1, queried.accepted]
      exact Option.some_ne_none _
    | read ctx size =>
      obtain ⟨result, returned, -⟩ := prompt.read ctx size busy.world.environment allowed.2.2
      rw [returned]
      exact Option.some_ne_none _
    | send channel header payload =>
      rw [(prompt.send channel header payload busy.world.environment).1]
      exact Option.some_ne_none _
    | pending =>
      rw [prompt.pending busy.world.environment]
      exact Option.some_ne_none _
    | exhausted =>
      obtain ⟨asked, unended, all⟩ := allowed
      have bound := stands.left (by rw [asked]; decide) unended
      omega
    | select | remaining => exact absurd allowed (show Kind.wait ∉ Kind.get :: aside by decide)
    | _ => exact absurd allowed (show Kind.device ∉ Kind.get :: aside by decide)

theorem not_intact_tooLarge (id : MessageID) (size : Nat) (response : Bytes) :
    ¬ Intact id size [tooLarge] response := by
  rintro ⟨chunks, final, sent, -⟩
  have last := congrArg List.getLast? sent
  rw [List.getLast?_concat] at last
  have same : MessageType.error = .dataEnd := congrArg (fun message => message.1.type) (Option.some.inj last)
  exact absurd same (by decide)

/-- Beside any MaximumMessageSize calls, a query whose reads succeed is answered with the
device's response exactly when the limit is not lowered below the buffer's size between
the two readings. -/
theorem response_intact_iff (prompt : Prompt environment) (profile : Profile) {world : World σ δ}
    (queried : Queried policy environment message world) (calls : List (List UInt64)) {fuel : Nat}
    (enough : prompt.left (environment (.write .server message.payload true) world.environment).2 < fuel) :
    ∃ result after events sized checked,
      exec (busyHandler policy environment profile.toConfig)
          (handleData profile.toConfig message (some ⟨.synchronous⟩) fuel) { world, calls } = (some result, after) ∧
        after.world.trace = world.trace ++ events ∧ after.limits = [sized, checked] ∧
        (Intact message.header.messageID (min profile.maxTxPayload.toNat sized.toNat) (written .synchronous events)
          (obtained events) ↔
          min profile.maxTxPayload.toNat sized.toNat ≤ checked.toNat) := by
  have start : Stands policy prompt message world { tx := world.session.tx } world :=
    ⟨rfl, rfl, queried.paired, ⟨[], (List.append_nil _).symm, rfl, rfl⟩, fun _ => ⟨rfl, rfl⟩, fun late => absurd rfl late⟩
  have follows : Follows (answering message fuel) _ (handleData profile.toConfig message (some ⟨.synchronous⟩) fuel) _ :=
    handleData_answers profile queried.last queried.listening
  have standing : BusyStands policy prompt message world { tx := world.session.tx } { world, calls } := ⟨start, rfl⟩
  have ends := follows.exec (BusyStands policy prompt message world) standing (busy_moves prompt queried profile.toConfig)
  obtain ⟨result, after, phase, returned, ⟨stands, limits⟩, sized, checked, read, outcome⟩ |
    ⟨op, busy, after, phase, -, ⟨stands, -⟩, allowed, blocked⟩ := ends
  · obtain ⟨events, traced, sent, data⟩ := stands.trace
    refine ⟨result, after, events, sized, checked, returned, traced, limits.trans read, ?_⟩
    rw [sent, data]
    rcases outcome with ⟨passes, intact⟩ | ⟨fails, told⟩
    · exact iff_of_true intact passes
    · rw [told]
      exact iff_of_false (not_intact_tooLarge _ _ _) (Nat.not_le_of_lt fails)
  · exact absurd (congrArg Prod.fst blocked) (busy_replies queried profile.toConfig enough stands allowed)

end Runs

def streaming : Environment (List Bytes)
  | .read _ size, piece :: later => (some ⟨piece.take size, false, none⟩, later)
  | .read _ _, [] => (some ⟨[], true, none⟩, [])
  | .write _ _ _, pieces => (some none, pieces)
  | .send _ _ _, pieces => (some none, pieces)
  | .pending, pieces => (some false, pieces)
  | _, pieces => (none, pieces)

def streaming_prompt : Prompt streaming where
  left := List.length
  read ctx size pieces _ := by
    cases pieces with
    | nil => exact ⟨_, rfl, rfl, Nat.zero_le _, nofun⟩
    | cons piece later => exact ⟨_, rfl, rfl, List.length_take_le _ _, fun _ => Nat.lt_succ_self _⟩
  send _ _ _ _ := ⟨rfl, Nat.le_refl _⟩
  pending _ := rfl

def query : Message := { header := { type := .dataEnd, parameter := 2, length := 1 }, payload := [63] }

theorem query_queried (pieces : List Bytes) :
    Queried alwaysReadPolicy streaming query (freshlyPaired alwaysReadPolicy pieces) := ⟨rfl, .inl rfl, rfl, rfl, rfl⟩

/-- The limit is lowered before the buffer is sized and again while the response is sent. -/
theorem response_intact_lowered :
    ∃ result after,
      exec (busyHandler alwaysReadPolicy streaming Profile.standard.toConfig)
          (handleData Profile.standard.toConfig query (some ⟨.synchronous⟩) 3)
          { world := freshlyPaired alwaysReadPolicy [[49], [50]]
            calls := [[300], [], [], [], [], [], [], [], [], [], [], [], [256]] } = (some result, after) ∧
        after.limits = [300, 300] ∧
        Intact 2 300 (written .synchronous after.world.trace) (obtained after.world.trace) := by
  obtain ⟨result, after, events, sized, checked, run, traced, limits, iff⟩ :=
    response_intact_iff streaming_prompt .standard (query_queried [[49], [50]])
      [[300], [], [], [], [], [], [], [], [], [], [], [], [256]]
      (by decide : ([[49], [50]] : List Bytes).length < 3)
  obtain rfl := congrArg Prod.snd run
  have both : _ = [(300 : UInt64), 300] := limits.symm.trans (by decide +kernel)
  cases both
  refine ⟨result, _, run, limits, ?_⟩
  rw [show _ = events from traced]
  exact iff.mpr (by decide)

/-- The limit is lowered to 256 after the buffer was cut to 8192: the query is answered
with an error and the device is not read at all. -/
theorem lowered_between_readings :
    let after := (exec (busyHandler alwaysReadPolicy streaming Profile.standard.toConfig)
      (handleData Profile.standard.toConfig query (some ⟨.synchronous⟩) 3)
      { world := freshlyPaired alwaysReadPolicy [[49], [50]], calls := List.replicate 9 [] ++ [[256]] }).2
    after.limits = [8192, 256] ∧ written .synchronous after.world.trace = [tooLarge] ∧ obtained after.world.trace = [] := by
  decide +kernel

end Hislip.Proofs.Resizing
