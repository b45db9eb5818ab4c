import Hislip.Discipline
import Hislip.Server.Serve

/-! Which kinds of operations each handler performs. No handler touches what is set up
when a session is paired or torn down, and only the end of a program message consults
the response policy. -/

namespace Hislip.Proofs.Footprint
open Hislip.Server Act Program

def rare : Op → Bool
  | .shared (.session (.feed _)) | .shared (.session .disposition) => true
  | .shared (.session (.setSyncWriter _)) | .shared (.session (.setAsyncWriter _)) => true
  | .shared (.session .setSyncPending) | .shared (.session (.attachAsync _)) | .shared (.session .close) => true
  | _ => false

/-- The messages that end a response, a status query or a step of a Device Clear. -/
def concluding (type : MessageType) : Bool :=
  type = .dataEnd || type = .asyncStatusResponse || type = .asyncDeviceClearAcknowledge ||
    type = .deviceClearAcknowledge

/-- The operations by which the loops and the client agree on RMT-delivered, with
the rare ones. -/
def marked : Op → Bool
  | .shared (.session (.rmt _)) | .shared (.session .beginClear) | .shared (.session (.completeClear _)) => true
  | .environment (.send _ header _) => concluding header.type
  | op => rare op

def lifecycle : Op → Bool
  | .shared (.session (.setSyncWriter _)) | .shared (.session (.setAsyncWriter _)) => true
  | .shared (.session .setSyncPending) | .shared (.session (.attachAsync _)) | .shared (.session .close) => true
  | _ => false

section Kinds

inductive Kind where
  | get | note | policy | disposition | lifecycle | rmt | tx | expect | clear | operation | release | lock | wait
  | count | deviceRead | device | send (type : MessageType) | pending | never
  deriving DecidableEq, Repr

/-- What an operation is about: it gets a value from the session or leaves a note in
it, moves one of its parts, or goes to the lock manager, the device or a stream. -/
def kind : Op → Kind
  | .shared (.session op) =>
    match op with
    | .id | .state | .version | .maxRx | .maxTx | .syncWriter | .asyncWriter | .syncPending => .get
    | .setMaxTx _ | .setLastTx _ | .receivedSyncMessage _ | .setResponsePending _ => .note
    | .statusByte _ _ _ | .takeServiceRequest | .latchServiceRequest _ => .note
    | .feed _ => .policy
    | .disposition => .disposition
    | .setSyncWriter _ | .setAsyncWriter _ | .setSyncPending | .attachAsync _ | .close => .lifecycle
    | .rmt _ => .rmt
    | .tx .expectResponse => .expect
    | .tx _ => .tx
    | .beginClear | .completeClear _ => .clear
    | .register _ | .abort => .operation
    | .unregister => .release
  | .shared (.locks _) => .lock
  | .shared .withCancel | .shared (.cancel _) => .operation
  | .shared (.count _) => .count
  | .environment op =>
    match op with
    | .read _ _ => .deviceRead
    | .write _ _ _ | .clear _ | .trigger _ | .readStatusByte _ | .remoteLocal _ _ => .device
    | .send _ header _ => .send header.type
    | .pending => .pending
    | .select _ | .remaining => .wait
    | .exhausted => .never

namespace Kind

def rare : Kind → Bool
  | .policy | .disposition | .lifecycle => true
  | _ => false

def marked : Kind → Bool
  | .rmt | .clear => true
  | .send type => concluding type
  | kind => kind.rare

end Kind

theorem kinds_eq (op : Op) :
    rare op = (kind op).rare ∧ marked op = (kind op).marked ∧ lifecycle op = decide (kind op = .lifecycle) := by
  cases op with
  | shared op =>
    cases op with
    | session op =>
      cases op with
      | tx op => cases op <;> exact ⟨rfl, rfl, rfl⟩
      | _ => exact ⟨rfl, rfl, rfl⟩
    | _ => exact ⟨rfl, rfl, rfl⟩
  | environment op => cases op <;> exact ⟨rfl, rfl, rfl⟩

/-- Every operation is of one of the kinds, and the result meets `post`. -/
abbrev Performs {α : Type} (kinds : List Kind) (program : Act α) (post : α → Prop) : Prop :=
  Follows { allowed := fun (_ : Unit) op => kind op ∈ kinds, advance := fun _ _ _ => () } (fun value _ => post value)
    program ()

abbrev Within {α : Type} (kinds : List Kind) (program : Act α) : Prop := Performs kinds program fun _ => True

variable {α β : Type} {kinds others : List Kind} {program : Act α} {post : α → Prop} {next : α → Act β}

theorem Performs.rests {Φ : Type} {discipline : Discipline Op Op.Reply Φ} {resting : Φ}
    (performs : Performs kinds program post)
    (rests : ∀ op, kind op ∈ kinds → discipline.allowed resting op ∧ ∀ reply, discipline.advance resting op reply =
      resting) :
    Follows discipline (fun value last => post value ∧ last = resting) program resting := by
  refine Follows.rests performs (fun _ op member => ?_) fun _ _ met => met
  obtain ⟨allowed, still⟩ := rests op member
  exact ⟨allowed, fun reply _ => ⟨trivial, still reply⟩⟩

theorem Performs.rests_bind {Φ : Type} {discipline : Discipline Op Op.Reply Φ} {resting : Φ} {middle : α → Prop}
    {post : β → Φ → Prop} (performs : Performs kinds program middle)
    (rests : ∀ op, kind op ∈ kinds → discipline.allowed resting op ∧ ∀ reply, discipline.advance resting op reply = resting)
    (resume : ∀ value, middle value → Follows discipline post (next value) resting) :
    Follows discipline post (program >>= next) resting := by
  refine Follows.bind (performs.rests rests) fun value last holds => ?_
  obtain ⟨met, rfl⟩ := holds
  exact resume value met

section Sparing
variable {Φ : Type} {discipline : Discipline Op Op.Reply Φ} {phase : Φ} {spared : Kind → Prop} {post : β → Φ → Prop}

/-- Operations of these kinds are allowed in the phase and leave it as it is. -/
def Spares (discipline : Discipline Op Op.Reply Φ) (phase : Φ) (spared : Kind → Prop) : Prop :=
  ∀ op, spared (kind op) → discipline.allowed phase op ∧ ∀ reply, discipline.advance phase op reply = phase

section
variable (spares : Spares discipline phase spared)
include spares

theorem Spares.follows {post : α → Prop} (performs : Performs kinds program post)
    (listed : ∀ kind ∈ kinds, spared kind) :
    Follows discipline (fun value last => post value ∧ last = phase) program phase :=
  performs.rests fun op member => spares op (listed _ member)

theorem Spares.rest (within : Within kinds program) (listed : ∀ kind ∈ kinds, spared kind) :
    Follows discipline (fun _ last => last = phase) program phase :=
  (spares.follows within listed).mono fun _ _ => And.right

theorem Spares.bind {middle : α → Prop} {next : α → Act β} (performs : Performs kinds program middle)
    (listed : ∀ kind ∈ kinds, spared kind)
    (resume : ∀ value, middle value → Follows discipline post (next value) phase) :
    Follows discipline post (program >>= next) phase :=
  performs.rests_bind (fun op member => spares op (listed _ member)) resume

theorem Spares.skip {next : α → Act β} (within : Within kinds program) (listed : ∀ kind ∈ kinds, spared kind)
    (resume : ∀ value, Follows discipline post (next value) phase) : Follows discipline post (program >>= next) phase :=
  spares.bind within listed fun value _ => resume value

theorem Spares.step {op : Op} {next : op.Reply → Act β} (listed : spared (kind op))
    (resume : ∀ reply, Follows discipline post (next reply) phase) :
    Follows discipline post (Program.perform op >>= next) phase := by
  obtain ⟨allowed, still⟩ := spares op listed
  refine Follows.step allowed fun reply _ => ?_
  rw [still]
  exact resume reply

end

end Sparing

theorem Performs.widen (performs : Performs kinds program post) (fewer : ∀ kind ∈ kinds, kind ∈ others) :
    Performs others program post :=
  (performs.rests fun _ member => ⟨fewer _ member, fun _ => rfl⟩).mono fun _ _ => And.left

theorem Performs.within (performs : Performs kinds program post) : Within kinds program :=
  performs.mono fun _ _ _ => trivial

theorem Performs.bind {middle : α → Prop} {post : β → Prop} (first : Performs kinds program middle)
    (second : ∀ value, middle value → Performs kinds (next value) post) : Performs kinds (program >>= next) post :=
  Follows.bind first fun value _ => second value

theorem Within.andThen {post : β → Prop} (first : Within kinds program) (fewer : ∀ kind ∈ kinds, kind ∈ others)
    (second : ∀ value, Performs others (next value) post) : Performs others (program >>= next) post :=
  (first.widen fewer).bind fun value _ => second value

theorem Performs.ite {condition : Prop} [Decidable condition] {other : Act α}
    (met : condition → Performs kinds program post) (unmet : ¬ condition → Performs kinds other post) :
    Performs kinds (if condition then program else other) post := Follows.ite met unmet

theorem Within.avoids {stop : Op → Bool} (within : Within kinds program)
    (spared : ∀ op, kind op ∈ kinds → stop op = false) : Avoids stop program :=
  (within.rests fun op member => ⟨spared op member, fun _ => rfl⟩).mono fun _ _ => And.left

theorem Within.calm (within : Within kinds program) (plain : ∀ kind ∈ kinds, kind.marked = false) :
    Avoids marked program := within.avoids fun op member => (kinds_eq op).2.1.trans (plain _ member)

theorem Within.rare (within : Within kinds program) (plain : ∀ kind ∈ kinds, kind.rare = false) : Avoids rare program :=
  within.avoids fun op member => (kinds_eq op).1.trans (plain _ member)

theorem Within.lasting (within : Within kinds program) (plain : Kind.lifecycle ∉ kinds) : Avoids lifecycle program := by
  refine within.avoids fun op member => ?_
  rw [(kinds_eq op).2.2, decide_eq_false_iff_not]
  intro same
  exact plain (same ▸ member)

end Kinds

section Single
variable {stop : Op → Bool}

theorem session_avoids {op : SessionOp} (other : stop (.shared (.session op)) = false) : Avoids stop (session op) :=
  ⟨other, fun _ _ => trivial⟩

theorem environment_avoids {op : EnvironmentOp} (other : stop (.environment op) = false) :
    Avoids stop (environment op) := ⟨other, fun _ _ => trivial⟩

theorem count_calm (counter : Counter) : Avoids marked (count counter) := ⟨rfl, fun _ _ => trivial⟩

end Single

section Parts
variable {α β : Type} {kinds : List Kind} (writer : Option MessageWriter) {header : Header} (err : Err)

theorem step_within {op : Op} {next : op.Reply → Act β} {post : β → Prop} (member : kinds.elem (kind op) = true)
    (resume : ∀ reply, Performs kinds (next reply) post) : Performs kinds (Program.perform op >>= next) post :=
  ⟨List.elem_iff.mp member, fun reply _ => resume reply⟩

theorem last_within {op : Op} (member : kinds.elem (kind op) = true) : Within kinds (Program.perform op) :=
  ⟨List.elem_iff.mp member, fun _ _ => trivial⟩

theorem exhausted_within {post : α → Prop} (member : Kind.never ∈ kinds) : Performs kinds (exhausted : Act α) post :=
  ⟨member, fun reply => reply.elim⟩

theorem write_within (writer : MessageWriter) (payload : Bytes) (member : kinds.elem (.send header.type) = true) :
    Within kinds (writer.write header payload) := by
  unfold MessageWriter.write
  refine Performs.ite (fun _ => trivial) fun _ => Performs.ite (fun _ => trivial) fun _ => ?_
  exact ⟨List.elem_iff.mp member, fun _ _ => trivial⟩

theorem writeVia_within (payload : Bytes) (member : kinds.elem (.send header.type) = true)
    (stuck : Kind.never ∈ kinds) : Within kinds (writeVia writer header payload) := by
  cases writer with
  | some writer => exact write_within writer payload member
  | none => exact exhausted_within stuck

theorem write_calm (writer : MessageWriter) (payload : Bytes) (plain : concluding header.type = false) :
    Avoids marked (writer.write header payload) := by
  have within : Within [.send header.type] (writer.write header payload) :=
    write_within writer payload (List.elem_iff.mpr List.mem_cons_self)
  exact within.calm (by simpa [Kind.marked] using plain)

theorem writeVia_only (header : Header) (payload : Bytes) :
    Within [.send header.type, .never] (writeVia writer header payload) :=
  writeVia_within writer payload (List.elem_iff.mpr List.mem_cons_self) (List.mem_cons_of_mem _ List.mem_cons_self)

theorem writeVia_calm (payload : Bytes) (plain : concluding header.type = false) :
    Avoids marked (writeVia writer header payload) :=
  (writeVia_only writer header payload).calm (by simpa [Kind.marked, Kind.rare] using plain)

def refusals : List Sentinel :=
  [.reservedMessageType, .unknownMessageType, .wrongChannel, .protocolVersion, .messageTooLarge, .sessionNotReady,
    .invalidSession]

def Refusal (err : Err) : Prop := ∃ sentinel ∈ refusals, err = Err.sentinel sentinel

theorem requireReady_refuses : Performs [.get] requireReady fun refused => ∀ err, refused = some err → Refusal err := by
  refine step_within rfl fun (state : State) => ?_
  cases state with
  | ready | clearing => exact fun _ => nofun
  | closed | pairing =>
    rintro _ ⟨⟩
    exact ⟨_, by decide, rfl⟩

theorem requireReady_within : Within [.get] requireReady := requireReady_refuses.within

theorem discardDuringClear_within (header : Header) : Within [.get] (discardDuringClear header) :=
  step_within rfl fun _ => Performs.ite (fun _ => trivial) fun _ => trivial

theorem accept_refuses (header : Header) (channel : Channel) :
    Performs [.get] (accept header channel) fun result => ∀ err, result = .error err → Refusal err := by
  have refused {sentinel : Sentinel} (member : sentinel ∈ refusals) :
      ∀ err, (.error sentinel : Except Err Server.Class) = .error err → Refusal err := by
    rintro _ ⟨⟩
    exact ⟨sentinel, member, rfl⟩
  refine Performs.ite (fun _ => refused (by decide)) fun _ => Performs.ite (fun _ => refused (by decide)) fun _ =>
    Performs.ite (fun _ => refused (by decide)) fun _ => step_within rfl fun version => ?_
  refine Performs.ite (fun _ => refused (by decide)) fun _ => Performs.ite (fun _ => refused (by decide)) fun _ =>
    step_within rfl fun limit => ?_
  cases checked : checkLength header.length limit with
  | some err =>
    obtain ⟨-, rfl⟩ : _ ∧ _ = err := by simpa [checkLength] using checked
    exact refused (by decide)
  | none =>
    refine Performs.ite (fun _ _ => nofun) fun _ => requireReady_refuses.bind fun found refusal => ?_
    cases found with
    | some err =>
      rintro _ ⟨⟩
      exact refusal err rfl
    | none => exact fun _ => nofun

theorem accept_within (header : Header) (channel : Channel) : Within [.get] (accept header channel) :=
  (accept_refuses header channel).within

theorem syncPending_within : Within [.get] syncPending :=
  step_within rfl fun _ => Performs.ite (fun _ => trivial) fun _ => trivial

theorem validate_checks (response : Response) :
    Performs [.get] response.validate fun result =>
      ∀ checked, result = .ok checked → checked.messageID = response.messageID := by
  obtain ⟨sync, async, messageID, scratch, inputQueued⟩ := response
  cases sync with
  | none => exact fun _ => nofun
  | some sync =>
    cases async with
    | none => exact fun _ => nofun
    | some async =>
      refine Performs.ite (fun _ _ => nofun) fun _ => step_within rfl fun limit => Performs.ite (fun _ _ => nofun)
        fun _ => ?_
      cases inputQueued with
      | none => exact fun _ => nofun
      | some inputQueued =>
        intro checked same
        cases same
        rfl

theorem validate_within (response : Response) : Within [.get] response.validate := (validate_checks response).within

theorem countInterrupted_within (interrupted : Interrupted) : Within [.count] (countInterrupted interrupted) := by
  cases interrupted with
  | notInterrupted => trivial
  | _ => exact last_within rfl

theorem countOutcome_within (outcome : ResponseOutcome) : Within [.count] (countOutcome outcome) := by
  cases outcome with
  | complete => trivial
  | _ => exact last_within rfl

theorem operation_within : Within [.operation] operation := step_within rfl fun _ => step_within rfl fun _ => trivial

theorem releaseOperation_within (number : Nat) : Within [.release, .operation] (releaseOperation number) :=
  step_within rfl fun _ => last_within rfl

theorem abortOperation_within : Within [.operation] abortOperation := by
  refine step_within rfl fun (registered : Option Nat) => ?_
  cases registered with
  | some number => exact last_within rfl
  | none => trivial

theorem ask_within (queued : InputQueued) : Within [.pending] queued.ask := by
  cases queued with
  | never => trivial
  | reader => exact last_within rfl

def reports : List Kind := [.count, .send .error, .send .fatalError]

theorem reportReadError_within : Within [.count, .send .error] (reportReadError writer err) := by
  refine Performs.ite (fun _ => step_within rfl fun _ => step_within rfl fun _ => ?_) fun _ => trivial
  cases writer with
  | some writer => exact write_within writer _ rfl
  | none => trivial

theorem reportError_within (code : ErrorCode → ErrorCode) : Within reports (reportError writer err code) := by
  unfold reportError
  cases wireErrorFor err with
  | fatal fatal =>
    refine step_within rfl fun _ => ?_
    cases writer with
    | some writer => exact (write_within writer _ rfl).bind fun _ _ => trivial
    | none => trivial
  | nonFatal nonFatal =>
    refine step_within rfl fun _ => ?_
    cases writer with
    | some writer => exact write_within writer _ rfl
    | none => trivial

theorem reportAcceptError_within : Within reports (reportAcceptError writer err) :=
  Performs.ite (fun _ => step_within rfl fun _ => reportError_within writer err id)
    fun _ => reportError_within writer err id

theorem reportOperationError_within :
    Within reports (reportOperationError writer err) := reportError_within writer err _

end Parts

section Responses

def responding : List Kind :=
  [.tx, .note, .rmt, .pending, .send .data, .send .dataEnd, .send .error, .send .interrupted, .send .asyncInterrupted]

variable (response : CheckedResponse)

theorem sendInterrupted_within :
    Within [.tx, .note, .send .asyncInterrupted, .send .interrupted] (sendInterrupted response) := by
  refine step_within rfl fun (refused : Option Err) => ?_
  cases refused with
  | some err => trivial
  | none =>
    refine step_within rfl fun _ => (write_within _ _ rfl).bind fun failed _ => ?_
    cases failed with
    | some err => trivial
    | none =>
      refine (write_within _ _ rfl).bind fun failed _ => ?_
      cases failed with
      | some err => trivial
      | none => exact last_within rfl

theorem sendChunk_within (result : ReadResult) : Within [.tx, .send .data] (sendChunk response result) := by
  refine Performs.ite (fun _ => trivial) fun _ => step_within rfl fun (refused : Option Err) => ?_
  cases refused with
  | some err => trivial
  | none =>
    refine Performs.ite (fun _ => (write_within _ _ rfl).bind fun failed _ => ?_) fun _ => trivial
    cases failed <;> trivial

theorem terminate_within (final : Bytes) : Within [.send .dataEnd, .rmt, .note, .tx] (terminate response final) := by
  refine (write_within _ _ rfl).bind fun failed _ => ?_
  cases failed with
  | some err => trivial
  | none => exact step_within rfl fun _ => step_within rfl fun _ => last_within rfl

def completing : List Kind := [.tx, .note, .rmt, .send .dataEnd, .send .error]

theorem completeAbsentResponse_within : Within completing (completeAbsentResponse response) := by
  refine (write_within _ _ rfl).bind fun failed _ => ?_
  cases failed with
  | some err => trivial
  | none =>
    refine step_within rfl fun (refused : Option Err) => ?_
    cases refused with
    | some err => trivial
    | none => exact (terminate_within response []).andThen (by decide) fun _ => trivial

theorem completeTruncatedResponse_within : Within completing (completeTruncatedResponse response) := by
  refine (write_within _ _ rfl).bind fun failed _ => ?_
  cases failed with
  | some err => trivial
  | none => exact (terminate_within response []).andThen (by decide) fun _ => trivial

theorem offerTerminator_within (final : Bytes) : Within responding (offerTerminator response final) := by
  refine (ask_within response.inputQueued).andThen (by decide) fun queued => Performs.ite (fun _ => ?_) fun _ => ?_
  · exact (sendInterrupted_within response).andThen (by decide) fun _ => trivial
  · refine step_within rfl fun (refused : Option Err) => ?_
    cases refused with
    | some err => trivial
    | none => exact (terminate_within response final).andThen (by decide) fun _ => trivial

theorem responseLoop_within (ctx : Ctx) (response : CheckedResponse) (fuel : Nat) (delivered : UInt64) :
    Within (.deviceRead :: .never :: responding) (responseLoop ctx response fuel delivered) := by
  induction fuel generalizing delivered with
  | zero => exact exhausted_within (by decide)
  | succ fuel ih =>
    refine step_within rfl fun (result : ReadResult) =>
      (sendChunk_within response result).andThen (by decide) fun sent => ?_
    cases sent with
    | error refused => trivial
    | ok sent =>
      cases result.err with
      | some err =>
        refine Performs.ite (fun _ => ?_) fun _ => ?_
        · exact (completeAbsentResponse_within response).widen (by decide)
        · exact (completeTruncatedResponse_within response).widen (by decide)
      | none => exact Performs.ite (fun _ => (offerTerminator_within response _).widen (by decide)) fun _ => ih _

theorem sendResponse_within (ctx : Ctx) (response : Response) (fuel : Nat) :
    Within (.get :: .expect :: .deviceRead :: .never :: responding) (sendResponse ctx response fuel) := by
  refine (validate_within response).andThen (by decide) fun checked => ?_
  cases checked with
  | error err => trivial
  | ok checked =>
    refine step_within rfl fun (refused : Option Err) => ?_
    cases refused with
    | some err => trivial
    | none =>
      refine step_within rfl fun _ => (responseLoop_within ctx checked fuel 0).andThen (by decide) fun _ => ?_
      exact step_within rfl fun _ => trivial

end Responses

section Operations

variable (header : Header)

theorem receiveData_within (payload : Bytes) : Within [.rmt, .note, .tx, .device] (receiveData header payload) := by
  refine Performs.ite (fun _ => trivial) fun _ => ?_
  refine step_within rfl fun _ => step_within rfl fun _ =>
    step_within (by split <;> rfl) fun (refused : Option Err) => ?_
  cases refused with
  | some err => trivial
  | none => exact step_within rfl fun _ => trivial

theorem trigger_within : Within [.get, .rmt, .note, .tx, .device] (trigger header) := by
  refine Performs.ite (fun _ => trivial) fun _ => requireReady_within.andThen (by decide) fun refused => ?_
  cases refused with
  | some err => trivial
  | none =>
    refine step_within rfl fun _ => step_within rfl fun _ => step_within rfl fun (refused : Option Err) => ?_
    cases refused with
    | some err => trivial
    | none =>
      refine step_within rfl fun (failed : Option Err) => ?_
      cases failed with
      | some err => trivial
      | none => exact step_within rfl fun _ => trivial

def Answers (type : MessageType) (answer : Except Err Header) : Prop :=
    ∀ header, answer = .ok header → header.type = type

theorem answers_error (type : MessageType) (err : Err) : Answers type (.error err) := fun _ => nofun

theorem answers_ok {type : MessageType} {header : Header} (same : header.type = type) : Answers type (.ok header) := by
  rintro _ ⟨⟩
  exact same

theorem beginDeviceClear_within (config : Config) :
    Performs [.get, .operation, .note, .tx, .clear] (beginDeviceClear config)
      (Answers .asyncDeviceClearAcknowledge) := by
  refine requireReady_within.andThen (by decide) fun refused => ?_
  cases refused with
  | some err => exact answers_error _ err
  | none =>
    refine abortOperation_within.andThen (by decide) fun _ => step_within rfl fun _ =>
      step_within rfl fun (refused : Option Err) => ?_
    cases refused with
    | some err => exact answers_error _ err
    | none => exact step_within rfl fun _ => answers_ok rfl

theorem completeDeviceClear_within (config : Config) (header : Header) :
    Performs [.clear, .tx, .device] (completeDeviceClear config header)
      fun result => result.1.type = .initializeRequest ∨ result.1.type = .deviceClearAcknowledge :=
  Performs.ite (fun _ => .inl rfl) fun _ =>
    step_within rfl fun _ => step_within rfl fun _ => step_within rfl fun _ => .inr rfl

theorem statusQuery_within :
    Performs [.get, .rmt, .device, .note] (statusQuery header) (Answers .asyncStatusResponse) := by
  refine Performs.ite (fun _ => answers_error _ _) fun _ => requireReady_within.andThen (by decide) fun refused => ?_
  cases refused with
  | some err => exact answers_error _ err
  | none =>
    refine step_within rfl fun _ => step_within rfl fun (read : Except Err UInt8) => ?_
    cases read with
    | error err => exact answers_error _ err
    | ok device =>
      exact step_within rfl fun _ => step_within rfl fun _ => Performs.ite (fun _ => answers_ok rfl) fun _ =>
        answers_ok rfl

theorem remoteLocal_within : Performs [.get, .device] (remoteLocal header) (Answers .asyncRemoteLocalResponse) := by
  refine Performs.ite (fun _ => answers_error _ _) fun _ => requireReady_within.andThen (by decide) fun refused => ?_
  cases refused with
  | some err => exact answers_error _ err
  | none =>
    refine Performs.ite (fun _ => answers_error _ _) fun _ => step_within rfl fun (failed : Option Err) => ?_
    cases failed with
    | some err => exact answers_error _ err
    | none => exact answers_ok rfl

theorem ofRequest_within {α : Type} (program : RequestProgram α) :
    Within [.lock, .wait, .never] (ofRequest program) := by
  induction program with
  | pure value => trivial
  | request operation next ih =>
    cases operation with
    | locks op | select channel | remaining | exhausted => exact ⟨List.elem_iff.mp rfl, fun reply _ => ih reply⟩

theorem lock_within (lockString : Bytes) (fuel : Nat) :
    Performs [.get, .lock, .wait, .never] (lock header lockString fuel) (Answers .asyncLockResponse) := by
  refine Performs.ite (fun _ => answers_error _ _) fun _ => requireReady_within.andThen (by decide) fun refused => ?_
  cases refused with
  | some err => exact answers_error _ err
  | none =>
    refine Performs.ite (fun _ => step_within rfl fun id => ?_) fun _ => Performs.ite (fun _ => ?_) fun _ =>
      answers_error _ _
    · exact (ofRequest_within _).andThen (by decide) fun _ => answers_ok rfl
    · exact step_within rfl fun _ => step_within rfl fun _ => answers_ok rfl

theorem lockInfo_within : Performs [.get, .lock] (lockInfo header) (Answers .asyncLockInfoResponse) := by
  refine Performs.ite (fun _ => answers_error _ _) fun _ => requireReady_within.andThen (by decide) fun refused => ?_
  cases refused with
  | some err => exact answers_error _ err
  | none => exact step_within rfl fun _ => answers_ok rfl

theorem maximumMessageSize_within (config : Config) (clientMax : UInt64) :
    Performs [.note] (maximumMessageSize config clientMax) fun result =>
      result.1.type = .asyncMaximumMessageSizeResponse := by
  unfold maximumMessageSize
  split
  next large => exact step_within rfl fun _ => rfl
  next => exact rfl

end Operations

section Handlers

def programKinds : List Kind :=
  [.get, .deviceRead, .device, .never, .policy, .disposition, .operation, .release, .expect] ++ reports ++ responding

def answerKinds : List Kind := [.get, .deviceRead, .never, .operation, .release, .expect] ++ reports ++ responding

variable (config : Config) (header : Header)

theorem answerProgramMessage_asks (writer : Option MessageWriter) (fuel : Nat) :
    ∃ rest : Disposition → Act (Option Err),
      answerProgramMessage config header writer fuel = session .disposition >>= rest ∧
        ∀ found, Within answerKinds (rest found) := by
  refine ⟨_, rfl, fun found => Performs.ite (fun _ => last_within rfl) fun _ => ?_⟩
  refine operation_within.andThen (by decide) fun number => step_within rfl fun async => step_within rfl fun limit =>
    syncPending_within.andThen (by decide) fun queued =>
      (sendResponse_within _ _ fuel).andThen (by decide) fun result => ?_
  obtain ⟨outcome, err⟩ := result
  refine (countOutcome_within outcome).andThen (by decide) fun _ => ?_
  have release : ∀ result : Option Err, Within answerKinds (releaseOperation number >>= fun _ => Pure.pure result) :=
    fun result => (releaseOperation_within number).andThen (by decide) fun _ => trivial
  cases err with
  | some err => exact (reportOperationError_within writer err).andThen (by decide) release
  | none => exact release none

theorem answerProgramMessage_within (writer : Option MessageWriter) (fuel : Nat) :
    Within programKinds (answerProgramMessage config header writer fuel) := by
  obtain ⟨rest, same, within⟩ := answerProgramMessage_asks config header writer fuel
  rw [same]
  exact step_within rfl fun found => (within found).widen (by decide)

variable (message : Message) (writer : Option MessageWriter) (fuel : Nat)

theorem handleData_within : Within programKinds (handleData config message writer fuel) := by
  refine (receiveData_within _ _).andThen (by decide) fun result => ?_
  obtain ⟨interrupted, err⟩ := result
  refine (countInterrupted_within interrupted).andThen (by decide) fun _ => ?_
  have last : Within programKinds (if message.header.type ≠ .dataEnd then Pure.pure none
      else answerProgramMessage config message.header writer fuel) :=
    Performs.ite (fun _ => trivial) fun _ => answerProgramMessage_within config message.header writer fuel
  cases err with
  | some err => exact (reportOperationError_within writer err).widen (by decide)
  | none => exact Performs.ite (fun _ => step_within rfl fun _ => last) fun _ => last

theorem handleTrigger_within :
    Within ([.get, .rmt, .note, .tx, .device] ++ reports) (handleTrigger message writer) := by
  refine (trigger_within _).andThen (by decide) fun result => ?_
  obtain ⟨interrupted, err⟩ := result
  refine (countInterrupted_within interrupted).andThen (by decide) fun _ => ?_
  cases err with
  | some err => exact (reportOperationError_within writer err).widen (by decide)
  | none => exact step_within rfl fun _ => trivial

def completionKinds : List Kind :=
  [.clear, .tx, .device, .never, .send .initializeRequest, .send .deviceClearAcknowledge] ++ reports

theorem handleDeviceClearComplete_within :
    Within completionKinds (handleDeviceClearComplete config message writer) := by
  refine ((completeDeviceClear_within config message.header).widen (by decide)).bind fun result typed => ?_
  obtain ⟨ack, clearErr⟩ := result
  have known : completionKinds.elem (.send ack.type) = true := by
    obtain same | same := typed <;> rw [same] <;> decide
  refine (writeVia_within writer [] known (by decide)).bind fun failed _ => ?_
  cases failed with
  | some err => trivial
  | none =>
    refine step_within rfl fun _ => ?_
    cases clearErr with
    | some err => exact (reportOperationError_within writer err).widen (by decide)
    | none => trivial

/-- The messages of the synchronous channel that are none of the device's business. -/
def otherSync (header : Header) (found : Server.Class) (writer : Option MessageWriter) : Act (Option Err) :=
  if header.type = .fatalError then do
    count .fatalErrors
    return some Sentinel.clientFatal
  else if header.type = .error then do
    count .nonFatalErrors
    return none
  else if header.type = .initializeRequest then do
    let _ ← writeVia writer { type := .fatalError, control := FatalErrorCode.invalidInitSequence }
      (ascii "already initialized")
    return some Sentinel.invalidInitSequence
  else if found = .syncOrdered ∧ header.type.vendorSpecific then do
    count .nonFatalErrors
    writeVia writer { type := .error, control := ErrorCode.unrecognizedVendorMsg } (ascii "vendor extension not enabled")
  else do
    count .nonFatalErrors
    writeVia writer { type := .error, control := ErrorCode.unrecognizedMessageType } (ascii "unsupported message")

theorem otherSync_within (found : Server.Class) (writer : Option MessageWriter) :
    Within (.never :: reports) (otherSync header found writer) := by
  refine Performs.ite (fun _ => step_within rfl fun _ => trivial) fun _ => ?_
  refine Performs.ite (fun _ => step_within rfl fun _ => trivial) fun _ => ?_
  refine Performs.ite (fun _ => (writeVia_within writer _ rfl (by decide)).bind fun _ _ => trivial) fun _ => ?_
  exact Performs.ite (fun _ => step_within rfl fun _ => writeVia_within writer _ rfl (by decide))
    fun _ => step_within rfl fun _ => writeVia_within writer _ rfl (by decide)

def syncKinds : List Kind := [.clear, .send .initializeRequest, .send .deviceClearAcknowledge] ++ programKinds

/-- A discipline that spares reports has to look at three kinds of messages only. -/
theorem Spares.handleSync {Φ : Type} {discipline : Discipline Op Op.Reply Φ} {phase : Φ} {spared : Kind → Prop}
    {post : Option Err → Φ → Prop} (spares : Spares discipline phase spared)
    (listed : ∀ kind ∈ Kind.get :: .never :: reports, spared kind) (rests : ∀ result, post result phase)
    (data : message.err = none → message.header.type = .data ∨ message.header.type = .dataEnd →
      ∀ writer, Follows discipline post (handleData config message writer fuel) phase)
    (trigger : message.header.type = .trigger → ∀ writer, Follows discipline post (handleTrigger message writer) phase)
    (complete : message.header.type = .deviceClearComplete →
      ∀ writer, Follows discipline post (handleDeviceClearComplete config message writer) phase) :
    Follows discipline post (handleSync config message fuel) phase := by
  have lists {kinds : List Kind} (only : kinds ⊆ .get :: .never :: reports) : ∀ kind ∈ kinds, spared kind :=
    fun kind member => listed kind (only member)
  have reported {kinds : List Kind} {program : Act (Option Err)} (within : Within kinds program)
      (only : kinds ⊆ .get :: .never :: reports) : Follows discipline post program phase :=
    (spares.rest within (lists only)).mono fun result _ same => same ▸ rests result
  refine spares.step (listed .get List.mem_cons_self) fun writer => ?_
  cases failed : message.err with
  | some err => exact reported (reportReadError_within writer err) (by decide)
  | none =>
    refine spares.skip (discardDuringClear_within _) (lists (by decide)) fun _ =>
      Follows.ite (fun _ => rests none) fun _ => ?_
    refine spares.skip (accept_within _ _) (lists (by decide)) fun result => ?_
    cases result with
    | error err => exact reported (reportAcceptError_within writer err) (by decide)
    | ok found =>
      refine Follows.ite (fun typed => data failed typed writer) fun _ => ?_
      refine Follows.ite (fun typed => trigger typed writer) fun _ => ?_
      refine Follows.ite (fun typed => complete typed writer) fun _ => ?_
      exact reported (otherSync_within message.header found writer) (by decide)

theorem handleSync_within : Within syncKinds (handleSync config message fuel) := by
  have spares : Spares { allowed := fun (_ : Unit) op => kind op ∈ syncKinds, advance := fun _ _ _ => () } ()
      (· ∈ syncKinds) := fun _ member => ⟨member, fun _ => rfl⟩
  refine spares.handleSync config message fuel (by decide) (fun _ => trivial) (fun _ _ writer => ?_)
    (fun _ writer => ?_) fun _ writer => ?_
  · exact (handleData_within config message writer fuel).widen (by decide)
  · exact (handleTrigger_within message writer).widen (by decide)
  · exact (handleDeviceClearComplete_within config message writer).widen (by decide)

def asyncKinds : List Kind :=
  [.get, .note, .operation, .tx, .clear, .rmt, .device, .lock, .wait, .never, .send .asyncDeviceClearAcknowledge,
    .send .asyncStatusResponse, .send .asyncLockResponse, .send .asyncLockInfoResponse, .send .asyncRemoteLocalResponse,
    .send .asyncMaximumMessageSizeResponse] ++ reports

theorem answerAsync_within (writer : MessageWriter) {type : MessageType} {answer : Except Err Header}
    (answers : Answers type answer) (member : asyncKinds.elem (.send type) = true) :
    Within asyncKinds (answerAsync writer answer) := by
  cases answer with
  | error err => exact (reportOperationError_within (some writer) err).widen (by decide)
  | ok header => exact write_within writer [] (by rw [answers header rfl]; exact member)

theorem handleAsync_within : Within asyncKinds (handleAsync config message fuel) := by
  refine step_within rfl fun (writer : Option MessageWriter) => ?_
  cases writer with
  | none => trivial
  | some writer =>
    cases message.err with
    | some err => exact (reportReadError_within (some writer) err).widen (by decide)
    | none =>
      refine (accept_within _ _).andThen (by decide) fun result => ?_
      cases result with
      | error err => exact (reportAcceptError_within (some writer) err).widen (by decide)
      | ok found =>
        refine Performs.ite (fun _ => ((beginDeviceClear_within config).widen (by decide)).bind fun _ answers =>
          answerAsync_within writer answers (by decide)) fun _ => ?_
        refine Performs.ite (fun _ => ((statusQuery_within _).widen (by decide)).bind fun _ answers =>
          step_within rfl fun _ => answerAsync_within writer answers (by decide)) fun _ => ?_
        refine Performs.ite (fun _ => ((lock_within _ _ fuel).widen (by decide)).bind fun _ answers =>
          answerAsync_within writer answers (by decide)) fun _ => ?_
        refine Performs.ite (fun _ => ((lockInfo_within _).widen (by decide)).bind fun _ answers =>
          answerAsync_within writer answers (by decide)) fun _ => ?_
        refine Performs.ite (fun _ => ((remoteLocal_within _).widen (by decide)).bind fun _ answers =>
          answerAsync_within writer answers (by decide)) fun _ => ?_
        refine Performs.ite (fun _ => ((maximumMessageSize_within config _).widen (by decide)).bind fun _ typed =>
          write_within writer _ (by rw [typed]; decide)) fun _ => ?_
        refine Performs.ite (fun _ => (write_within writer [] rfl).bind fun _ _ => trivial) fun _ => ?_
        refine Performs.ite (fun _ => step_within rfl fun _ => trivial) fun _ => ?_
        exact Performs.ite (fun _ => step_within rfl fun _ => trivial) fun _ =>
          step_within rfl fun _ => write_within writer _ rfl

theorem handleSync_lasting :
    Avoids lifecycle (handleSync config message fuel) := (handleSync_within config message fuel).lasting (by decide)

theorem handleAsync_lasting :
    Avoids lifecycle (handleAsync config message fuel) := (handleAsync_within config message fuel).lasting (by decide)

end Handlers

end Hislip.Proofs.Footprint
