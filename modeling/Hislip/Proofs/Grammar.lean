import Hislip.Proofs.Serving

/-! What a loop may do and say while it handles a message. A message reaches the device at
most once, a query is answered piece by piece up to one end, and whatever goes wrong is
reported once. The table is small; the handlers keep to it whatever runs between their
steps. -/

namespace Hislip.Proofs.Grammar
open Hislip.Server Program Footprint Serving

inductive Stage where
  | start | taken | reading | late | noticed | answered | closed | ended
  deriving DecidableEq, Repr

/-- What a call into the environment is to the message that is being handled. -/
inductive Deed where
  | handed | read
  | chunk | finish (empty : Bool) | timeout | notice | interrupt
  | acknowledge | reply (polled : Bool) | complaint | fatal
  | silent | stray
  deriving DecidableEq, Repr

/-- The codes of an Error that says what is wrong. The response timeout has a part of its own. -/
def errorCodes : List ErrorCode := [1, 2, 3, 4, 128]

def Stage.after : Stage → Deed → Option Stage
  | stage, .silent => some stage
  | .closed, _ | .ended, _ => none
  | .start, .handed => some .taken
  | .taken, .read | .reading, .read => some .reading
  | .reading, .chunk => some .reading
  | .reading, .finish _ | .late, .finish true => some .answered
  | .reading, .timeout => some .late
  | .reading, .notice => some .noticed
  | .noticed, .interrupt => some .answered
  | .taken, .acknowledge => some .answered
  | .start, .reply false | .taken, .reply true => some .closed
  | _, .complaint => some .closed
  | _, .fatal => some .ended
  | _, _ => none

/-- A request of the asynchronous channel that has a reply of its own: the type of the reply, whether the device is called
before it, the control codes that it may have, and the size of its payload. -/
structure Form where
  request : MessageType
  type : MessageType
  polled : Bool := false
  controls : UInt8 → Bool := (· = 0)
  size : Nat := 0

namespace Form

def clear : Form := { request := .asyncDeviceClear, type := .asyncDeviceClearAcknowledge }
def status : Form :=
  { request := .asyncStatusQuery, type := .asyncStatusResponse, polled := true, controls := fun _ => true }
def lock : Form := { request := .asyncLock, type := .asyncLockResponse, controls := (· ≤ 3) }
def lockInfo : Form := { request := .asyncLockInfo, type := .asyncLockInfoResponse, controls := (· ≤ 1) }
def remoteLocal : Form := { request := .asyncRemoteLocalControl, type := .asyncRemoteLocalResponse, polled := true }
def maximumMessageSize : Form :=
  { request := .asyncMaximumMessageSize, type := .asyncMaximumMessageSizeResponse, size := 8 }

end Form

def forms : List Form := [.clear, .status, .lock, .lockInfo, .remoteLocal, .maximumMessageSize]

def hands (role : Channel) (message : Message) : EnvironmentOp → Bool
  | .write ctx payload last =>
    ctx = .server ∧ role = .synchronous ∧ (message.header.type = .data ∨ message.header.type = .dataEnd) ∧
      payload = message.payload ∧ last = decide (message.header.type = .dataEnd)
  | .trigger ctx => ctx = .server ∧ role = .synchronous ∧ message.header.type = .trigger
  | .clear ctx => ctx = .server ∧ role = .synchronous ∧ message.header.type = .deviceClearComplete
  | .readStatusByte ctx => ctx = .server ∧ role = .asynchronous ∧ message.header.type = .asyncStatusQuery
  | .remoteLocal ctx mode =>
    ctx = .server ∧ role = .asynchronous ∧ message.header.type = .asyncRemoteLocalControl ∧
      mode = message.header.control ∧ mode ≤ 6
  | _ => false

/-- A part of the response to a query. It carries the MessageID of the query. -/
def part (message : Message) (channel : Channel) (header : Header) (payload : Bytes) : Deed :=
  if message.header.type ≠ .dataEnd ∨ header.control ≠ 0 ∨ header.parameter ≠ message.header.messageID then .stray
  else if header.type = .data ∧ channel = .synchronous then .chunk
  else if header.type = .dataEnd ∧ channel = .synchronous then .finish payload.isEmpty
  else if header.type = .asyncInterrupted ∧ channel = .asynchronous ∧ payload = [] then .notice
  else if header.type = .interrupted ∧ channel = .synchronous ∧ payload = [] then .interrupt
  else .stray

def saidSync (message : Message) (channel : Channel) (header : Header) (payload : Bytes) : Deed :=
  if header.type = .deviceClearAcknowledge then
    if message.header.type = .deviceClearComplete ∧ channel = .synchronous ∧ header.control = 0 ∧ payload = [] then
      .acknowledge
    else .stray
  else part message channel header payload

def saidAsync (message : Message) (channel : Channel) (header : Header) (payload : Bytes) : Deed :=
  match forms.find? fun form => form.request = message.header.type ∧ form.type = header.type with
  | some form =>
    if channel = .asynchronous ∧ form.controls header.control ∧ payload.length = form.size then .reply form.polled
    else .stray
  | none => .stray

/-- What a message of the server is to the message of the client that is being handled. -/
def said (role : Channel) (message : Message) (channel : Channel) (header : Header) (payload : Bytes) : Deed :=
  if header.length ≠ UInt64.ofNat payload.length then .stray
  else if header.type = .error then
    if channel = role ∧ header.control ∈ errorCodes then .complaint
    else if role = .synchronous ∧ channel = .synchronous ∧ message.header.type = .dataEnd ∧
        header.control = ErrorCode.responseTimeout then .timeout
    else .stray
  else if header.type = .fatalError then if channel = role ∧ header.control ∈ fatalCodes then .fatal else .stray
  else if role = .synchronous then saidSync message channel header payload
  else saidAsync message channel header payload

def deed (role : Channel) (message : Message) : EnvironmentOp → Deed
  | .send channel header payload => said role message channel header payload
  | .read _ _ => if role = .synchronous ∧ message.header.type = .dataEnd then .read else .stray
  | .pending | .select _ | .remaining | .exhausted => .silent
  | op => if hands role message op then .handed else .stray

/-- A message that the loop does not leave behind without an answer. -/
def owed (role : Channel) (message : Message) : Bool :=
  message.err.isSome ||
    if role = .synchronous then message.header.type = .deviceClearComplete else message.header.type ≠ .error

def Stage.rests : Stage → Bool
  | .start | .taken | .answered | .closed => true
  | _ => false

def Settled (role : Channel) (message : Message) (stage : Stage) : Prop :=
  stage.rests = true ∧ (owed role message = true → stage = .answered ∨ stage = .closed)

/-- Where a loop is: the messages to come, the one that it handles, and how far that has come. -/
structure Talk where
  role : Channel
  coming : List Turn
  message : Option Message := none
  stage : Stage := .start

namespace Talk

def take (talk : Talk) : Talk :=
  match talk.coming with
  | .message message :: rest => { talk with coming := rest, message := some message, stage := .start }
  | _ => { talk with message := none, stage := .start }

def hears (talk : Talk) (op : EnvironmentOp) : Option Stage :=
  match talk.message with
  | some message => talk.stage.after (deed talk.role message op)
  | none => if op = .exhausted then some talk.stage else none

def Rests (talk : Talk) : Prop :=
  talk.stage.rests = true ∧ ∀ message, talk.message = some message → Settled talk.role message talk.stage

end Talk

def begins (role : Channel) : Op → Bool
  | .shared (.session .syncWriter) => role = .synchronous
  | .shared (.session .asyncWriter) => role = .asynchronous
  | _ => false

def wired (role : Channel) : (op : Op) → op.Reply → Prop
  | .shared (.session .syncWriter), reply =>
    (∀ writer, reply = some writer → writer = ⟨.synchronous⟩) ∧ (role = .synchronous → reply ≠ none)
  | .shared (.session .asyncWriter), reply =>
    (∀ writer, reply = some writer → writer = ⟨.asynchronous⟩) ∧ (role = .asynchronous → reply ≠ none)
  | _, _ => True

def talk : Discipline Op Op.Reply Talk where
  allowed
    | phase, .environment op => (phase.hears op).isSome = true
    | phase, op => begins phase.role op = true → phase.Rests
  possible phase op reply := wired phase.role op reply
  advance
    | phase, .environment op, _ => { phase with stage := (phase.hears op).getD phase.stage }
    | phase, op, _ => if begins phase.role op then phase.take else phase

section Steps
variable {α β : Type} {phase : Talk} {post : α → Talk → Prop} {message : Message} {op : Op} {next : op.Reply → Act α}
  {program : Act α}

def noisy (role : Channel) : Op → Bool
  | .environment .pending | .environment (.select _) | .environment .remaining | .environment .exhausted => false
  | .environment _ => true
  | op => begins role op

theorem hears_quiet {op : EnvironmentOp} {next : Stage} (quiet : noisy phase.role (.environment op) = false)
    (heard : phase.hears op = some next) : next = phase.stage := by
  obtain ⟨role, coming, message, stage⟩ := phase
  cases message with
  | none =>
    simp only [Talk.hears] at heard
    split at heard <;> cases heard
    rfl
  | some message =>
    cases op with
    | pending | select _ | remaining | exhausted =>
      have stays : stage.after .silent = some stage := by cases stage <;> rfl
      exact Option.some.inj (heard.symm.trans stays)
    | _ => cases quiet

theorem talk_quiet (handling : phase.message = some message) (quiet : noisy phase.role op = false) :
    talk.allowed phase op ∧ ∀ reply, talk.advance phase op reply = phase := by
  obtain ⟨role, coming, _, stage⟩ := phase
  cases handling
  cases op with
  | shared op =>
    have other : begins role (.shared op) = false := quiet
    refine ⟨fun taking => ?_, fun reply => ?_⟩
    · rw [other] at taking
      cases taking
    · simp only [talk, other, Bool.false_eq_true, if_false]
  | environment op =>
    cases op with
    | pending | select _ | remaining | exhausted => exact ⟨by cases stage <;> rfl, fun _ => by cases stage <;> rfl⟩
    | _ => cases quiet

/-- Nothing that the program does is noticed, and its result meets `post`. -/
abbrev Quiet (role : Channel) (program : Act α) (post : α → Prop) : Prop :=
  Follows { allowed := fun (_ : Unit) op => noisy role op = false, advance := fun _ _ _ => () }
    (fun value _ => post value) program ()

theorem Quiet.step {role : Channel} {goal : α → Prop} (still : noisy role op = false)
    (resume : ∀ reply, Quiet role (next reply) goal) : Quiet role (Program.perform op >>= next) goal :=
  ⟨still, fun reply _ => resume reply⟩

def hushed : Kind → Bool
  | .get | .deviceRead | .device | .send _ => false
  | _ => true

theorem noisy_of_kind (role : Channel) (hush : hushed (kind op) = true) : noisy role op = false := by
  cases op with
  | shared op =>
    cases op with
    | session op => cases op <;> first | rfl | cases hush
    | _ => rfl
  | environment op => cases op <;> first | rfl | cases hush

theorem quiet_of_performs {kinds : List Kind} {goal : α → Prop} (role : Channel)
    (performs : Performs kinds program goal) (hush : ∀ kind ∈ kinds, hushed kind = true) : Quiet role program goal :=
  (performs.rests fun _ member => ⟨noisy_of_kind role (hush _ member), fun _ => rfl⟩).mono fun _ _ => And.left

theorem Quiet.bind {middle : α → Prop} {next : α → Act β} {goal : β → Talk → Prop}
    (quiet : Quiet phase.role program middle) (handling : phase.message = some message)
    (resume : ∀ value, middle value → Follows talk goal (next value) phase) :
    Follows talk goal (program >>= next) phase := by
  have rests : Follows talk (fun value last => middle value ∧ last = phase) program phase :=
    Follows.rests quiet (fun _ op still => ⟨(talk_quiet handling still).1, fun reply _ =>
      ⟨trivial, (talk_quiet handling still).2 reply⟩⟩) fun _ _ met => met
  refine Follows.bind rests fun value last done => ?_
  obtain ⟨met, rfl⟩ := done
  exact resume value met

theorem hushed_bind {kinds : List Kind} {middle : α → Prop} {next : α → Act β} {goal : β → Talk → Prop}
    (handling : phase.message = some message) (performs : Performs kinds program middle)
    (hush : ∀ kind ∈ kinds, hushed kind = true)
    (resume : ∀ value, middle value → Follows talk goal (next value) phase) :
    Follows talk goal (program >>= next) phase :=
  Quiet.bind (quiet_of_performs _ performs hush) handling resume

theorem wired_step (handling : phase.message = some message) (still : noisy phase.role op = false)
    (resume : ∀ reply, wired phase.role op reply → Follows talk post (next reply) phase) :
    Follows talk post (Program.perform op >>= next) phase := by
  obtain ⟨allowed, stays⟩ := talk_quiet handling still
  refine Follows.step allowed fun reply found => ?_
  rw [stays]
  exact resume reply found

theorem quiet_step (handling : phase.message = some message) (still : noisy phase.role op = false)
    (resume : ∀ reply, Follows talk post (next reply) phase) :
    Follows talk post (Program.perform op >>= next) phase := wired_step handling still fun reply _ => resume reply

theorem quiet_last {post : op.Reply → Talk → Prop} (handling : phase.message = some message)
    (still : noisy phase.role op = false) (done : ∀ reply, post reply phase) :
    Follows talk post (Program.perform op) phase := by
  obtain ⟨allowed, stays⟩ := talk_quiet handling still
  refine Follows.perform allowed fun reply _ => ?_
  rw [stays]
  exact done reply

theorem exhausted_talks (handling : phase.message = some message) :
    Follows talk post Act.exhausted phase := ⟨(talk_quiet handling rfl).1, fun reply => reply.elim⟩

def Talk.put (phase : Talk) (stage : Stage) : Talk := { phase with stage }

theorem environment_talks {role : Channel} {op : EnvironmentOp} {stage next : Stage}
    (handling : phase.message = some message) (own : phase.role = role)
    (heard : stage.after (deed role message op) = some next) :
    Follows talk (fun _ last => last = phase.put next) (Act.environment op) (phase.put stage) := by
  have hears : (phase.put stage).hears op = some next := by
    simpa only [Talk.hears, Talk.put, handling, own] using heard
  refine ⟨by simp only [talk, hears, Option.isSome_some], fun reply _ => ?_⟩
  simp only [Follows, talk, hears, Option.getD_some]
  rfl

theorem write_talks {role channel : Channel} {header : Header} {payload : Bytes} {stage next : Stage}
    (handling : phase.message = some message) (own : phase.role = role) (legal : header.type.legalOn channel)
    (agrees : header.length = 0 ∨ header.length = UInt64.ofNat payload.length)
    (heard : stage.after (said role message channel { header with length := UInt64.ofNat payload.length } payload) =
      some next) :
    Follows talk (fun _ last => last = phase.put next) (MessageWriter.write ⟨channel⟩ header payload)
      (phase.put stage) := by
  rw [MessageWriter.write_eq legal agrees]
  exact environment_talks handling own heard

end Steps

section Saying
variable {role : Channel} {message : Message} {payload : Bytes}

theorem said_part {channel : Channel} (type : MessageType) (query : message.header.type = .dataEnd)
    (plain : type ≠ .error ∧ type ≠ .fatalError ∧ type ≠ .deviceClearAcknowledge) :
    said .synchronous message channel
        { type, parameter := message.header.messageID, length := UInt64.ofNat payload.length } payload =
      if type = .data ∧ channel = .synchronous then .chunk
      else if type = .dataEnd ∧ channel = .synchronous then .finish payload.isEmpty
      else if type = .asyncInterrupted ∧ channel = .asynchronous ∧ payload = [] then .notice
      else if type = .interrupted ∧ channel = .synchronous ∧ payload = [] then .interrupt
      else .stray := by
  simp only [said, saidSync, part, plain.1, plain.2.1, plain.2.2, query, ne_eq, not_true_eq_false, or_self, if_false,
    if_true]

theorem said_timeout (query : message.header.type = .dataEnd) :
    said .synchronous message .synchronous
      { type := .error, control := ErrorCode.responseTimeout, length := UInt64.ofNat payload.length } payload =
        .timeout := by
  have other : ErrorCode.responseTimeout ∉ errorCodes := by decide
  simp [said, query, other]

theorem said_acknowledge (typed : message.header.type = .deviceClearComplete) :
    said .synchronous message .synchronous
      { type := .deviceClearAcknowledge, length := UInt64.ofNat ([] : Bytes).length } [] = .acknowledge := by
  have plain : MessageType.deviceClearAcknowledge ≠ .error ∧ MessageType.deviceClearAcknowledge ≠ .fatalError := by
    decide
  simp only [said, saidSync, typed, plain.1, plain.2, ne_eq, not_true_eq_false, and_self, if_false, if_true]

theorem said_complaint {code : ErrorCode} (known : code ∈ errorCodes) :
    said role message role { type := .error, control := code, length := UInt64.ofNat payload.length } payload =
      .complaint := by
  simp [said, known]

theorem said_fatal {code : FatalErrorCode} (known : code ∈ fatalCodes) :
    said role message role { type := .fatalError, control := code, length := UInt64.ofNat payload.length } payload =
      .fatal := by
  have other : MessageType.fatalError ≠ .error := by decide
  simp [said, known, other]

theorem said_reply {form : Form} {header : Header} (listed : form ∈ forms) (asked : message.header.type = form.request)
    (typed : header.type = form.type) (control : form.controls header.control = true)
    (agrees : header.length = UInt64.ofNat payload.length) (size : payload.length = form.size) :
    said .asynchronous message .asynchronous header payload = .reply form.polled := by
  have found : forms.find? (fun form => form.request = message.header.type ∧ form.type = header.type) = some form := by
    rw [asked, typed]
    simp only [forms, List.mem_cons, List.not_mem_nil, or_false] at listed
    obtain rfl | rfl | rfl | rfl | rfl | rfl := listed <;> rfl
  have plain : header.type ≠ .error ∧ header.type ≠ .fatalError := by
    rw [typed]
    simp only [forms, List.mem_cons, List.not_mem_nil, or_false] at listed
    obtain rfl | rfl | rfl | rfl | rfl | rfl := listed <;> decide
  have other : Channel.asynchronous ≠ .synchronous := by decide
  simp only [said, saidAsync, agrees, ne_eq, not_true_eq_false, if_false, plain.1, plain.2, other, found, control, size,
    and_self, if_true]

end Saying

section Codes

theorem fatalCodeFor_mem {err : Err} {code : FatalErrorCode} (mapped : fatalCodeFor err = some code) :
    code ∈ fatalCodes := by
  unfold fatalCodeFor at mapped
  split_ifs at mapped <;> cases mapped <;> decide

theorem errorCodeFor_mem (err : Err) : errorCodeFor err ∈ ErrorCode.unidentified :: errorCodes := by
  unfold errorCodeFor
  split_ifs <;> decide

theorem wireErrorFor_fatal {err : Err} {code : FatalErrorCode} (mapped : wireErrorFor err = .fatal code) :
    code ∈ fatalCodes := by
  unfold wireErrorFor at mapped
  cases fatal : fatalCodeFor err with
  | some found =>
    rw [fatal] at mapped
    cases mapped
    exact fatalCodeFor_mem fatal
  | none =>
    rw [fatal] at mapped
    dsimp only at mapped
    split_ifs at mapped <;> cases mapped <;> decide

theorem wireErrorFor_nonFatal {err : Err} {code : ErrorCode} (mapped : wireErrorFor err = .nonFatal code) :
    code ∈ ErrorCode.unidentified :: errorCodes := by
  unfold wireErrorFor at mapped
  cases fatal : fatalCodeFor err with
  | some found =>
    rw [fatal] at mapped
    cases mapped
  | none =>
    rw [fatal] at mapped
    dsimp only at mapped
    split_ifs at mapped <;> cases mapped
    · decide
    · exact errorCodeFor_mem err

theorem refusal_coded {err : Err} (refusal : Refusal err) {code : ErrorCode} (mapped : wireErrorFor err = .nonFatal code) :
    code ∈ errorCodes := by
  obtain ⟨sentinel, member, rfl⟩ := refusal
  simp only [refusals, List.mem_cons, List.not_mem_nil, or_false] at member
  obtain rfl | rfl | rfl | rfl | rfl | rfl | rfl := member <;> cases mapped <;> decide

end Codes

def Stage.live : Stage → Bool
  | .closed | .ended => false
  | _ => true

theorem live_complaint {stage : Stage} (live : stage.live = true) : stage.after .complaint = some .closed := by
  cases stage <;> first | rfl | cases live

theorem live_fatal {stage : Stage} (live : stage.live = true) : stage.after .fatal = some .ended := by
  cases stage <;> first | rfl | cases live

/-- The handler of a message returns: it goes on only from a message that is settled. -/
def Closes (phase : Talk) (message : Message) (result : Option Err) (last : Talk) : Prop :=
  ∃ stage, last = phase.put stage ∧ (result = none → Settled phase.role message stage)

structure Handling (phase : Talk) (message : Message) : Prop where
  handles : phase.message = some message
  role : phase.role = .synchronous ∨ phase.role = .asynchronous

theorem settled_closed (role : Channel) (message : Message) : Settled role message .closed := ⟨rfl, fun _ => .inr rfl⟩

section Reports
variable {phase : Talk} {message : Message} (handling : Handling phase message)
include handling

variable {stage : Stage}

theorem writeError_closes (live : stage.live = true) {code : ErrorCode} (known : code ∈ errorCodes) (text : Bytes) :
    Follows talk (Closes phase message) (MessageWriter.writeError ⟨phase.role⟩ code text) (phase.put stage) := by
  have legal : MessageType.error.legalOn phase.role := by obtain role | role := handling.role <;> rw [role] <;> rfl
  have heard : stage.after (said phase.role message phase.role
      { type := .error, control := code, length := UInt64.ofNat text.length } text) = some .closed :=
    (congrArg _ (said_complaint known)).trans (live_complaint live)
  refine Follows.mono (write_talks handling.handles rfl legal (.inl rfl) heard) fun result last same => ?_
  exact ⟨.closed, same, fun _ => settled_closed _ _⟩

theorem writeFatalError_talks (live : stage.live = true) {code : FatalErrorCode} (known : code ∈ fatalCodes)
    (text : Bytes) :
    Follows talk (fun _ last => last = phase.put .ended) (MessageWriter.writeFatalError ⟨phase.role⟩ code text)
      (phase.put stage) := by
  have legal : MessageType.fatalError.legalOn phase.role := by
    obtain role | role := handling.role <;> rw [role] <;> rfl
  have heard : stage.after (said phase.role message phase.role
      { type := .fatalError, control := code, length := UInt64.ofNat text.length } text) = some .ended :=
    (congrArg _ (said_fatal known)).trans (live_fatal live)
  exact write_talks handling.handles rfl legal (.inl rfl) heard

theorem reportError_closes (live : stage.live = true) (err : Err) {code : ErrorCode → ErrorCode}
    (coded : ∀ found, wireErrorFor err = .nonFatal found → code found ∈ errorCodes) :
    Follows talk (Closes phase message) (reportError (some ⟨phase.role⟩) err code) (phase.put stage) := by
  unfold reportError
  cases mapped : wireErrorFor err with
  | fatal found =>
    refine quiet_step handling.handles rfl fun _ => ?_
    refine Follows.bind (writeFatalError_talks handling live (wireErrorFor_fatal mapped) err.text) fun _ last ended => ?_
    exact ⟨.ended, ended, nofun⟩
  | nonFatal found =>
    exact quiet_step handling.handles rfl fun _ => writeError_closes handling live (coded found mapped) err.text

theorem reportAcceptError_closes (live : stage.live = true) {err : Err} (refusal : Refusal err) :
    Follows talk (Closes phase message) (reportAcceptError (some ⟨phase.role⟩) err) (phase.put stage) := by
  have reports : Follows talk (Closes phase message) (reportError (some ⟨phase.role⟩) err id) (phase.put stage) :=
    reportError_closes handling live err fun found mapped => refusal_coded refusal mapped
  exact Follows.ite (fun _ => quiet_step handling.handles rfl fun _ => reports) fun _ => reports

theorem reportOperationError_closes (live : stage.live = true) (err : Err) :
    Follows talk (Closes phase message) (reportOperationError (some ⟨phase.role⟩) err) (phase.put stage) := by
  refine reportError_closes handling live err fun found mapped => ?_
  split
  next => decide
  next identified => exact (List.mem_cons.mp (wireErrorFor_nonFatal mapped)).resolve_left identified

theorem reportReadError_closes (live : stage.live = true) (err : Err) :
    Follows talk (Closes phase message) (reportReadError (some ⟨phase.role⟩) err) (phase.put stage) := by
  refine Follows.ite (fun _ => ?_) fun _ => ⟨stage, rfl, nofun⟩
  refine quiet_step handling.handles rfl fun _ => quiet_step handling.handles rfl fun _ => ?_
  exact writeError_closes handling live (by decide) _

end Reports

section Quietly
variable {role : Channel}

theorem requireReady_quiet : Quiet role requireReady fun _ => True := by
  refine Quiet.step rfl fun (state : State) => ?_
  cases state <;> trivial

theorem discardDuringClear_quiet (header : Header) :
    Quiet role (discardDuringClear header) fun discarded => discarded = true → header.type ≠ .deviceClearComplete :=
  Quiet.step rfl fun _ => Follows.ite (fun _ => nofun) fun _ => by simp [Follows]

theorem accept_quiet (header : Header) (channel : Channel) :
    Quiet role (accept header channel) fun result => ∀ err, result = .error err → Refusal err := by
  have still : Avoids (noisy role) (accept header channel) := by
    refine Follows.ite (fun _ => trivial) fun _ => Follows.ite (fun _ => trivial) fun _ => ?_
    refine Follows.ite (fun _ => trivial) fun _ => Quiet.step rfl fun version => ?_
    refine Follows.ite (fun _ => trivial) fun _ => Follows.ite (fun _ => trivial) fun _ => Quiet.step rfl fun limit => ?_
    cases checkLength header.length limit with
    | some err => trivial
    | none =>
      refine Follows.ite (fun _ => trivial) fun _ => Follows.bind requireReady_quiet fun refused _ _ => ?_
      cases refused <;> trivial
  exact still.meets (accept_refuses header channel) fun _ _ _ => trivial

theorem syncPending_quiet : Quiet role syncPending fun _ => True :=
  Quiet.step rfl fun _ => Follows.ite (fun _ => trivial) fun _ => trivial

theorem validate_quiet {sync async : MessageWriter} {messageID : MessageID} {scratch : Nat}
    {inputQueued : Option InputQueued} :
    Quiet role (Response.validate ⟨some sync, some async, messageID, scratch, inputQueued⟩) fun result =>
      ∀ checked, result = .ok checked → checked.sync = sync ∧ checked.async = async ∧ checked.messageID = messageID := by
  refine Follows.ite (fun _ _ => nofun) fun _ => Quiet.step rfl fun limit => Follows.ite (fun _ _ => nofun) fun _ => ?_
  cases inputQueued with
  | none => exact fun _ => nofun
  | some inputQueued =>
    intro checked same
    cases same
    exact ⟨rfl, rfl, rfl⟩

end Quietly

section Responses
variable {phase : Talk} {message : Message} {response : CheckedResponse}

/-- The query that a response answers, on the writers of its session. -/
structure Answering (phase : Talk) (message : Message) (response : CheckedResponse) : Prop where
  handles : phase.message = some message
  role : phase.role = .synchronous
  query : message.header.type = .dataEnd
  sync : response.sync = ⟨.synchronous⟩
  async : response.async = ⟨.asynchronous⟩
  messageID : response.messageID = message.header.messageID

def Responded (phase : Talk) (result : Option Err) (last : Talk) : Prop :=
  ∃ stage, last = phase.put stage ∧ stage.live = true ∧ (result = none → stage = .answered)

theorem responded_failed (phase : Talk) {stage : Stage} (live : stage.live = true) (err : Err) :
    Responded phase (some err) (phase.put stage) := ⟨stage, rfl, live, nofun⟩

variable (answering : Answering phase message response)
include answering

theorem chunk_talks (data : Bytes) :
    Follows talk (fun _ last => last = phase.put .reading)
      (response.sync.write { type := .data, parameter := response.messageID, length := UInt64.ofNat data.length } data)
      (phase.put .reading) := by
  rw [answering.sync, answering.messageID]
  exact write_talks answering.handles answering.role rfl (.inr rfl)
    (congrArg _ (said_part .data answering.query (by decide)))

theorem timeout_talks (text : Bytes) :
    Follows talk (fun _ last => last = phase.put .late) (response.sync.writeError ErrorCode.responseTimeout text)
      (phase.put .reading) := by
  rw [answering.sync]
  exact write_talks answering.handles answering.role rfl (.inl rfl) (congrArg _ (said_timeout answering.query))

theorem terminate_talks {stage : Stage} {final : Bytes} (ends : stage.after (.finish final.isEmpty) = some .answered) :
    Follows talk (fun result last => Responded phase result last) (terminate response final) (phase.put stage) := by
  have writes : Follows talk (fun _ last => last = phase.put .answered)
      (response.sync.write { type := .dataEnd, parameter := response.messageID, length := UInt64.ofNat final.length }
        final) (phase.put stage) := by
    rw [answering.sync, answering.messageID]
    exact write_talks answering.handles answering.role rfl (.inr rfl)
      ((congrArg _ (said_part .dataEnd answering.query (by decide))).trans ends)
  refine Follows.bind writes fun failed last same => ?_
  rw [same]
  cases failed with
  | some err => exact responded_failed phase rfl err
  | none =>
    refine quiet_step answering.handles rfl fun _ => quiet_step answering.handles rfl fun _ => ?_
    exact quiet_last answering.handles rfl fun _ => ⟨.answered, rfl, rfl, fun _ => rfl⟩

theorem completeAbsentResponse_talks :
    Follows talk (fun result last => Responded phase result.2 last) (completeAbsentResponse response)
      (phase.put .reading) := by
  refine Follows.bind (timeout_talks answering _) fun failed last same => ?_
  rw [same]
  cases failed with
  | some err => exact responded_failed phase rfl err
  | none =>
    refine quiet_step answering.handles rfl fun (refused : Option Err) => ?_
    cases refused with
    | some err => exact responded_failed phase rfl err
    | none => exact Follows.bind (terminate_talks answering rfl) fun _ _ responded => responded

theorem completeTruncatedResponse_talks :
    Follows talk (fun result last => Responded phase result.2 last) (completeTruncatedResponse response)
      (phase.put .reading) := by
  refine Follows.bind (timeout_talks answering _) fun failed last same => ?_
  rw [same]
  cases failed with
  | some err => exact responded_failed phase rfl err
  | none => exact Follows.bind (terminate_talks answering rfl) fun _ _ responded => responded

theorem sendInterrupted_talks : Follows talk (Responded phase) (sendInterrupted response) (phase.put .reading) := by
  refine quiet_step answering.handles rfl fun (refused : Option Err) => ?_
  cases refused with
  | some err => exact responded_failed phase rfl err
  | none =>
    have notice : Follows talk (fun _ last => last = phase.put .noticed)
        (response.async.write { type := .asyncInterrupted, parameter := response.messageID } [])
        (phase.put .reading) := by
      rw [answering.async, answering.messageID]
      exact write_talks answering.handles answering.role rfl (.inl rfl)
        (congrArg _ (said_part .asyncInterrupted answering.query (by decide)))
    have interrupt : Follows talk (fun _ last => last = phase.put .answered)
        (response.sync.write { type := .interrupted, parameter := response.messageID } [])
        (phase.put .noticed) := by
      rw [answering.sync, answering.messageID]
      exact write_talks answering.handles answering.role rfl (.inl rfl)
        (congrArg _ (said_part .interrupted answering.query (by decide)))
    refine quiet_step answering.handles rfl fun _ => Follows.bind notice fun failed last same => ?_
    rw [same]
    cases failed with
    | some err => exact responded_failed phase rfl err
    | none =>
      refine Follows.bind interrupt fun failed last same => ?_
      rw [same]
      cases failed with
      | some err => exact responded_failed phase rfl err
      | none => exact quiet_last answering.handles rfl fun _ => ⟨.answered, rfl, rfl, fun _ => rfl⟩

theorem offerTerminator_talks (final : Bytes) :
    Follows talk (fun result last => Responded phase result.2 last) (offerTerminator response final)
      (phase.put .reading) := by
  refine hushed_bind answering.handles (ask_within response.inputQueued) (by decide) fun queued _ =>
    Follows.ite (fun _ => ?_) fun _ => ?_
  · exact Follows.bind (sendInterrupted_talks answering) fun _ _ responded => responded
  · refine quiet_step answering.handles rfl fun (refused : Option Err) => ?_
    cases refused with
    | some err => exact responded_failed phase rfl err
    | none => exact Follows.bind (terminate_talks answering rfl) fun _ _ responded => responded

theorem sendChunk_talks (result : ReadResult) :
    Follows talk (fun _ last => last = phase.put .reading) (sendChunk response result) (phase.put .reading) := by
  refine Follows.ite (fun _ => rfl) fun _ => quiet_step answering.handles rfl fun (refused : Option Err) => ?_
  cases refused with
  | some err => rfl
  | none =>
    refine Follows.ite (fun _ => Follows.bind (chunk_talks answering result.data) fun failed last same => ?_) fun _ => rfl
    cases failed <;> exact same

theorem responseLoop_talks (ctx : Ctx) (fuel : Nat) (delivered : UInt64) {stage : Stage}
    (reads : stage.after .read = some .reading) :
    Follows talk (fun result last => Responded phase result.2 last) (responseLoop ctx response fuel delivered)
      (phase.put stage) := by
  induction fuel generalizing delivered stage with
  | zero => exact exhausted_talks answering.handles
  | succ fuel ih =>
    have read : Follows talk (fun _ last => last = phase.put .reading) (Act.environment (.read ctx response.scratch))
        (phase.put stage) :=
      environment_talks answering.handles answering.role ((congrArg _ (if_pos ⟨rfl, answering.query⟩)).trans reads)
    refine Follows.bind read fun (result : ReadResult) last same => ?_
    rw [same]
    refine Follows.bind (sendChunk_talks answering result) fun sent last same => ?_
    rw [same]
    cases sent with
    | error refused => exact responded_failed phase rfl refused.2
    | ok sent =>
      cases result.err with
      | some err =>
        exact Follows.ite (fun _ => completeAbsentResponse_talks answering)
          fun _ => completeTruncatedResponse_talks answering
      | none => exact Follows.ite (fun _ => offerTerminator_talks answering result.data) fun _ => ih _ rfl

end Responses

section Synchronous
variable {phase : Talk} {message : Message} (handling : Handling phase message)
include handling

theorem sendResponse_talks (ctx : Ctx) {async : Option MessageWriter} (found : ∀ writer, async = some writer →
      writer = ⟨.asynchronous⟩)
    (role : phase.role = .synchronous) (query : message.header.type = .dataEnd) (scratch fuel : Nat)
    (inputQueued : Option InputQueued) :
    Follows talk (fun result last => Responded phase result.2 last)
      (sendResponse ctx ⟨some ⟨.synchronous⟩, async, message.header.messageID, scratch, inputQueued⟩ fuel)
      (phase.put .taken) := by
  cases async with
  | none => exact responded_failed phase rfl _
  | some async =>
    refine Quiet.bind validate_quiet handling.handles fun checked right => ?_
    cases checked with
    | error err => exact responded_failed phase rfl err
    | ok checked =>
      obtain ⟨sync, same, messageID⟩ := right checked rfl
      have answering : Answering phase message checked :=
        ⟨handling.handles, role, query, sync, same.trans (found async rfl), messageID⟩
      refine quiet_step handling.handles rfl fun (refused : Option Err) => ?_
      cases refused with
      | some err => exact responded_failed phase rfl err
      | none =>
        refine quiet_step handling.handles rfl fun _ => ?_
        refine Follows.bind (responseLoop_talks answering ctx fuel 0 rfl) fun result last responded => ?_
        obtain ⟨stage, rfl, live, whole⟩ := responded
        exact quiet_step handling.handles rfl fun _ => ⟨stage, rfl, live, whole⟩

theorem releaseOperation_closes (number : Nat) (result : Option Err) {last : Talk}
    (closes : Closes phase message result last) :
    Follows talk (Closes phase message) (releaseOperation number >>= fun _ => Pure.pure result) last := by
  obtain ⟨stage, rfl, settled⟩ := closes
  exact hushed_bind handling.handles (releaseOperation_within number) (by decide) fun _ _ => ⟨stage, rfl, settled⟩

omit handling in
theorem settled_free {role : Channel} {stage : Stage} (rests : stage.rests = true) (free : owed role message = false) :
    Settled role message stage := by
  refine ⟨rests, fun owes => ?_⟩
  rw [free] at owes
  cases owes

def Taken (phase : Talk) (result : Interrupted × Option Err) (last : Talk) : Prop :=
  ∃ stage, last = phase.put stage ∧ stage.live = true ∧ (result.2 = none → stage = .taken)

theorem receiveData_talks (role : phase.role = .synchronous)
    (typed : message.header.type = .data ∨ message.header.type = .dataEnd) :
    Follows talk (Taken phase) (receiveData message.header message.payload) (phase.put .start) := by
  refine Follows.ite (fun _ => ⟨.start, rfl, rfl, nofun⟩) fun _ => ?_
  refine quiet_step handling.handles rfl fun interrupted => quiet_step handling.handles rfl fun _ => ?_
  refine quiet_step handling.handles rfl fun (refused : Option Err) => ?_
  cases refused with
  | some err => exact ⟨.start, rfl, rfl, nofun⟩
  | none =>
    have handed : deed .synchronous message
        (.write .server message.payload (decide (message.header.type = .dataEnd))) = .handed := by
      simp [deed, hands, typed]
    refine Follows.bind (environment_talks handling.handles role (congrArg _ handed)) fun failed last same => ?_
    exact ⟨.taken, same, rfl, fun _ => rfl⟩

theorem trigger_talks (role : phase.role = .synchronous) (typed : message.header.type = .trigger) :
    Follows talk (Taken phase) (trigger message.header) (phase.put .start) := by
  refine Follows.ite (fun _ => ⟨.start, rfl, rfl, nofun⟩) fun _ => ?_
  refine Quiet.bind requireReady_quiet handling.handles fun refused _ => ?_
  cases refused with
  | some err => exact ⟨.start, rfl, rfl, nofun⟩
  | none =>
    refine quiet_step handling.handles rfl fun interrupted => quiet_step handling.handles rfl fun _ => ?_
    refine quiet_step handling.handles rfl fun (refused : Option Err) => ?_
    cases refused with
    | some err => exact ⟨.start, rfl, rfl, nofun⟩
    | none =>
      have handed : deed .synchronous message (.trigger .server) = .handed := by simp [deed, hands, typed]
      refine Follows.bind (environment_talks handling.handles role (congrArg _ handed)) fun failed last same => ?_
      rw [same]
      cases failed with
      | some err => exact ⟨.taken, rfl, rfl, nofun⟩
      | none => exact quiet_step handling.handles rfl fun _ => ⟨.taken, rfl, rfl, fun _ => rfl⟩

variable (role : phase.role = .synchronous) (free : owed phase.role message = false)
include role free

theorem answerProgramMessage_closes (config : Config) (fuel : Nat) (query : message.header.type = .dataEnd) :
    Follows talk (Closes phase message) (answerProgramMessage config message.header (some ⟨.synchronous⟩) fuel)
      (phase.put .taken) := by
  refine quiet_step handling.handles rfl fun disposition => Follows.ite (fun _ => ?_) fun _ => ?_
  · exact quiet_last handling.handles rfl fun _ => ⟨.taken, rfl, fun _ => settled_free rfl free⟩
  refine hushed_bind handling.handles operation_within (by decide) fun number _ => ?_
  have other : noisy phase.role (.shared (.session .asyncWriter)) = false := by simp [noisy, begins, role]
  refine wired_step handling.handles other fun (async : Option MessageWriter) found => ?_
  refine quiet_step handling.handles rfl fun limit => Quiet.bind syncPending_quiet handling.handles fun queued _ => ?_
  refine Follows.bind (sendResponse_talks handling _ found.1 role query _ fuel _) fun result last responded => ?_
  obtain ⟨outcome, err⟩ := result
  obtain ⟨stage, rfl, live, whole⟩ := responded
  refine hushed_bind handling.handles (countOutcome_within outcome) (by decide) fun _ _ => ?_
  have writer : (⟨.synchronous⟩ : MessageWriter) = ⟨phase.role⟩ := by rw [role]
  cases err with
  | some err =>
    rw [writer]
    exact Follows.bind (reportOperationError_closes handling live err) fun result last closes =>
      releaseOperation_closes handling number result closes
  | none =>
    obtain rfl := whole rfl
    exact releaseOperation_closes handling number none ⟨.answered, rfl, fun _ => settled_free rfl free⟩

theorem handleData_closes (config : Config) (fuel : Nat)
    (typed : message.header.type = .data ∨ message.header.type = .dataEnd) :
    Follows talk (Closes phase message) (handleData config message (some ⟨phase.role⟩) fuel) (phase.put .start) := by
  refine Follows.bind (receiveData_talks handling role typed) fun result last taken => ?_
  obtain ⟨interrupted, err⟩ := result
  obtain ⟨stage, rfl, live, whole⟩ := taken
  refine hushed_bind handling.handles (countInterrupted_within interrupted) (by decide) fun _ _ => ?_
  cases err with
  | some err => exact reportOperationError_closes handling live err
  | none =>
    obtain rfl := whole rfl
    have rest : Follows talk (Closes phase message) (if message.header.type ≠ .dataEnd then Pure.pure none
        else answerProgramMessage config message.header (some ⟨phase.role⟩) fuel) (phase.put .taken) := by
      refine Follows.ite (fun _ => ⟨.taken, rfl, fun _ => settled_free rfl free⟩) fun query => ?_
      rw [show (⟨phase.role⟩ : MessageWriter) = ⟨.synchronous⟩ by rw [role]]
      exact answerProgramMessage_closes handling role free config fuel (not_not.mp query)
    exact Follows.ite (fun _ => quiet_step handling.handles rfl fun _ => rest) fun _ => rest

theorem handleTrigger_closes (typed : message.header.type = .trigger) :
    Follows talk (Closes phase message) (handleTrigger message (some ⟨phase.role⟩)) (phase.put .start) := by
  refine Follows.bind (trigger_talks handling role typed) fun result last taken => ?_
  obtain ⟨interrupted, err⟩ := result
  obtain ⟨stage, rfl, live, whole⟩ := taken
  refine hushed_bind handling.handles (countInterrupted_within interrupted) (by decide) fun _ _ => ?_
  cases err with
  | some err => exact reportOperationError_closes handling live err
  | none =>
    obtain rfl := whole rfl
    exact quiet_step handling.handles rfl fun _ => ⟨.taken, rfl, fun _ => settled_free rfl free⟩

omit free in
theorem handleDeviceClearComplete_closes (profile : Profile) (typed : message.header.type = .deviceClearComplete) :
    Follows talk (Closes phase message) (handleDeviceClearComplete profile.toConfig message (some ⟨phase.role⟩))
      (phase.put .start) := by
  have completes : Follows talk
      (fun result last => result.1 = { type := .deviceClearAcknowledge } ∧ last = phase.put .taken)
      (completeDeviceClear profile.toConfig message.header) (phase.put .start) := by
    refine Follows.ite (fun other => absurd typed other) fun _ => quiet_step handling.handles rfl fun _ => ?_
    refine quiet_step handling.handles rfl fun _ => ?_
    have handed : deed .synchronous message (.clear .server) = .handed := by simp [deed, hands, typed]
    refine Follows.bind (environment_talks handling.handles role (congrArg _ handed)) fun failed last same => ?_
    exact ⟨by rw [profile.featureBitmap_eq], same⟩
  refine Follows.bind completes fun result last done => ?_
  obtain ⟨ack, clearErr⟩ := result
  obtain ⟨rfl, rfl⟩ := done
  have acknowledge : Follows talk (fun _ last => last = phase.put .answered)
      (writeVia (some ⟨phase.role⟩) { type := .deviceClearAcknowledge } []) (phase.put .taken) := by
    rw [role]
    exact write_talks handling.handles role rfl (.inl rfl) (congrArg _ (said_acknowledge typed))
  refine Follows.bind acknowledge fun failed last same => ?_
  rw [same]
  cases failed with
  | some err => exact ⟨.answered, rfl, nofun⟩
  | none =>
    refine quiet_step handling.handles rfl fun _ => ?_
    cases clearErr with
    | some err => exact reportOperationError_closes handling rfl err
    | none => exact ⟨.answered, rfl, fun _ => ⟨rfl, fun _ => .inl rfl⟩⟩

omit role in
theorem otherSync_closes (found : Server.Class) :
    Follows talk (Closes phase message) (otherSync message.header found (some ⟨phase.role⟩)) (phase.put .start) := by
  refine Follows.ite (fun _ => quiet_step handling.handles rfl fun _ => ⟨.start, rfl, nofun⟩) fun _ => ?_
  refine Follows.ite (fun _ => quiet_step handling.handles rfl fun _ => ?_) fun _ => ?_
  · exact ⟨.start, rfl, fun _ => settled_free rfl free⟩
  refine Follows.ite (fun _ => ?_) fun _ => ?_
  · exact Follows.bind (writeFatalError_talks handling rfl (by decide) _) fun _ last same => ⟨.ended, same, nofun⟩
  · exact Follows.ite (fun _ => quiet_step handling.handles rfl fun _ => writeError_closes handling rfl (by decide) _)
      fun _ => quiet_step handling.handles rfl fun _ => writeError_closes handling rfl (by decide) _

end Synchronous

section Asynchronous
variable {phase : Talk} {message : Message} {form : Form}

/-- What an asynchronous operation answers may be sent as the reply to its request. -/
def Replies (phase : Talk) (form : Form) (answer : Except Err Header) (last : Talk) : Prop :=
  ∃ stage, last = phase.put stage ∧ stage.live = true ∧ ∀ header, answer = .ok header →
    header.type = form.type ∧ form.controls header.control = true ∧ header.length = 0 ∧
      stage.after (.reply form.polled) = some .closed

theorem replies_error (phase : Talk) (form : Form) {stage : Stage} (live : stage.live = true) (err : Err) :
    Replies phase form (.error err) (phase.put stage) := ⟨stage, rfl, live, fun _ => nofun⟩

theorem replies_ok {header : Header} {stage : Stage} (live : stage.live = true) (typed : header.type = form.type)
    (control : form.controls header.control = true) (plain : header.length = 0)
    (ready : stage.after (.reply form.polled) = some .closed) : Replies phase form (.ok header) (phase.put stage) := by
  refine ⟨stage, rfl, live, fun _ same => ?_⟩
  cases same
  exact ⟨typed, control, plain, ready⟩

variable (handling : Handling phase message)
include handling

theorem answerAsync_closes {answer : Except Err Header} {last : Talk} (role : phase.role = .asynchronous)
    (listed : form ∈ forms) (asked : message.header.type = form.request) (legal : form.type.legalOn .asynchronous)
    (size : form.size = 0) (replies : Replies phase form answer last) :
    Follows talk (Closes phase message) (answerAsync ⟨.asynchronous⟩ answer) last := by
  obtain ⟨stage, rfl, live, right⟩ := replies
  cases answer with
  | error err =>
    rw [← role]
    exact reportOperationError_closes handling live err
  | ok header =>
    obtain ⟨typed, control, plain, ready⟩ := right header rfl
    have heard : said .asynchronous message .asynchronous { header with length := UInt64.ofNat ([] : Bytes).length } [] =
        .reply form.polled := said_reply listed asked typed control rfl size.symm
    have written := write_talks handling.handles role (typed ▸ legal) (.inl plain) ((congrArg _ heard).trans ready)
    exact written.mono fun _ last same => ⟨.closed, same, fun _ => settled_closed _ _⟩

theorem beginDeviceClear_replies (profile : Profile) :
    Follows talk (Replies phase .clear) (beginDeviceClear profile.toConfig) (phase.put .start) := by
  refine Quiet.bind requireReady_quiet handling.handles fun refused _ => ?_
  cases refused with
  | some err => exact replies_error phase _ rfl err
  | none =>
    refine hushed_bind handling.handles abortOperation_within (by decide) fun _ _ =>
      quiet_step handling.handles rfl fun _ => quiet_step handling.handles rfl fun (refused : Option Err) => ?_
    cases refused with
    | some err => exact replies_error phase _ rfl err
    | none =>
      refine quiet_step handling.handles rfl fun _ => replies_ok rfl rfl ?_ rfl rfl
      rw [profile.featureBitmap_eq]
      rfl

theorem statusQuery_replies (role : phase.role = .asynchronous) (typed : message.header.type = .asyncStatusQuery) :
    Follows talk (Replies phase .status) (statusQuery message.header) (phase.put .start) := by
  refine Follows.ite (fun _ => replies_error phase _ rfl _) fun _ => ?_
  refine Quiet.bind requireReady_quiet handling.handles fun refused _ => ?_
  cases refused with
  | some err => exact replies_error phase _ rfl err
  | none =>
    have handed : deed .asynchronous message (.readStatusByte .server) = .handed := by simp [deed, hands, typed]
    refine quiet_step handling.handles rfl fun _ =>
      Follows.bind (environment_talks handling.handles role (congrArg _ handed)) fun (read : Except Err UInt8) last same => ?_
    rw [same]
    cases read with
    | error err => exact replies_error phase _ rfl err
    | ok device =>
      refine quiet_step handling.handles rfl fun _ => quiet_step handling.handles rfl fun _ => ?_
      exact Follows.ite (fun _ => replies_ok rfl rfl rfl rfl rfl) fun _ => replies_ok rfl rfl rfl rfl rfl

theorem remoteLocal_replies (role : phase.role = .asynchronous)
    (typed : message.header.type = .asyncRemoteLocalControl) :
    Follows talk (Replies phase .remoteLocal) (remoteLocal message.header) (phase.put .start) := by
  refine Follows.ite (fun _ => replies_error phase _ rfl _) fun _ => ?_
  refine Quiet.bind requireReady_quiet handling.handles fun refused _ => ?_
  cases refused with
  | some err => exact replies_error phase _ rfl err
  | none =>
    refine Follows.ite (fun _ => replies_error phase _ rfl _) fun defined => ?_
    have handed : deed .asynchronous message (.remoteLocal .server message.header.control) = .handed := by
      simp [deed, hands, typed, UInt8.not_lt.mp defined]
    refine Follows.bind (environment_talks handling.handles role (congrArg _ handed)) fun (failed : Option Err) last same => ?_
    rw [same]
    cases failed with
    | some err => exact replies_error phase _ rfl err
    | none => exact replies_ok rfl rfl rfl rfl rfl

omit handling in
theorem code_le (result : LockResult) : Form.lock.controls result.code = true := by cases result <;> rfl

theorem lock_replies (fuel : Nat) :
    Follows talk (Replies phase .lock) (lock message.header message.payload fuel) (phase.put .start) := by
  refine Follows.ite (fun _ => replies_error phase _ rfl _) fun _ => ?_
  refine Quiet.bind requireReady_quiet handling.handles fun refused _ => ?_
  cases refused with
  | some err => exact replies_error phase _ rfl err
  | none =>
    refine Follows.ite (fun _ => quiet_step handling.handles rfl fun id => ?_) fun _ => Follows.ite (fun _ => ?_) fun _ =>
      replies_error phase _ rfl _
    · exact hushed_bind handling.handles (ofRequest_within _) (by decide) fun result _ =>
        replies_ok rfl rfl (code_le result) rfl rfl
    · exact quiet_step handling.handles rfl fun id => quiet_step handling.handles rfl fun result =>
        replies_ok rfl rfl (code_le result) rfl rfl

theorem lockInfo_replies : Follows talk (Replies phase .lockInfo) (lockInfo message.header) (phase.put .start) := by
  refine Follows.ite (fun _ => replies_error phase _ rfl _) fun _ => ?_
  refine Quiet.bind requireReady_quiet handling.handles fun refused _ => ?_
  cases refused with
  | some err => exact replies_error phase _ rfl err
  | none =>
    refine quiet_step handling.handles rfl fun (found : Bool × Nat) => replies_ok rfl rfl ?_ rfl rfl
    obtain ⟨exclusive, holders⟩ := found
    cases exclusive <;> rfl

theorem maximumMessageSize_closes (role : phase.role = .asynchronous) (config : Config)
    (typed : message.header.type = .asyncMaximumMessageSize) :
    Follows talk (Closes phase message)
      (do
        let (header, agreed) ← maximumMessageSize config (decodeMaxSize message.payload)
        MessageWriter.write ⟨.asynchronous⟩ header (putUint64 agreed)) (phase.put .start) := by
  have replies (agreed : UInt64) : Follows talk (Closes phase message)
      (MessageWriter.write ⟨.asynchronous⟩ { type := .asyncMaximumMessageSizeResponse, length := 8 } (putUint64 agreed))
      (phase.put .start) := by
    have listed : Form.maximumMessageSize ∈ forms := by simp [forms]
    have heard : said .asynchronous message .asynchronous { type := .asyncMaximumMessageSizeResponse, length := 8 }
        (putUint64 agreed) = .reply false := said_reply listed typed rfl rfl rfl rfl
    refine Follows.mono (write_talks handling.handles role rfl (.inr rfl) (congrArg _ heard)) fun _ last same => ?_
    exact ⟨.closed, same, fun _ => settled_closed _ _⟩
  unfold maximumMessageSize
  split
  next large => exact quiet_step handling.handles rfl fun _ => replies config.maxRxPayload
  next => exact replies config.maxRxPayload

end Asynchronous

section Loops
variable {phase : Talk} {message : Message} {rest : List Turn} (profile : Profile)

def Listens (role : Channel) (turns : List Turn) (phase : Talk) : Prop :=
  phase.role = role ∧ phase.coming = turns ∧ phase.Rests

def Ends (result : Option Err) (phase : Talk) : Prop := phase.stage = .ended → result ≠ none

theorem Listens.take {role : Channel} (listens : Listens role (.message message :: rest) phase) :
    phase.take = Talk.put ⟨role, rest, some message, .start⟩ .start := by
  obtain ⟨same, coming, -⟩ := listens
  simp only [Talk.take, coming, Talk.put, same]

theorem Closes.listens {role : Channel} {result : Option Err} {last : Talk}
    (closes : Closes ⟨role, rest, some message, .start⟩ message result last) :
    result.elim (Listens role rest last) fun err => Ends (some err) last := by
  obtain ⟨stage, rfl, settled⟩ := closes
  cases result with
  | some err => exact fun _ => nofun
  | none =>
    have settled := settled rfl
    refine ⟨rfl, rfl, settled.1, fun _ same => ?_⟩
    cases same
    exact settled

theorem handler_talks {role : Channel} {op : Op} {next : op.Reply → Act (Option Err)} (begin : begins role op = true)
    (listens : Listens role (.message message :: rest) phase)
    (closes : ∀ reply, wired role op reply → Follows talk (Closes ⟨role, rest, some message, .start⟩ message)
      (next reply) (Talk.put ⟨role, rest, some message, .start⟩ .start)) :
    Follows talk (fun result last => result.elim (Listens role rest last) fun err => Ends (some err) last)
      (Program.perform op >>= next) phase := by
  obtain rfl := listens.1
  cases op with
  | environment op => cases begin
  | shared op =>
    refine Follows.step (fun _ => listens.2.2) fun reply found => ?_
    have moved : talk.advance phase (.shared op) reply = phase.take := by simp only [talk, begin, if_true]
    rw [moved, listens.take]
    exact (closes reply found).mono fun _ _ => Closes.listens

theorem handleSync_talks (fuel : Nat) (listens : Listens .synchronous (.message message :: rest) phase) :
    Follows talk (fun result last => result.elim (Listens .synchronous rest last) fun err => Ends (some err) last)
      (handleSync profile.toConfig message fuel) phase := by
  refine handler_talks rfl listens fun (writer : Option MessageWriter) found => ?_
  have handling : Handling ⟨.synchronous, rest, some message, .start⟩ message := ⟨rfl, .inl rfl⟩
  cases writer with
  | none => exact absurd rfl (found.2 rfl)
  | some writer =>
    obtain rfl := found.1 writer rfl
    cases failed : message.err with
    | some err => exact reportReadError_closes handling rfl err
    | none =>
      have owes : owed .synchronous message = decide (message.header.type = .deviceClearComplete) := by
        simp [owed, failed]
      refine Quiet.bind (discardDuringClear_quiet message.header) handling.handles fun discarded plain =>
        Follows.ite (fun yes => ?_) fun _ => ?_
      · exact ⟨.start, rfl, fun _ => settled_free rfl (owes.trans (decide_eq_false (plain yes)))⟩
      refine Quiet.bind (accept_quiet message.header .synchronous) handling.handles fun result refusal => ?_
      cases result with
      | error err => exact reportAcceptError_closes handling rfl (refusal err rfl)
      | ok found =>
        have free (other : message.header.type ≠ .deviceClearComplete) : owed .synchronous message = false :=
          owes.trans (decide_eq_false other)
        refine Follows.ite (fun typed => ?_) fun _ => ?_
        · refine handleData_closes handling rfl (free fun same => ?_) profile.toConfig fuel typed
          rw [same] at typed
          revert typed
          decide
        refine Follows.ite (fun typed => ?_) fun _ => ?_
        · exact handleTrigger_closes handling rfl (free (by rw [typed]; decide)) typed
        refine Follows.ite (fun typed => ?_) fun other => ?_
        · exact handleDeviceClearComplete_closes handling rfl profile typed
        · exact otherSync_closes handling (free other) found

theorem handleAsync_talks (fuel : Nat) (attends : Listens .asynchronous (.message message :: rest) phase) :
    Follows talk (fun result last => result.elim (Listens .asynchronous rest last) fun err => Ends (some err) last)
      (handleAsync profile.toConfig message fuel) phase := by
  refine handler_talks rfl attends fun (writer : Option MessageWriter) found => ?_
  have handling : Handling ⟨.asynchronous, rest, some message, .start⟩ message := ⟨rfl, .inr rfl⟩
  cases writer with
  | none => exact absurd rfl (found.2 rfl)
  | some writer =>
    obtain rfl := found.1 writer rfl
    cases failed : message.err with
    | some err => exact reportReadError_closes handling rfl err
    | none =>
      refine Quiet.bind (accept_quiet message.header .asynchronous) handling.handles fun result refusal => ?_
      cases result with
      | error err => exact reportAcceptError_closes handling rfl (refusal err rfl)
      | ok found =>
        have answer {form : Form} (listed : form ∈ forms) (asked : message.header.type = form.request)
            (legal : form.type.legalOn .asynchronous) (size : form.size = 0) (answer : Except Err Header) (last : Talk)
            (replies : Replies _ form answer last) := answerAsync_closes handling rfl listed asked legal size replies
        refine Follows.ite (fun typed => ?_) fun _ => ?_
        · exact Follows.bind (beginDeviceClear_replies handling profile) (answer (by simp [forms]) typed rfl rfl)
        refine Follows.ite (fun typed => ?_) fun _ => ?_
        · refine Follows.bind (statusQuery_replies handling rfl typed) fun found last replies => ?_
          obtain ⟨stage, rfl, live, right⟩ := replies
          refine quiet_step handling.handles rfl fun _ => ?_
          exact answer (by simp [forms]) typed rfl rfl found _ ⟨stage, rfl, live, right⟩
        refine Follows.ite (fun typed => ?_) fun _ => ?_
        · exact Follows.bind (lock_replies handling fuel) (answer (by simp [forms]) typed rfl rfl)
        refine Follows.ite (fun typed => ?_) fun _ => ?_
        · exact Follows.bind (lockInfo_replies handling) (answer (by simp [forms]) typed rfl rfl)
        refine Follows.ite (fun typed => ?_) fun _ => ?_
        · exact Follows.bind (remoteLocal_replies handling rfl typed) (answer (by simp [forms]) typed rfl rfl)
        refine Follows.ite (fun typed => maximumMessageSize_closes handling rfl profile.toConfig typed) fun _ => ?_
        refine Follows.ite (fun _ => ?_) fun _ => ?_
        · exact Follows.bind (writeFatalError_talks handling rfl (by decide) []) fun _ last same => ⟨.ended, same, nofun⟩
        refine Follows.ite (fun _ => quiet_step handling.handles rfl fun _ => ⟨.start, rfl, nofun⟩) fun _ => ?_
        refine Follows.ite (fun typed => quiet_step handling.handles rfl fun _ => ?_) fun _ => ?_
        · exact ⟨.start, rfl, fun _ => settled_free rfl (by simp [owed, failed, typed])⟩
        · exact quiet_step handling.handles rfl fun _ => writeError_closes handling rfl (by decide) _

theorem hears_exhausted (phase : Talk) : phase.hears .exhausted = some phase.stage := by
  obtain ⟨role, coming, message, stage⟩ := phase
  cases message with
  | none => rfl
  | some message => cases stage <;> rfl

theorem talk_rules :
    Rules profile talk (Listens .synchronous) (Listens .asynchronous) Ends where
  sync _ _ _ fuel listens := handleSync_talks profile fuel listens
  async _ _ _ fuel attends := handleAsync_talks profile fuel attends
  ending _ phase waiting _ ended := by
    have rests : phase.stage.rests = true := waiting.elim (·.2.2.1) (·.2.2.1)
    rw [ended] at rests
    cases rests
  waits _ phase _ := by simp only [talk, hears_exhausted, Option.isSome_some]

end Loops

end Hislip.Proofs.Grammar
