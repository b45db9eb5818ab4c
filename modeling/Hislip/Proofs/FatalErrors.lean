import Hislip.Threads
import Hislip.Server.Channels
import Hislip.Proofs.Reporting
import Hislip.Proofs.Teardown

/-! The FatalErrors counter against the FatalErrors that go out and come in. Refusals and
failed operations are written and counted in one handler; a bad sub-address and a second
initialization are written and never counted. -/

namespace Hislip.Proofs.FatalErrors
open Hislip.Server Hislip.Threads Transition Program Footprint Teardown
open Reporting (Counts Reports Takes ends quiet outcome handleSync_reports handleAsync_reports)

variable {σ : Type}

/-- A connection is served until its loop waits, and every message that a loop finds is a
task of its own. -/
inductive Task where
  | serve (source : Source) (stream : Stream)
  | sync (session : Nat) (message : Message) (fuel : Nat)
  | async (session : Nat) (message : Message) (fuel : Nat)
  | removeSession (session : Nat)
  | closeAll

/-- An initialization of this type, read whole and within the limit. -/
def initializes (type : MessageType) (limit : UInt64) (message : Message) : Bool :=
  message.err = none ∧ message.header.type = type ∧ checkLength message.header.length limit = none

namespace Task

def program (profile : Profile) : Task → ServerProgram (Option Err)
  | .serve source stream => ServerProgram.serve profile source stream 0 [] []
  | .sync session message fuel => .ofLoop session (handleSync profile.toConfig message fuel)
  | .async session message fuel => .ofLoop session (handleAsync profile.toConfig message fuel)
  | .removeSession session => ServerProgram.removeSession session
  | .closeAll => ServerProgram.closeAll

def handles : Task → Option Err → Bool
  | .sync _ message _, result | .async _ message _, result => ends message result
  | _, _ => false

def misaddressed (profile : Profile) : Task → Bool
  | .serve source _ =>
    match opening profile.maxRxPayload source with
    | .sync _ (.error _) _ => true
    | _ => false
  | _ => false

/-- What a task writes beyond what it counts, second initializations apart. -/
def due (profile : Profile) (task : Task) (result : Option Err) : Int :=
  (task.misaddressed profile).toNat - (task.handles result).toNat

end Task

/-- The server, how many FatalErrors its streams took, and how often a session was
initialized a second time. -/
structure Books (σ : Type) where
  registry : Registry σ := {}
  written : Nat := 0
  repeated : Nat := 0

def Books.fatalErrors (books : Books σ) : UInt64 := UInt64.ofNat (books.registry.counters .fatalErrors)

/-- By this operation a loop turns to another initialization of its session. The synchronous
loop looks whether a Device Clear is going on, the asynchronous one for its writer. -/
def Books.repeats (books : Books σ) : Task → ServerOp → Bool
  | .sync session message _, .session number .state => number = session ∧
    books.registry.made[session]?.any fun found =>
      found.state ≠ .clearing ∧ initializes .initializeRequest found.maxRx message
  | .async session message _, .session number .asyncWriter => number = session ∧
    books.registry.made[session]?.any fun found =>
      found.asyncW.isSome ∧ initializes .asyncInitialize found.maxRx message
  | _, _ => false

def fatal : ServerOp → Bool
  | .environment (.send _ header _) => header.type = .fatalError
  | _ => false

def counted : ServerOp → Bool
  | .count counter => counter = .fatalErrors
  | _ => false

def accepting (outside : Outside) : Outside
  | .environment (.send _ _ _) => some none
  | op => outside op

def Books.apply (profile : Profile) (policy : ResponsePolicy σ) (op : ServerOp) (outside : Outside) (books : Books σ) :
    Option (op.Reply × Books σ) :=
  (op.apply profile policy (accepting outside) books.registry).map fun result =>
    (result.1, { books with registry := result.2, written := books.written + (fatal op).toNat })

abbrev Traffic (σ : Type) : Type := Pool Task (Books σ) ServerOp.Reply (Option Err)

namespace Traffic

/-- The synchronous loop runs once the session has its writer. -/
def Enters (books : Books σ) : Move Task Outside → Bool
  | .start (.sync session _ _) => (books.registry.made[session]?.bind (·.syncW)).isSome
  | _ => true

def Repeats (traffic : Traffic σ) : Move Task Outside → Bool
  | .advance thread _ =>
    match traffic.threads[thread]? with
    | some (task, .request op _) => traffic.shared.repeats task op
    | _ => false
  | .start _ => false

def step (profile : Profile) (policy : ResponsePolicy σ) (traffic : Traffic σ) (move : Move Task Outside) :
    Option (Traffic σ) :=
  if Enters traffic.shared move then
    (Pool.step (Books.apply profile policy) (Task.program profile) traffic move).map fun later =>
      { later with shared.repeated := later.shared.repeated + (Repeats traffic move).toNat }
  else none

/-- Every task is done or waits for the next message of its connection. -/
def Idle (traffic : Traffic σ) : Prop :=
  ∀ thread ∈ traffic.threads, ∀ op, thread.2.head = some op → op = .environment .exhausted

def done (test : Task → Option Err → Bool) (thread : Task × ServerProgram (Option Err)) : Bool :=
  match thread.2 with
  | .pure result => test thread.1 result
  | .request _ _ => false

def handled (traffic : Traffic σ) : Nat := traffic.threads.countP (done Task.handles)

/-- The FatalErrors that were written and not counted: for sub-addresses that could not be
read, and for second initializations. -/
def slipped (profile : Profile) (traffic : Traffic σ) : Nat :=
  traffic.threads.countP (done fun task _ => task.misaddressed profile) + traffic.shared.repeated

end Traffic

section Handlers
variable {session : Nat} {writer : MessageWriter} {message : Message} {result : Option Err}

def owes (op : ServerOp) : Int := (fatal op).toNat - (counted op).toNat

/-- The phase of a loop is what it has written beyond what it has counted. Writes succeed. -/
def booking (session : Nat) : Discipline Op Op.Reply Int where
  allowed owed op := kind op ≠ .lifecycle ∧ (kind op = .never → owed = 0)
  possible
    | _, .environment (.send _ _ _), reply => reply = none
    | _, _, _ => True
  advance owed op _ := owed + owes (.ofLoop session op)

abbrev Settles {α : Type} (session : Nat) (program : Act α) : Prop :=
  Follows (booking session) (fun _ owed => owed = 0) program 0

theorem booking_spares : Spares (booking session) 0 (quiet · = true) := by
  intro op plain
  simp only [quiet, Bool.and_eq_true, decide_eq_true_eq] at plain
  obtain ⟨⟨lasting, silent⟩, other⟩ := plain
  refine ⟨⟨lasting, fun _ => rfl⟩, fun reply => ?_⟩
  have even : owes (.ofLoop session op) = 0 := by
    cases op with
    | environment op =>
      cases op with
      | send channel header payload =>
        have differs : header.type ≠ .fatalError := fun same => other (congrArg Kind.send same)
        simp [owes, ServerOp.ofLoop, fatal, counted, differs]
      | _ => rfl
    | shared op =>
      cases op with
      | count counter => exact absurd rfl silent
      | _ => rfl
  simp only [booking, even, zero_add]

theorem booking_counts (session : Nat) : Counts (booking session) 0 := by
  intro counter other
  have even : owes (.ofLoop session (.shared (.count counter))) = 0 := by
    simp [owes, ServerOp.ofLoop, fatal, counted, other]
  refine ⟨⟨Kind.noConfusion, fun _ => rfl⟩, fun _ => ?_⟩
  simp only [booking, even, zero_add]

def Duplex (writer : MessageWriter) : Prop := writer.channel = .synchronous ∨ writer.channel = .asynchronous

section
variable (duplex : Duplex writer)
include duplex

theorem Duplex.reports :
    MessageType.fatalError.legalOn writer.channel = true ∧ MessageType.error.legalOn writer.channel = true := by
  obtain same | same := duplex <;> rw [same] <;> decide

theorem writeFatalError_owes (code : FatalErrorCode) (text : Bytes) (owed : Int) :
    Follows (booking session) (fun result left => result = none ∧ left = owed + 1) (writer.writeFatalError code text)
      owed := by
  unfold MessageWriter.writeFatalError
  rw [MessageWriter.write_eq duplex.reports.1 (.inl rfl)]
  exact ⟨⟨Kind.noConfusion, nofun⟩, fun reply taken => ⟨taken, rfl⟩⟩

theorem writeFatalError_then {α : Type} (code : FatalErrorCode) (text : Bytes) {next : Option Err → Act α}
    {post : α → Int → Prop} {owed : Int} (resume : Follows (booking session) post (next none) (owed + 1)) :
    Follows (booking session) post (writer.writeFatalError code text >>= next) owed := by
  refine Follows.bind (writeFatalError_owes duplex code text owed) fun result left taken => ?_
  obtain ⟨rfl, rfl⟩ := taken
  exact resume

theorem writeError_settles (code : ErrorCode) (text : Bytes) :
    Follows (booking session) (fun result owed => result = none ∧ owed = 0) (writer.writeError code text) 0 := by
  unfold MessageWriter.writeError
  rw [MessageWriter.write_eq duplex.reports.2 (.inl rfl)]
  exact ⟨⟨Kind.noConfusion, nofun⟩, fun reply taken => ⟨taken, rfl⟩⟩

theorem reportError_settles (err : Err) (code : ErrorCode → ErrorCode) :
    Follows (booking session) (fun result owed => (result = none ∨ result = some err) ∧ owed = 0)
      (reportError (some writer) err code) 0 := by
  unfold reportError
  cases wireErrorFor err with
  | fatal fatal =>
    refine Follows.step ⟨Kind.noConfusion, nofun⟩ fun _ _ => ?_
    exact writeFatalError_then duplex fatal err.text ⟨.inr rfl, rfl⟩
  | nonFatal nonFatal =>
    refine (booking_counts session).count (by decide) ?_
    exact (writeError_settles duplex _ _).mono fun _ _ left => ⟨.inl left.1, left.2⟩

theorem reportAcceptError_settles (err : Err) :
    Follows (booking session) (fun result owed => (result = none ∨ result = some err) ∧ owed = 0)
      (reportAcceptError (some writer) err) 0 :=
  Follows.ite (fun _ => (booking_counts session).count (by decide) (reportError_settles duplex err id)) fun _ =>
    reportError_settles duplex err id

end

theorem booking_reports (session : Nat) (duplex : Duplex writer) :
    Reports (booking session) 0 (fun _ owed => owed = 0) (some writer) where
  spares := booking_spares
  counts := booking_counts session
  rests _ := rfl
  reports err code := (reportError_settles duplex err code).mono fun _ _ left => left.2
  releases result owed even number := by
    rw [even]
    exact booking_spares.skip (releaseOperation_within number) (by decide) fun _ => rfl

/-- What is left owed after a message: a FatalError of the peer is counted and not written. -/
def excess (message : Message) (result : Option Err) : Int := -(ends message result).toNat

theorem outcome_excess {owed : Int} (met : outcome message (fun _ owed => owed = 0) (· = -1) result owed) :
    owed = excess message result := by
  unfold outcome at met
  unfold excess
  cases left : ends message result <;> simpa [left] using met

theorem ends_of_refusal {err : Err} (refusal : Refusal err) (reported : result = none ∨ result = some err) :
    ends message result = false := by
  obtain ⟨sentinel, member, rfl⟩ := refusal
  refine decide_eq_false fun ⟨_, _, left⟩ => ?_
  rw [left] at reported
  rcases reported with none | same
  · cases none
  · cases same
    exact absurd member (by decide)

theorem booking_takes (session : Nat) (duplex : Duplex writer) {late : MessageType}
    (first : message.err = none → message.header.type ≠ late) :
    Takes (booking session) 0 (fun _ owed => owed = 0) (· = -1) (some writer) message late where
  rules := booking_reports session duplex
  refuses err refusal := (reportAcceptError_settles duplex err).mono fun result owed left => by
    simpa [outcome, ends_of_refusal refusal left.1] using left.2
  peer := ⟨⟨Kind.noConfusion, nofun⟩, fun _ _ => rfl⟩
  again whole same := absurd same (first whole)

theorem handleSync_books (session : Nat) (config : Config) (message : Message) (fuel : Nat)
    (first : message.err = none → message.header.type ≠ .initializeRequest) :
    ∃ rest : Option MessageWriter → Act (Option Err),
      handleSync config message fuel = Act.session .syncWriter >>= rest ∧
        ∀ writer, Duplex writer →
          Follows (booking session) (fun result owed => owed = excess message result) (rest (some writer)) 0 := by
  obtain ⟨rest, same, follows⟩ := handleSync_reports config message fuel
  exact ⟨rest, same, fun writer duplex =>
    (follows (booking_takes session duplex first)).mono fun _ _ => outcome_excess⟩

theorem handleAsync_books (session : Nat) (config : Config) (message : Message) (fuel : Nat)
    (first : message.err = none → message.header.type ≠ .asyncInitialize) :
    ∃ rest : Option MessageWriter → Act (Option Err),
      handleAsync config message fuel = Act.session .asyncWriter >>= rest ∧
        ∀ writer, (∀ found, writer = some found → Duplex found) →
          Follows (booking session) (fun result owed => owed = excess message result) (rest writer) 0 := by
  obtain ⟨rest, same, barred, follows⟩ := handleAsync_reports config message fuel
  refine ⟨rest, same, fun writer known => ?_⟩
  cases writer with
  | none =>
    rw [barred]
    have refused : ends message (some (Sentinel.sessionNotReady : Err)) = false :=
      ends_of_refusal ⟨.sessionNotReady, by decide, rfl⟩ (.inr rfl)
    simp [Follows, excess, refused]
  | some writer => exact (follows (booking_takes session (known writer rfl) first)).mono fun _ _ => outcome_excess

end Handlers

section Tasks
variable {α : Type} {profile : Profile} {task : Task} {owed : Int}

def Task.loops : Task → Option Nat
  | .sync session _ _ => some session
  | _ => none

def Task.repeats (profile : Profile) (task : Task) (op : ServerOp) (reply : op.Reply) : Bool :=
  match task with
  | .sync session message _ =>
    match op, reply with
    | .session number .state, reply =>
      number = session ∧ reply ≠ State.clearing ∧ initializes .initializeRequest profile.maxRxPayload message
    | _, _ => false
  | .async session message _ =>
    match op, reply with
    | .session number .asyncWriter, reply =>
      number = session ∧ Option.isSome reply ∧ initializes .asyncInitialize profile.maxRxPayload message
    | _, _ => false
  | _ => false

/-- The phase of a task is what it has written beyond what it has counted, less its second
initialization. -/
def accounts (profile : Profile) : Discipline ServerOp ServerOp.Reply (Task × Int) where
  allowed
    | phase, .environment .exhausted => phase.2 = 0
    | _, .session _ (.setSyncWriter writer) | _, .session _ (.setAsyncWriter writer) => Duplex writer
    | _, _ => True
  possible
    | _, .environment (.send _ _ _), reply => reply = none
    | phase, .session number .syncWriter, reply =>
      (∀ writer, reply = some writer → Duplex writer) ∧ (phase.1.loops = some number → reply ≠ none)
    | _, .session _ .asyncWriter, reply => ∀ writer, reply = some writer → Duplex writer
    | _, .session _ .version, reply => Version.less reply .version10 = false
    | _, .session _ .maxRx, reply => reply = profile.maxRxPayload
    | _, _, _ => True
  advance phase op reply := (phase.1, phase.2 + owes op - (phase.1.repeats profile op reply).toNat)

theorem ofLoop_accounts (plain : ∀ op reply, task.repeats profile op reply = false) {session : Nat}
    {program : Act α} {goal : α → Int → Prop} (books : Follows (booking session) goal program owed) :
    Follows (accounts profile) (fun value phase => ∃ left, phase = (task, left) ∧ goal value left)
      (ServerProgram.ofLoop session program) (task, owed) := by
  refine Follows.translate books (task, ·) (fun left op allowed => ?_) (fun left op reply possible => ?_)
    fun left op reply => ?_
  · cases op with
    | shared op =>
      cases op with
      | session op =>
        cases op with
        | setSyncWriter writer | setAsyncWriter writer => exact absurd rfl allowed.1
        | _ => trivial
      | _ => trivial
    | environment op =>
      cases op with
      | exhausted => exact allowed.2 rfl
      | _ => trivial
  · cases op with
    | shared op => trivial
    | environment op =>
      cases op with
      | send channel header payload => exact possible
      | _ => trivial
  · simp [accounts, booking, plain]

def unbooked : ServerOp → Bool
  | .count .fatalErrors | .environment _ | .session _ (.setSyncWriter _) | .session _ (.setAsyncWriter _) => false
  | _ => true

theorem unbooked_accounts (plain : ∀ op reply, task.repeats profile op reply = false) (owed : Int) {op : ServerOp}
    (unbooks : unbooked op = true) :
    (accounts profile).allowed (task, owed) op ∧
      ∀ reply, (accounts profile).advance (task, owed) op reply = (task, owed) := by
  have even : owes op = 0 → ∀ reply, (accounts profile).advance (task, owed) op reply = (task, owed) := by
    intro even reply
    simp [accounts, plain, even]
  cases op with
  | environment op => cases unbooks
  | count counter =>
    cases counter with
    | fatalErrors => cases unbooks
    | _ => exact ⟨trivial, even rfl⟩
  | session number op =>
    cases op with
    | setSyncWriter writer | setAsyncWriter writer => cases unbooks
    | _ => exact ⟨trivial, even rfl⟩
  | _ => exact ⟨trivial, even rfl⟩

theorem accounts_takesDown (plain : ∀ op reply, task.repeats profile op reply = false) {program : ServerProgram α}
    (only : TakesDown program) :
    Follows (accounts profile) (fun _ phase => phase = (task, owed)) program (task, owed) := by
  refine only.rests fun op part => unbooked_accounts plain owed ?_
  unfold takesDown at part
  split at part
  all_goals first | rfl | cases part

end Tasks

section Connections
variable {α : Type} {profile : Profile} {source : Source} {connection : Stream} {owed : Int}
  {post : α → Task × Int → Prop} {next : Option Err → ServerProgram α}

theorem accounts_step {op : ServerOp} {next : op.Reply → ServerProgram α} (unbooks : unbooked op = true)
    (resume : ∀ reply, Follows (accounts profile) post (next reply) (.serve source connection, owed)) :
    Follows (accounts profile) post (ServerProgram.perform op >>= next) (.serve source connection, owed) := by
  have plain : ∀ op reply, (Task.serve source connection).repeats profile op reply = false := fun _ _ => rfl
  obtain ⟨allowed, still⟩ := unbooked_accounts plain owed unbooks
  refine Follows.step allowed fun reply _ => ?_
  rw [still]
  exact resume reply

theorem write_fatal {code : FatalErrorCode} {text : Bytes}
    (resume : Follows (accounts profile) post (next none) (.serve source connection, owed + 1)) :
    Follows (accounts profile) post
      (ServerProgram.write ⟨.synchronous⟩ { type := .fatalError, control := code } text >>= next)
      (.serve source connection, owed) := by
  have owes : Follows (booking 0) (fun result left => result = none ∧ left = owed + 1)
      (MessageWriter.write ⟨.synchronous⟩ { type := .fatalError, control := code } text) owed :=
    writeFatalError_owes (.inl rfl) code text owed
  refine Follows.bind (ofLoop_accounts (fun _ _ => rfl) owes) fun result phase left => ?_
  obtain ⟨_, rfl, rfl, rfl⟩ := left
  exact resume

theorem write_quiet {writer : MessageWriter} {header : Header} (other : quiet (.send header.type) = true)
    (resume : ∀ result, Follows (accounts profile) post (next result) (.serve source connection, 0)) :
    Follows (accounts profile) post (ServerProgram.write writer header [] >>= next) (.serve source connection, 0) := by
  have settles : Settles 0 (writer.write header []) :=
    (booking_reports 0 (.inl rfl : Duplex ⟨.synchronous⟩)).write writer [] other
  refine Follows.bind (ofLoop_accounts (fun _ _ => rfl) settles) fun result phase left => ?_
  obtain ⟨_, rfl, rfl⟩ := left
  exact resume result

theorem initializeRequest_accounts (profile : Profile) (header : Header) (subAddress : Bytes) (stream : Stream) :
    Follows (accounts profile) (fun result phase => phase = (.serve source connection, owed) ∧
        ∀ session response, result = .ok (session, response) → response.type = .initializeResponse)
      (ServerProgram.initializeRequest profile header subAddress stream) (.serve source connection, owed) := by
  have refused (err : Err) : Follows (accounts profile) (fun result phase => phase = (.serve source connection, owed) ∧
      ∀ session response, result = .ok (session, response) → response.type = .initializeResponse)
      (Pure.pure (.error err) : ServerProgram (Except Err (Nat × Header))) (.serve source connection, owed) :=
  ⟨rfl, fun _ _ => nofun⟩
  refine Follows.ite (fun _ => refused _) fun _ => Follows.ite (fun _ => refused _) fun _ =>
    Follows.ite (fun _ => refused _) fun _ => ?_
  split
  next =>
    refine accounts_step rfl fun (allocated : Except Err (Nat × UInt16)) => ?_
    cases allocated with
    | error err => exact refused err
    | ok made =>
      refine ⟨rfl, fun _ _ same => ?_⟩
      cases same
      rfl
  next => exact refused _

theorem asyncInitialize_accounts (profile : Profile) (header : Header) (stream : Stream) :
    Follows (accounts profile) (fun result phase => phase = (.serve source connection, owed) ∧
        ∀ session response, result = .ok (session, response) → response.type = .asyncInitializeResponse)
      (ServerProgram.asyncInitialize profile header stream) (.serve source connection, owed) := by
  refine Follows.ite (fun _ => ⟨rfl, fun _ _ => nofun⟩) fun _ => Follows.ite (fun _ => ⟨rfl, fun _ _ => nofun⟩)
    fun _ => ?_
  refine accounts_step rfl fun (found : Option Nat) => ?_
  cases found with
  | none => exact ⟨rfl, fun _ _ => nofun⟩
  | some number =>
    refine accounts_step rfl fun (refused : Option Err) => ?_
    cases refused with
    | some err => exact ⟨rfl, fun _ _ => nofun⟩
    | none =>
      refine ⟨rfl, fun _ _ same => ?_⟩
      cases same
      rfl

theorem count_fatal {value : α} (done : post value (.serve source connection, 0)) :
    Follows (accounts profile) post (ServerProgram.perform (.count .fatalErrors) >>= fun _ =>
      Pure.pure value) (.serve source connection, 1) :=
  ⟨trivial, fun _ _ => done⟩

theorem waiting_accounts {post : Option Err → Task × Int → Prop} (turn : Turn → ServerProgram (Option (Option Err))) :
    Follows (accounts profile) post (ServerProgram.runLoop turn []) (.serve source connection, 0) :=
  ⟨rfl, fun reply => reply.elim⟩

theorem serveSyncChannel_accounts (profile : Profile) (header : Header) (subAddress : Except Err Bytes)
    (stream : Stream) :
    Follows (accounts profile)
      (fun _ phase => phase = (.serve source connection, match subAddress with | .error _ => 1 | .ok _ => 0))
      (ServerProgram.serveSyncChannel profile header subAddress stream 0 []) (.serve source connection, 0) := by
  cases subAddress with
  -- The one refusal of a connection that nobody counts.
  | error err => exact write_fatal (accounts_step rfl fun _ => rfl)
  | ok subAddress =>
    refine Follows.bind (initializeRequest_accounts profile header subAddress stream) fun result phase made => ?_
    obtain ⟨rfl, typed⟩ := made
    cases result with
    | error err =>
      refine write_fatal (accounts_step rfl fun _ => Follows.ite (fun _ => accounts_step rfl fun _ => ?_) fun _ => ?_)
      · exact count_fatal rfl
      · exact count_fatal rfl
    | ok made =>
      obtain ⟨number, response⟩ := made
      refine write_quiet (by rw [typed number response rfl]; decide) fun failed => ?_
      cases failed with
      | some err =>
        exact Follows.bind (accounts_takesDown (fun _ _ => rfl) (removeSession_takesDown number)) fun _ _ same => same
      | none =>
        refine accounts_step rfl fun _ => Follows.step (.inl rfl) fun _ _ => ?_
        have waits : Follows (accounts profile) (fun _ phase => phase = (.serve source connection, 0))
            (ServerProgram.runSync profile.toConfig number 0 []) (.serve source connection, 0) :=
          accounts_step rfl fun _ => accounts_step rfl fun _ => waiting_accounts _
        refine Follows.bind waits fun _ _ same => ?_
        subst same
        exact Follows.bind (accounts_takesDown (fun _ _ => rfl) (removeSession_takesDown number)) fun _ _ same => same

theorem serveAsyncChannel_accounts (profile : Profile) (header : Header) (stream : Stream) :
    Follows (accounts profile) (fun _ phase => phase = (.serve source connection, 0))
      (ServerProgram.serveAsyncChannel profile header stream 0 []) (.serve source connection, 0) := by
  refine Follows.bind (asyncInitialize_accounts profile header stream) fun result phase made => ?_
  obtain ⟨rfl, typed⟩ := made
  cases result with
  | error err => exact write_fatal (accounts_step rfl fun _ => count_fatal rfl)
  | ok made =>
    obtain ⟨number, response⟩ := made
    refine write_quiet (by rw [typed number response rfl]; decide) fun failed => ?_
    cases failed with
    | some err => exact rfl
    | none => exact Follows.step (.inr rfl) fun _ _ => accounts_step rfl fun _ => waiting_accounts _

theorem serve_accounts (profile : Profile) (source : Source) (stream : Stream) :
    Follows (accounts profile) (fun result phase => phase.2 = phase.1.due profile result)
      (ServerProgram.serve profile source stream 0 [] []) (.serve source stream, 0) := by
  unfold ServerProgram.serve
  cases first : opening profile.maxRxPayload source with
  | failed err =>
    refine accounts_step rfl fun _ => ?_
    simp [Follows, Task.due, Task.misaddressed, Task.handles, first]
  | sync header subAddress rest =>
    refine (serveSyncChannel_accounts profile header subAddress stream).mono fun result phase same => ?_
    subst same
    cases subAddress <;> simp [Task.due, Task.misaddressed, Task.handles, first]
  | async header rest =>
    refine (serveAsyncChannel_accounts profile header stream).mono fun result phase same => ?_
    subst same
    simp [Task.due, Task.misaddressed, Task.handles, first]
  | refused =>
    refine write_fatal (accounts_step rfl fun _ => count_fatal ?_)
    simp [Task.due, Task.misaddressed, Task.handles, first]
  | panics => exact ⟨rfl, fun reply => reply.elim⟩

end Connections

section Initializations
variable {profile : Profile} {config : Config} {message : Message} {fuel : Nat} {writer : MessageWriter}

/-- What either loop does with an initialization that comes too late. -/
def refuseAgain (writer : MessageWriter) (header : Header) (text : Bytes) : Act (Option Err) := do
  if (← Act.session .version).less .version10 then reportAcceptError (some writer) Sentinel.protocolVersion
  else
    match checkLength header.length (← Act.session .maxRx) with
    | some err => reportAcceptError (some writer) err
    | none =>
      let _ ← writer.writeFatalError FatalErrorCode.invalidInitSequence text
      return some (Sentinel.invalidInitSequence : Err)

theorem accept_initialization {header : Header} {channel : Channel}
    (late : header.type = .initializeRequest ∧ channel = .synchronous ∨ header.type = .asyncInitialize ∧
      channel = .asynchronous)
    (next : Except Err Server.Class → Act (Option Err)) {writer : MessageWriter} {text : Bytes}
    (reports : ∀ err, next (.error err) = reportAcceptError (some writer) err)
    (refuses : next (.ok .lifecycle) = writer.writeFatalError FatalErrorCode.invalidInitSequence text >>= fun _ =>
      Pure.pure (some (Sentinel.invalidInitSequence : Err))) :
    accept header channel >>= next = refuseAgain writer header text := by
  have accepts : accept header channel = Act.session .version >>= fun version =>
      if version.less .version10 then Pure.pure (.error (Sentinel.protocolVersion : Err))
      else Act.session .maxRx >>= fun limit =>
        match checkLength header.length limit with
        | some err => Pure.pure (.error err)
        | none => Pure.pure (.ok .lifecycle) := by
    unfold accept
    obtain ⟨same, rfl⟩ | ⟨same, rfl⟩ := late <;> rw [same] <;> rfl
  rw [accepts, Program.bind_assoc]
  refine congrArg _ (funext fun version => ?_)
  split
  · exact reports _
  · rw [Program.bind_assoc]
    refine congrArg _ (funext fun limit => ?_)
    cases checkLength header.length limit with
    | some err => exact reports err
    | none => exact refuses

theorem handleSync_again (whole : message.err = none) (same : message.header.type = .initializeRequest) :
    ∃ rest : Option MessageWriter → Act (Option Err),
      handleSync config message fuel = Act.session .syncWriter >>= rest ∧
        ∀ writer, rest (some writer) = Act.session .state >>= fun state =>
          if state = .clearing then Pure.pure none
          else refuseAgain writer message.header (ascii "already initialized") := by
  refine ⟨_, rfl, fun writer => ?_⟩
  simp only [whole, discardDuringClear, Program.bind_assoc]
  refine congrArg _ (funext fun state => ?_)
  have other : message.header.type ≠ .deviceClearComplete := by rw [same]; decide
  cases state with
  | clearing => simp [other]
  | _ => 
    refine accept_initialization (.inl ⟨same, rfl⟩) _ (fun _ => rfl) ?_
    rw [same]
    rfl

theorem handleAsync_again (whole : message.err = none) (same : message.header.type = .asyncInitialize) :
    ∃ rest : Option MessageWriter → Act (Option Err),
      handleAsync config message fuel = Act.session .asyncWriter >>= rest ∧
        rest none = Pure.pure (some (Sentinel.sessionNotReady : Err)) ∧
          ∀ writer, rest (some writer) = refuseAgain writer message.header [] := by
  refine ⟨_, rfl, rfl, fun writer => ?_⟩
  simp only [whole]
  refine accept_initialization (.inr ⟨same, rfl⟩) _ (fun _ => rfl) ?_
  rw [same]
  rfl

variable {task : Task} {owed : Int} {session : Nat}

theorem session_accounts {α : Type} {op : SessionOp} {next : op.Reply → Act α} {post : α → Task × Int → Prop}
    (allowed : (accounts profile).allowed (task, owed) (.session session op))
    (resume : ∀ reply, (accounts profile).possible (task, owed) (.session session op) reply →
      Follows (accounts profile) post (ServerProgram.ofLoop session (next reply))
      (task, owed - (task.repeats profile (.session session op) reply).toNat)) :
    Follows (accounts profile) post (ServerProgram.ofLoop session (Act.session op >>= next)) (task, owed) := by
  have even : owed + owes (.session session op) = owed := add_zero owed
  refine ⟨allowed, fun reply possible => ?_⟩
  have resumes := resume reply possible
  rw [← even] at resumes
  exact resumes

theorem initializes_of_first {type : MessageType} (first : message.err = none → message.header.type ≠ type)
    (limit : UInt64) : initializes type limit message = false :=
  decide_eq_false fun ⟨whole, same, _⟩ => first whole same

theorem repeats_sync (missed : initializes .initializeRequest profile.maxRxPayload message = false) (session fuel : Nat)
    (op : ServerOp) (reply : op.Reply) : (Task.sync session message fuel).repeats profile op reply = false := by
  simp only [Task.repeats]
  split <;> simp [missed]

theorem repeats_async (missed : initializes .asyncInitialize profile.maxRxPayload message = false)
    (session fuel : Nat) (op : ServerOp) (reply : op.Reply) :
    (Task.async session message fuel).repeats profile op reply = false := by
  simp only [Task.repeats]
  split <;> simp [missed]

/-- The write that nobody counts evens out the second initialization. -/
theorem refuseAgain_accounts (duplex : Duplex writer) {late : MessageType} (whole : message.err = none)
    (same : message.header.type = late) (text : Bytes) (settled : ∀ result, task.due profile result = 0)
    (plain : initializes late profile.maxRxPayload message = false → ∀ op reply, task.repeats profile op reply = false)
    (watched : owed = -(initializes late profile.maxRxPayload message).toNat) :
    Follows (accounts profile) (fun result phase => phase.2 = phase.1.due profile result)
      (ServerProgram.ofLoop session (refuseAgain writer message.header text)) (task, owed) := by
  refine session_accounts trivial fun version current => ?_
  have unwatched : task.repeats profile (.session session .version) version = false := by cases task <;> rfl
  simp only [unwatched, Bool.toNat_false, Nat.cast_zero, sub_zero]
  rw [if_neg (by rw [current]; exact Bool.false_ne_true)]
  refine session_accounts trivial fun limit known => ?_
  have unwatched : task.repeats profile (.session session .maxRx) limit = false := by cases task <;> rfl
  simp only [unwatched, Bool.toNat_false, Nat.cast_zero, sub_zero]
  obtain rfl : limit = profile.maxRxPayload := known
  cases checked : checkLength message.header.length profile.maxRxPayload with
  | some err =>
    have missed : initializes late profile.maxRxPayload message = false := by simp [initializes, checked]
    obtain rfl : owed = 0 := by simpa [missed] using watched
    refine (ofLoop_accounts (plain missed) (reportAcceptError_settles duplex err)).mono fun result phase left => ?_
    obtain ⟨_, rfl, -, rfl⟩ := left
    exact (settled result).symm
  | none =>
    obtain rfl : owed = -1 := by simpa [initializes, whole, same, checked] using watched
    unfold MessageWriter.writeFatalError
    rw [MessageWriter.write_eq duplex.reports.1 (.inl rfl)]
    refine ⟨trivial, fun reply _ => Eq.trans ?_ (settled _).symm⟩
    cases task <;> rfl

theorem sync_accounts (profile : Profile) (session : Nat) (message : Message) (fuel : Nat) :
    Follows (accounts profile) (fun result phase => phase.2 = phase.1.due profile result)
      ((Task.sync session message fuel).program profile) (.sync session message fuel, 0) := by
  simp only [Task.program]
  by_cases late : message.err = none ∧ message.header.type = .initializeRequest
  · obtain ⟨whole, same⟩ := late
    have peaceful : message.header.type ≠ .fatalError := by rw [same]; decide
    have settled (result : Option Err) : (Task.sync session message fuel).due profile result = 0 := by
      simp [Task.due, Task.misaddressed, Task.handles, ends, peaceful]
    obtain ⟨rest, shape, refuses⟩ := handleSync_again whole same
    rw [shape]
    refine session_accounts trivial fun reply known => ?_
    obtain ⟨writer, rfl⟩ := Option.ne_none_iff_exists'.mp (known.2 rfl)
    rw [refuses]
    refine session_accounts trivial fun state _ => ?_
    by_cases clearing : state = .clearing
    · subst clearing
      refine Eq.trans ?_ (settled none).symm
      simp [Task.repeats]
    · rw [if_neg clearing]
      refine refuseAgain_accounts (known.1 writer rfl) whole same _ settled (fun missed => ?_) ?_
      · exact repeats_sync missed session fuel
      · simp [Task.repeats, clearing]
  · have first : message.err = none → message.header.type ≠ .initializeRequest := fun whole same => late ⟨whole, same⟩
    have plain := repeats_sync (initializes_of_first first profile.maxRxPayload) session fuel
    obtain ⟨rest, shape, books⟩ := handleSync_books session profile.toConfig message fuel first
    rw [shape]
    refine session_accounts trivial fun reply known => ?_
    obtain ⟨writer, rfl⟩ := Option.ne_none_iff_exists'.mp (known.2 rfl)
    refine (ofLoop_accounts plain (books writer (known.1 writer rfl))).mono fun result phase left => ?_
    obtain ⟨_, rfl, rfl⟩ := left
    simp [Task.due, Task.misaddressed, Task.handles, excess]

theorem async_accounts (profile : Profile) (session : Nat) (message : Message) (fuel : Nat) :
    Follows (accounts profile) (fun result phase => phase.2 = phase.1.due profile result)
      ((Task.async session message fuel).program profile) (.async session message fuel, 0) := by
  simp only [Task.program]
  by_cases late : message.err = none ∧ message.header.type = .asyncInitialize
  · obtain ⟨whole, same⟩ := late
    have peaceful : message.header.type ≠ .fatalError := by rw [same]; decide
    have settled (result : Option Err) : (Task.async session message fuel).due profile result = 0 := by
      simp [Task.due, Task.misaddressed, Task.handles, ends, peaceful]
    obtain ⟨rest, shape, waits, refuses⟩ := handleAsync_again whole same
    rw [shape]
    refine session_accounts trivial fun reply known => ?_
    cases reply with
    | none =>
      rw [waits]
      refine Eq.trans ?_ (settled _).symm
      simp [Task.repeats]
    | some writer =>
      rw [refuses]
      refine refuseAgain_accounts (known writer rfl) whole same _ settled (fun missed => ?_) ?_
      · exact repeats_async missed session fuel
      · simp [Task.repeats]
  · have first : message.err = none → message.header.type ≠ .asyncInitialize := fun whole same => late ⟨whole, same⟩
    have plain := repeats_async (initializes_of_first first profile.maxRxPayload) session fuel
    obtain ⟨rest, shape, books⟩ := handleAsync_books session profile.toConfig message fuel first
    rw [shape]
    refine session_accounts trivial fun reply known => ?_
    rw [plain]
    refine (ofLoop_accounts plain (books reply known)).mono fun result phase left => ?_
    obtain ⟨_, rfl, rfl⟩ := left
    simp [Task.due, Task.misaddressed, Task.handles, excess]

end Initializations

theorem task_accounts (profile : Profile) (task : Task) :
    Follows (accounts profile) (fun result phase => phase.2 = phase.1.due profile result) (task.program profile)
      (task, 0) := by
  cases task with
  | serve source stream => exact serve_accounts profile source stream
  | sync session message fuel => exact sync_accounts profile session message fuel
  | async session message fuel => exact async_accounts profile session message fuel
  | removeSession session =>
    refine (accounts_takesDown (fun _ _ => rfl) (removeSession_takesDown session)).mono fun _ _ same => ?_
    subst same
    rfl
  | closeAll =>
    refine (accounts_takesDown (fun _ _ => rfl) closeAll_takesDown).mono fun _ _ same => ?_
    subst same
    rfl

section Runs
variable {profile : Profile} {policy : ResponsePolicy σ} {outside : Outside} {op : ServerOp} {reply : op.Reply}

/-- Every session has the server's limit, and every writer of it is that of a channel. -/
def Wired (profile : Profile) (registry : Registry σ) : Prop :=
  ∀ session ∈ registry.made, session.maxRx = profile.maxRxPayload ∧
    ∀ writer, session.syncW = some writer ∨ session.asyncW = some writer → Duplex writer

def Installed (number : Nat) (registry : Registry σ) : Prop :=
  ∃ session, registry.made[number]? = some session ∧ session.syncW ≠ none

def Backed (task : Task) (phase : Task × Int) (books : Books σ) : Prop :=
  phase.1 = task ∧ ∀ number, task.loops = some number → Installed number books.registry

theorem Books.apply_eq {books after : Books σ} (applied : books.apply profile policy op outside = some (reply, after)) :
    op.apply profile policy (accepting outside) books.registry = some (reply, after.registry) ∧
      after.written = books.written + (fatal op).toNat ∧ after.repeated = books.repeated := by
  obtain ⟨⟨answer, registry⟩, done, same⟩ := Option.map_eq_some_iff.mp applied
  cases same
  exact ⟨done, rfl, rfl⟩

variable {before after : Registry σ}

theorem apply_counters (applied : op.apply profile policy outside before = some (reply, after)) :
    after.counters .fatalErrors = before.counters .fatalErrors + (counted op).toNat := by
  cases op with
  | allocateSession version stream =>
    obtain rfl := congrArg Prod.snd (Option.some_inj.mp applied)
    unfold Registry.allocateSession
    repeat' split
    all_goals rfl
  | count counter =>
    cases applied
    by_cases same : counter = .fatalErrors
    · subst same
      simp [counted]
    · simp [counted, same, Function.update_of_ne (Ne.symm same)]
  | takeAll =>
    obtain ⟨all, -, same⟩ := Option.bind_eq_some_iff.mp applied
    split at same
    · cases same
      rfl
    · cases same
  | environment op => rw [environment_unchanged applied]; rfl
  | session number op | unregister number | releaseAll number | closeStream stream =>
    obtain ⟨_, -, same⟩ := Option.map_eq_some_iff.mp applied
    cases same
    rfl
  | _ => cases applied; rfl

theorem Installed.apply {number : Nat} (installed : Installed number before)
    (applied : op.apply profile policy outside before = some (reply, after)) : Installed number after := by
  obtain ⟨session, standing, writes⟩ := installed
  rcases apply_cases applied with ⟨same, -⟩ | ⟨other, inner, found, -, held, made, -⟩ |
    ⟨version, stream, id, -, made, -⟩
  · exact ⟨session, same ▸ standing, writes⟩
  · unfold Installed
    rw [made]
    by_cases own : number = other
    · subst own
      obtain rfl : session = found := Option.some.inj (standing.symm.trans held)
      exact ⟨_, List.getElem?_set_self (List.getElem?_eq_some_iff.mp held).1,
        (inner.apply_keeps policy session).writers.1 writes⟩
    · exact ⟨session, by rwa [List.getElem?_set_ne (Ne.symm own)], writes⟩
  · exact ⟨session, by rw [made, List.getElem?_append_left (List.getElem?_eq_some_iff.mp standing).1, standing], writes⟩

theorem Wired.apply {phase : Task × Int} (wired : Wired profile before) (allowed : (accounts profile).allowed phase op)
    (applied : op.apply profile policy outside before = some (reply, after)) : Wired profile after := by
  rcases apply_cases applied with ⟨same, -⟩ | ⟨number, inner, found, rfl, held, made, -⟩ |
    ⟨version, stream, id, -, made, -⟩
  · unfold Wired
    rwa [same]
  · obtain ⟨limited, earlier⟩ := wired found (List.mem_of_getElem? held)
    have keeps := inner.apply_keeps policy found
    intro session member
    rw [made] at member
    rcases List.mem_or_eq_of_mem_set member with old | rfl
    · exact wired session old
    · refine ⟨keeps.maxRx.trans limited, fun writer carries => ?_⟩
      rcases carries with one | two
      · rcases keeps.syncW with kept | ⟨set, rfl, now⟩
        · exact earlier writer (.inl (kept ▸ one))
        · obtain rfl : set = writer := Option.some.inj (now.symm.trans one)
          exact allowed
      · rcases keeps.asyncW with kept | ⟨set, rfl, now⟩
        · exact earlier writer (.inr (kept ▸ two))
        · obtain rfl : set = writer := Option.some.inj (now.symm.trans two)
          exact allowed
  · intro session member
    rw [made] at member
    rcases List.mem_append.mp member with old | new
    · exact wired session old
    · rw [List.mem_singleton.mp new]
      refine ⟨rfl, fun writer carries => ?_⟩
      rcases carries with one | two
      · cases one
      · cases two

theorem Wired.possible {task : Task} {owed : Int} (wired : Wired profile before)
    (installed : ∀ number, task.loops = some number → Installed number before)
    (applied : op.apply profile policy (accepting outside) before = some (reply, after)) :
    (accounts profile).possible (task, owed) op reply := by
  cases op with
  | environment op =>
    cases op with
    | send channel header payload =>
      cases applied
      rfl
    | _ => trivial
  | session number op =>
    obtain ⟨found, held, same⟩ := Option.map_eq_some_iff.mp applied
    obtain ⟨limited, earlier⟩ := wired found (List.mem_of_getElem? held)
    cases op with
    | syncWriter =>
      cases same
      refine ⟨fun writer carries => earlier writer (.inl carries), fun own => ?_⟩
      obtain ⟨session, standing, writes⟩ := installed number own
      obtain rfl : session = found := Option.some.inj (standing.symm.trans held)
      exact writes
    | asyncWriter =>
      cases same
      exact fun writer carries => earlier writer (.inr carries)
    | version =>
      cases same
      exact found.current
    | maxRx =>
      cases same
      exact limited
    | _ => trivial
  | _ => trivial

/-- The reply to a loop says what the session was like before the operation. -/
theorem Wired.repeats {books : Books σ} (wired : Wired profile books.registry) (task : Task)
    (applied : op.apply profile policy (accepting outside) books.registry = some (reply, after)) :
    books.repeats task op = task.repeats profile op reply := by
  cases op with
  | session number op =>
    obtain ⟨found, held, same⟩ := Option.map_eq_some_iff.mp applied
    obtain ⟨limited, -⟩ := wired found (List.mem_of_getElem? held)
    cases task with
    | sync session message fuel =>
      cases op with
      | state =>
        cases same
        by_cases own : number = session
        · subst own
          simp [Books.repeats, Task.repeats, held, limited]
          rfl
        · simp [Books.repeats, Task.repeats, own]
      | _ => rfl
    | async session message fuel =>
      cases op with
      | asyncWriter =>
        cases same
        by_cases own : number = session
        · subst own
          simp [Books.repeats, Task.repeats, held, limited]
          rfl
        · simp [Books.repeats, Task.repeats, own]
      | _ => rfl
    | _ => rfl
  | _ => cases task <;> rfl

/-- FatalErrors written beyond those that the counter has, less the second initializations. -/
def Books.balance (books : Books σ) : Int := books.written - books.registry.counters .fatalErrors - books.repeated

abbrev Fair (profile : Profile) (traffic : Traffic σ) : Prop :=
  Balanced (accounts profile) (fun result phase => phase.2 = phase.1.due profile result) Backed
    (fun books => Wired profile books.registry)
    Prod.snd Books.balance traffic

theorem Fair.step {traffic later : Traffic σ} {move : Move Task Outside} (fair : Fair profile traffic)
    (moved : traffic.step profile policy move = some later) : Fair profile later := by
  unfold Traffic.step at moved
  split at moved
  next enters =>
    obtain ⟨pool, stepped, rfl⟩ := Option.map_eq_some_iff.mp moved
    cases move with
    | start task =>
      cases stepped
      refine fair.start (task_accounts profile task) ⟨rfl, fun number own => ?_⟩ rfl
      cases task with
      | sync session message fuel =>
        cases own
        obtain ⟨writer, found⟩ := Option.isSome_iff_exists.mp enters
        obtain ⟨standing, held, writes⟩ := Option.bind_eq_some_iff.mp found
        exact ⟨standing, held, by rw [writes]; exact Option.some_ne_none writer⟩
      | _ => cases own
    | advance thread outside =>
      obtain ⟨task, op, next, reply, books, running, applied, rfl⟩ := step_advance stepped
      obtain ⟨done, written, repeated⟩ := Books.apply_eq applied
      refine fair.advance running (fun phase backed allowed => ?_) fun other phase held => ?_
      · obtain ⟨holder, owed⟩ := phase
        obtain ⟨rfl, installed⟩ := backed
        refine ⟨fair.shared.apply allowed done, fair.shared.possible installed done,
          ⟨rfl, fun number own => (installed number own).apply done⟩, ?_⟩
        have counted := apply_counters done
        have again : Traffic.Repeats traffic (.advance thread outside) = holder.repeats profile op reply := by
          simp only [Traffic.Repeats, running]
          exact fair.shared.repeats holder done
        simp only [Books.balance, accounts, owes, written, counted, repeated, again]
        omega
      · exact ⟨held.1, fun number own => (held.2 number own).apply done⟩
  next => cases moved

theorem fair_initially : Fair profile ({ shared := {} } : Traffic σ) := balanced_empty (fun _ => nofun) rfl

def due (profile : Profile) (thread : Task × ServerProgram (Option Err)) : Int :=
  (Traffic.done (fun task _ => task.misaddressed profile) thread).toNat - (Traffic.done Task.handles thread).toNat

theorem sum_due (profile : Profile) (threads : List (Task × ServerProgram (Option Err))) :
    (threads.map (due profile)).sum =
      threads.countP (Traffic.done fun task _ => task.misaddressed profile) -
        threads.countP (Traffic.done Task.handles) := by
  induction threads with
  | nil => rfl
  | cons thread rest ih =>
    simp only [List.map_cons, List.sum_cons, List.countP_cons, ih, due]
    cases Traffic.done (fun task _ => task.misaddressed profile) thread <;>
      cases Traffic.done Task.handles thread <;> simp <;> omega

/-- When nothing is under way, the FatalErrors written beyond those counted are the ones
that slipped, less the ones that were handled. -/
theorem Fair.balance {traffic : Traffic σ} (fair : Fair profile traffic) (idle : traffic.Idle) :
    traffic.shared.registry.counters .fatalErrors + traffic.slipped profile =
      traffic.shared.written + traffic.handled := by
  have total : traffic.shared.balance = (traffic.threads.map (due profile)).sum := by
    refine Balanced.total fair fun thread member phase follows backed => ?_
    obtain ⟨task, program⟩ := thread
    obtain ⟨rfl, -⟩ := backed
    -- A task that is done owes what its result says, and one that waits owes nothing.
    cases program with
    | pure result => exact follows
    | request op next =>
      obtain rfl := idle _ member op rfl
      exact follows.1
  rw [sum_due] at total
  simp only [Books.balance, Traffic.slipped, Traffic.handled] at total ⊢
  omega

/-- Along every run, whenever nothing is under way, the field `FatalErrors` has what the
server wrote and handled exactly when nothing slipped and sixty-four bits are enough. -/
theorem fatalErrors_exact_iff (profile : Profile) (policy : ResponsePolicy σ) (moves : List (Move Task Outside)) :
    Always (Traffic.step profile policy)
      (fun traffic => traffic.Idle →
        traffic.shared.fatalErrors =
            UInt64.ofNat (traffic.shared.written + traffic.handled - traffic.slipped profile) ∧
          (traffic.shared.fatalErrors.toNat = traffic.shared.written + traffic.handled ↔
            traffic.slipped profile = 0 ∧ traffic.shared.written + traffic.handled < 2 ^ 64)) moves
      { shared := {} } := by
  refine always_of_preserved (fun traffic fair idle => ?_) (fun _ _ _ fair moved => Fair.step fair moved) fair_initially
  have balance := Fair.balance fair idle
  have short : traffic.shared.registry.counters .fatalErrors =
      traffic.shared.written + traffic.handled - traffic.slipped profile := by omega
  refine ⟨congrArg UInt64.ofNat short, ?_⟩
  simp only [Books.fatalErrors, UInt64.toNat_ofNat']
  omega

def oversizedInitialize : Source := [[72, 83, 0, 0, 1, 0, 0, 0, 255, 255, 255, 255, 255, 255, 255, 255]]

def returning : Outside
  | .closeStream _ => some none
  | _ => none

/-- The connection gets its FatalError, and the counter stays at zero. -/
theorem bad_subAddress_uncounted :
    ∃ traffic, finish (Traffic.step .standard alwaysReadPolicy)
          [.start (.serve oversizedInitialize 7), .advance 0 returning, .advance 0 returning] { shared := {} } =
        some traffic ∧
      traffic.Idle ∧ traffic.shared.written = 1 ∧ traffic.handled = 0 ∧ traffic.shared.fatalErrors = 0 := by
  refine ⟨_, rfl, ?_⟩
  refine ⟨?_, rfl, rfl, rfl⟩
  intro thread member op next
  rw [List.mem_singleton.mp member] at next
  cases next

end Runs

end Hislip.Proofs.FatalErrors
