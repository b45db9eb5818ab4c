import Hislip.Proofs.Footprint
import Hislip.Proofs.ReadAhead

/-! The synchronous loop beside its reader. A response is suppressed by whatever the queue
holds, be it a message or the error of a read, and the two messages that tell the client
so carry the MessageID of the query. -/

namespace Hislip.Proofs.Interruption
open Hislip.Server Transition Program Footprint
open ReadAhead (Traffic)

variable {σ : Type} {limit : UInt64}

/-- The query whose response was suppressed, and the message that was in the queue. -/
structure Cause where
  query : Message
  queued : Message

/-- An Interrupted or AsyncInterrupted message, with the suppression before it. -/
structure Notice where
  header : Header
  cause : Option Cause

/-- `handling` is the message in the hands of the loop, with what is left to do about it. -/
structure Loop (σ : Type) (limit : UInt64) where
  traffic : Traffic limit
  shared : Shared σ
  handling : Option (Message × Act (Option Err)) := none
  ended : Bool := false
  cause : Option Cause := none
  notices : List Notice := []

def ofRun : ReadAhead.Move limit → Bool
  | .receiveFree | .receiveDone | .fill _ | .returnOne | .sendMsg => true
  | .next | .release _ | .stop => false

/-- A step of the reader or of the loop, or of others that have the session in common with
the loop, which may do to it what they like. -/
inductive Move (σ : Type) (limit : UInt64) where
  | reader (move : ReadAhead.Move limit)
  | next (fuel : Nat)
  | advance (outside : (op : EnvironmentOp) → Option op.Reply)
  | release
  | stop
  | interfere (shared : Shared σ)

def interrupts (type : MessageType) : Bool := type = .interrupted || type = .asyncInterrupted

namespace Loop

def perform (policy : ResponsePolicy σ) (outside : (op : EnvironmentOp) → Option op.Reply) (loop : Loop σ limit) :
    (op : Op) → Option (op.Reply × Shared σ)
  | .shared op => some (op.apply policy loop.shared)
  | .environment .pending => some (decide (0 < loop.traffic.reader.msgs.length), loop.shared)
  | .environment op => (outside op).map fun reply => (reply, loop.shared)

/-- The first message in the queue, as a cause to suppress the response to `query`. -/
def suppression (loop : Loop σ limit) (query : Message) : Option Cause :=
  loop.traffic.reader.msgs.head?.map fun msg => ⟨query, msg.contents loop.traffic.reader.memory⟩

def observe (loop : Loop σ limit) (query : Message) : (op : Op) → op.Reply → Loop σ limit
  | .environment .pending, true => { loop with cause := loop.suppression query }
  | .environment (.send _ header _), _ =>
    if interrupts header.type then { loop with notices := loop.notices ++ [⟨header, loop.cause⟩] } else loop
  | _, _ => loop

/-- `runSync` takes a message, handles it and releases its buffer; it ends with an error,
or between two messages when its context does. -/
def step (policy : ResponsePolicy σ) (config : Config) (loop : Loop σ limit) : Move σ limit → Option (Loop σ limit)
  | .reader move => if ofRun move then (loop.traffic.step move).map fun traffic => { loop with traffic } else none
  | .next fuel =>
    if loop.handling.isNone ∧ loop.ended = false then
      (loop.traffic.step .next).map fun traffic =>
        { loop with
          traffic
          handling := traffic.taken.getLast?.map fun message => (message, handleSync config message fuel) }
    else none
  | .advance outside =>
    match loop.handling with
    | some (message, .request op next) =>
      (loop.perform policy outside op).map fun result =>
        { loop.observe message op result.1 with shared := result.2, handling := some (message, next result.1) }
    | _ => none
  | .release =>
    match loop.handling with
    | some (_, .pure result) =>
      (loop.traffic.step (.release 0)).map fun traffic =>
        { loop with traffic, handling := none, ended := result.isSome }
    | _ => none
  | .stop =>
    if loop.handling.isNone then (loop.traffic.step .stop).map fun traffic => { loop with traffic, ended := true }
    else none
  | .interfere shared => some { loop with shared }

/-- The handler is about to find the queue not empty and to suppress the response. -/
def Suppresses (loop : Loop σ limit) (query : Message) : Prop :=
  (∃ handling ∈ loop.handling, handling.1 = query ∧ handling.2.head = some (.environment .pending)) ∧
    0 < loop.traffic.reader.msgs.length

instance (loop : Loop σ limit) (query : Message) : Decidable (loop.Suppresses query) :=
  inferInstanceAs (Decidable (_ ∧ _))

def unhandled (loop : Loop σ limit) : List Message := loop.traffic.read.drop loop.traffic.taken.length

end Loop

def Real (message : Message) : Prop :=
  message.err = none ∧
    (message.header.type = .data ∨ message.header.type = .dataEnd ∨ message.header.type = .trigger)

instance (message : Message) : Decidable (Real message) := inferInstanceAs (Decidable (_ ∧ _))

section Naming
variable {message : Message} {suppressed : Bool}

/-- A handler asks the queue about a query only. Once the response is suppressed, it may
say so, in the name of the query. -/
def naming (message : Message) : Discipline Op Op.Reply Bool where
  allowed
    | suppressed, .environment .pending => suppressed = false ∧ message.err = none ∧ message.header.type = .dataEnd
    | suppressed, .environment (.send _ header _) =>
      interrupts header.type = true → suppressed = true ∧ header.messageID = message.header.messageID
    | _, _ => True
  advance
    | _, .environment .pending, reply => reply
    | suppressed, _, _ => suppressed

abbrev Names {α : Type} (message : Message) (program : Act α) (suppressed : Bool) : Prop :=
  Follows (naming message) (fun _ _ => True) program suppressed

def plain : Kind → Bool
  | .pending => false
  | .send type => !interrupts type
  | _ => true

theorem naming_spares : Spares (naming message) suppressed (plain · = true) := by
  intro op other
  cases op with
  | shared op => exact ⟨trivial, fun _ => rfl⟩
  | environment op =>
    cases op with
    | pending => cases other
    | send channel header payload =>
      refine ⟨fun interrupts => ?_, fun _ => rfl⟩
      have quiet : Interruption.interrupts header.type = false := Bool.not_eq_true' _ ▸ other
      rw [quiet] at interrupts
      cases interrupts
    | _ => exact ⟨trivial, fun _ => rfl⟩

theorem names_within {α : Type} {kinds : List Kind} {program : Act α} (within : Within kinds program)
    (others : ∀ kind ∈ kinds, plain kind = true) : Names message program suppressed :=
  (Spares.rest naming_spares within others).mono fun _ _ _ => trivial

theorem write_names (writer : MessageWriter) {header : Header} (payload : Bytes)
    (named : header.messageID = message.header.messageID) :
    Follows (naming message) (fun _ suppressed => suppressed = true) (writer.write header payload) true := by
  unfold MessageWriter.write
  refine Follows.ite (fun _ => rfl) fun _ => Follows.ite (fun _ => rfl) fun _ => ?_
  exact ⟨fun _ => ⟨rfl, named⟩, fun _ _ => rfl⟩

theorem sendInterrupted_names {response : CheckedResponse} (named : response.messageID = message.header.messageID) :
    Names message (sendInterrupted response) true := by
  refine Spares.step naming_spares rfl fun (refused : Option Err) => ?_
  cases refused with
  | some err => trivial
  | none =>
    refine Spares.step naming_spares rfl fun _ => ?_
    refine Follows.bind (write_names response.async [] named) fun failed _ still => ?_
    cases failed with
    | some err => trivial
    | none =>
      rw [still]
      refine Follows.bind (write_names response.sync [] named) fun failed _ still => ?_
      cases failed with
      | some err => trivial
      | none =>
        rw [still]
        exact Spares.step naming_spares rfl fun _ => trivial

section Query
variable (whole : message.err = none) (last : message.header.type = .dataEnd)
include whole last

theorem ask_names (queued : InputQueued) :
    Follows (naming message) (fun found suppressed => suppressed = found) queued.ask false := by
  cases queued with
  | never => exact rfl
  | reader => exact ⟨⟨rfl, whole, last⟩, fun _ _ => rfl⟩

theorem offerTerminator_names {response : CheckedResponse} (named : response.messageID = message.header.messageID)
    (final : Bytes) : Names message (offerTerminator response final) false := by
  refine Follows.bind (ask_names whole last response.inputQueued) fun found suppressed same => ?_
  refine Follows.ite (fun told => ?_) fun _ => ?_
  · rw [same, told]
    exact Follows.bind (sendInterrupted_names named) fun _ _ _ => trivial
  · refine Spares.step naming_spares rfl fun (refused : Option Err) => ?_
    cases refused with
    | some err => trivial
    | none => exact Spares.skip naming_spares (terminate_within response final) (by decide) fun _ => trivial

theorem responseLoop_names (ctx : Ctx) {response : CheckedResponse}
    (named : response.messageID = message.header.messageID) (fuel : Nat) (delivered : UInt64) :
    Names message (responseLoop ctx response fuel delivered) false := by
  induction fuel generalizing delivered with
  | zero => exact ⟨trivial, fun reply => reply.elim⟩
  | succ fuel ih =>
    refine Spares.step naming_spares rfl fun (result : ReadResult) =>
      Spares.skip naming_spares (sendChunk_within response result) (by decide) fun sent => ?_
    cases sent with
    | error refused => trivial
    | ok sent =>
      cases result.err with
      | some err =>
        refine Follows.ite (fun _ => ?_) fun _ => ?_
        · exact names_within (completeAbsentResponse_within response) (by decide)
        · exact names_within (completeTruncatedResponse_within response) (by decide)
      | none => exact Follows.ite (fun _ => offerTerminator_names whole last named _) fun _ => ih _

theorem sendResponse_names (ctx : Ctx) {response : Response} (named : response.messageID = message.header.messageID)
    (fuel : Nat) : Names message (sendResponse ctx response fuel) false := by
  refine Spares.bind naming_spares (validate_checks response) (by decide) fun checked kept => ?_
  cases checked with
  | error err => trivial
  | ok checked =>
    refine Spares.step naming_spares rfl fun (refused : Option Err) => ?_
    cases refused with
    | some err => trivial
    | none =>
      refine Spares.step naming_spares rfl fun _ => ?_
      refine Follows.bind (responseLoop_names whole last ctx ((kept checked rfl).trans named) fuel 0) fun _ _ _ => ?_
      exact Spares.step naming_spares rfl fun _ => trivial

theorem answerProgramMessage_names (config : Config) (writer : Option MessageWriter) (fuel : Nat) :
    Names message (answerProgramMessage config message.header writer fuel) false := by
  refine Spares.step naming_spares rfl fun found => ?_
  refine Follows.ite (fun _ => Spares.step naming_spares rfl fun _ => trivial) fun _ => ?_
  refine Spares.skip naming_spares operation_within (by decide) fun number => ?_
  refine Spares.step naming_spares rfl fun async => Spares.step naming_spares rfl fun limit => ?_
  refine Spares.skip naming_spares syncPending_within (by decide) fun queued => ?_
  refine Follows.bind (sendResponse_names whole last _ rfl fuel) fun result suppressed _ => ?_
  obtain ⟨outcome, err⟩ := result
  refine Spares.skip naming_spares (countOutcome_within outcome) (by decide) fun _ => ?_
  have released : ∀ result : Option Err,
      Names message (releaseOperation number >>= fun _ => Pure.pure result) suppressed := fun result =>
    Spares.skip naming_spares (releaseOperation_within number) (by decide) fun _ => trivial
  cases err with
  | some err => exact Spares.skip naming_spares (reportOperationError_within writer err) (by decide) released
  | none => exact released none

end Query

theorem handleData_names (config : Config) (whole : message.err = none) (writer : Option MessageWriter) (fuel : Nat) :
    Names message (handleData config message writer fuel) false := by
  refine Spares.skip naming_spares (receiveData_within _ _) (by decide) fun result => ?_
  obtain ⟨interrupted, err⟩ := result
  refine Spares.skip naming_spares (countInterrupted_within interrupted) (by decide) fun _ => ?_
  have answer : Names message (if message.header.type ≠ .dataEnd then Pure.pure none
      else answerProgramMessage config message.header writer fuel) false :=
    Follows.ite (fun _ => trivial) fun last =>
      answerProgramMessage_names whole (not_not.mp last) config writer fuel
  cases err with
  | some err => exact names_within (reportOperationError_within writer err) (by decide)
  | none => exact Follows.ite (fun _ => Spares.step naming_spares rfl fun _ => answer) fun _ => answer

theorem handleSync_names (config : Config) (message : Message) (fuel : Nat) :
    Names message (handleSync config message fuel) false :=
  Spares.handleSync config message fuel naming_spares (by decide) (fun _ => trivial)
    (fun whole _ writer => handleData_names config whole writer fuel)
    (fun _ writer => names_within (handleTrigger_within message writer) (by decide))
    fun _ writer => names_within (handleDeviceClearComplete_within config message writer) (by decide)

end Naming

section Invariant
variable {policy : ResponsePolicy σ} {config : Config} {stream : Source} {made : ReadBuffer limit}
  {loop after : Loop σ limit} {traffic : Traffic limit} {message : Message}

/-- A notice goes out after a suppression, in the name of the query. -/
def Named (notice : Notice) : Prop :=
  ∃ cause, notice.cause = some cause ∧ cause.query.header.type = .dataEnd ∧
    notice.header.messageID = cause.query.header.messageID

structure Handles (loop : Loop σ limit) (message : Message) (program : Act (Option Err)) : Prop where
  running : loop.ended = false
  holds : loop.traffic.held ≠ []
  taken : loop.traffic.taken.getLast? = some message
  names : ∃ suppressed, Names message program suppressed ∧
    (suppressed = true → message.header.type = .dataEnd ∧ ∃ queued, loop.cause = some ⟨message, queued⟩)

structure Sound (stream : Source) (made : ReadBuffer limit) (loop : Loop σ limit) : Prop where
  reads : ∃ lost, ReadAhead.Sound stream made lost loop.traffic
  runs : loop.ended = false → loop.traffic.reader.done = false
  handles : ∀ message program, loop.handling = some (message, program) → Handles loop message program
  notices : ∀ notice ∈ loop.notices, Named notice

theorem sound_initially (stream : Source) (made : ReadBuffer limit) (shared : Shared σ) :
    Sound stream made ({ traffic := { reader := newReader stream made }, shared } : Loop σ limit) :=
  ⟨⟨[], ReadAhead.sound_initially stream made⟩, fun _ => rfl, fun _ _ => nofun, fun _ => nofun⟩

theorem step_ofRun {traffic later : Traffic limit} {move : ReadAhead.Move limit} (own : ofRun move = true)
    (moved : traffic.step move = some later) :
    later.held = traffic.held ∧ later.taken = traffic.taken ∧ later.reader.done = traffic.reader.done := by
  cases move with
  | receiveFree =>
    obtain ⟨reader, received, rfl⟩ := Option.map_eq_some_iff.mp moved
    unfold Reader.receiveFree at received
    split at received <;> cases received
    exact ⟨rfl, rfl, rfl⟩
  | receiveDone =>
    obtain ⟨reader, received, rfl⟩ := Option.map_eq_some_iff.mp moved
    unfold Reader.receiveDone at received
    split at received <;> cases received
    · exact ⟨rfl, rfl, rfl⟩
    · exact ⟨rfl, rfl, rfl⟩
  | fill partly =>
    obtain ⟨reader, filled, rfl⟩ := Option.map_eq_some_iff.mp moved
    unfold Reader.fill at filled
    split at filled <;> cases filled
    exact ⟨rfl, rfl, rfl⟩
  | returnOne =>
    obtain ⟨⟨message, reader⟩, returned, rfl⟩ := Option.map_eq_some_iff.mp moved
    unfold Reader.returnOne at returned
    split at returned <;> cases returned
    exact ⟨rfl, rfl, rfl⟩
  | sendMsg =>
    obtain ⟨reader, sent, rfl⟩ := Option.map_eq_some_iff.mp moved
    unfold Reader.sendMsg at sent
    split at sent
    · split at sent <;> cases sent
      exact ⟨rfl, rfl, rfl⟩
    · cases sent
  | next | release index | stop => cases own

theorem release_done (reader : Reader limit) (buf : Nat) : (reader.release buf).2.done = reader.done := by
  unfold Reader.release
  split <;> rfl

theorem observe_same (loop : Loop σ limit) (query : Message) (op : Op) (reply : op.Reply) :
    (loop.observe query op reply).traffic = loop.traffic ∧ (loop.observe query op reply).ended = loop.ended := by
  unfold Loop.observe
  split
  · exact ⟨rfl, rfl⟩
  · split <;> exact ⟨rfl, rfl⟩
  · exact ⟨rfl, rfl⟩

/-- One operation of the handler. Where it finds the queue not empty, there is a message in
the queue to blame. -/
theorem Handles.advance {op : Op} {next : op.Reply → Act (Option Err)}
    {outside : (op : EnvironmentOp) → Option op.Reply} {reply : op.Reply} {shared : Shared σ}
    (handles : Handles loop message (.request op next))
    (performed : loop.perform policy outside op = some (reply, shared))
    (named : ∀ notice ∈ loop.notices, Named notice) :
    (∃ suppressed, Names message (next reply) suppressed ∧
      (suppressed = true → message.header.type = .dataEnd ∧
        ∃ queued, (loop.observe message op reply).cause = some ⟨message, queued⟩)) ∧
      ∀ notice ∈ (loop.observe message op reply).notices, Named notice := by
  obtain ⟨suppressed, names, causes⟩ := handles.names
  have goes := names.2 reply trivial
  cases op with
  | shared op => exact ⟨⟨suppressed, goes, causes⟩, named⟩
  | environment op =>
    cases op with
    | pending =>
      -- The reply is what the queue says at this moment, and the message at its head is the cause.
      obtain ⟨-, -, last⟩ := names.1
      obtain ⟨answer, -⟩ := Prod.mk.inj (Option.some.inj performed)
      cases reply with
      | false => exact ⟨⟨false, goes, nofun⟩, named⟩
      | true =>
        have some : 0 < loop.traffic.reader.msgs.length := of_decide_eq_true answer
        refine ⟨⟨true, goes, fun _ => ⟨last, ?_⟩⟩, named⟩
        cases queue : loop.traffic.reader.msgs with
        | nil =>
          rw [queue] at some
          cases some
        | cons msg rest =>
          refine ⟨msg.contents loop.traffic.reader.memory, ?_⟩
          simp only [Loop.observe, Loop.suppression, queue, List.head?_cons, Option.map_some]
    | send channel header payload =>
      simp only [Loop.observe]
      split
      next interrupting =>
        refine ⟨⟨suppressed, goes, causes⟩, fun notice member => ?_⟩
        rcases List.mem_append.mp member with earlier | now
        · exact named notice earlier
        · obtain ⟨told, same⟩ := names.1 interrupting
          obtain ⟨last, queued, cause⟩ := causes told
          rw [List.mem_singleton.mp now]
          exact ⟨⟨message, queued⟩, cause, last, same⟩
      next => exact ⟨⟨suppressed, goes, causes⟩, named⟩
    | _ => exact ⟨⟨suppressed, goes, causes⟩, named⟩

section
variable (sound : Sound stream made loop)
include sound

theorem Sound.ofRun {move : ReadAhead.Move limit} (own : ofRun move = true)
    (stepped : loop.traffic.step move = some traffic) : Sound stream made { loop with traffic } := by
  obtain ⟨⟨lost, reads⟩, runs, handles, named⟩ := sound
  obtain ⟨held, taken, done⟩ := step_ofRun own stepped
  refine ⟨reads.step stepped, fun running => done.trans (runs running), fun message program same => ?_, named⟩
  have handled := handles message program same
  exact ⟨handled.running, fun none => handled.holds (held ▸ none), taken ▸ handled.taken, handled.names⟩

theorem Sound.next (running : loop.ended = false) (stepped : loop.traffic.step .next = some traffic) (config : Config)
    (fuel : Nat) :
    Sound stream made { loop with
      traffic
      handling := traffic.taken.getLast?.map fun message => (message, handleSync config message fuel) } := by
  obtain ⟨⟨lost, reads⟩, runs, handles, named⟩ := sound
  have kept := reads.step stepped
  obtain ⟨⟨msg, reader⟩, received, rfl⟩ := Option.map_eq_some_iff.mp stepped
  refine ⟨kept, fun _ => ?_, fun message program same => ?_, named⟩
  · unfold Reader.next at received
    split at received <;> cases received
    exact runs running
  · obtain ⟨last, taken, same⟩ := Option.map_eq_some_iff.mp same
    obtain ⟨rfl, rfl⟩ := Prod.mk.inj same
    refine ⟨running, ?_, taken, false, handleSync_names config last fuel, nofun⟩
    exact List.append_ne_nil_of_right_ne_nil _ (List.cons_ne_nil _ _)

theorem Sound.advance {op : Op} {next : op.Reply → Act (Option Err)}
    {outside : (op : EnvironmentOp) → Option op.Reply} {reply : op.Reply} {shared : Shared σ}
    (handling : loop.handling = some (message, .request op next))
    (performed : loop.perform policy outside op = some (reply, shared)) :
    Sound stream made { loop.observe message op reply with shared, handling := some (message, next reply) } := by
  obtain ⟨⟨lost, reads⟩, runs, handles, named⟩ := sound
  obtain ⟨traffic, ended⟩ := observe_same loop message op reply
  have handled := handles message _ handling
  obtain ⟨names, told⟩ := handled.advance performed named
  refine ⟨⟨lost, traffic ▸ reads⟩, fun running => ?_, fun other program same => ?_, told⟩
  · rw [traffic]
    exact runs (ended ▸ running)
  · obtain ⟨rfl, rfl⟩ := Prod.mk.inj (Option.some.inj same)
    exact ⟨ended ▸ handled.running, traffic ▸ handled.holds, traffic ▸ handled.taken, names⟩

theorem Sound.release {result : Option Err} (handling : loop.handling = some (message, .pure result))
    (stepped : loop.traffic.step (.release 0) = some traffic) :
    Sound stream made { loop with traffic, handling := none, ended := result.isSome } := by
  obtain ⟨⟨lost, reads⟩, runs, handles, named⟩ := sound
  have kept := reads.step stepped
  refine ⟨kept, fun _ => ?_, fun _ _ => nofun, named⟩
  obtain ⟨entry, found, rfl⟩ := Option.map_eq_some_iff.mp stepped
  exact (release_done loop.traffic.reader entry.1.buf).trans (runs (handles message _ handling).running)

theorem Sound.step {move : Move σ limit} (moved : loop.step policy config move = some after) :
    Sound stream made after := by
  cases move with
  | reader move =>
    simp only [Loop.step] at moved
    split at moved
    next own =>
      obtain ⟨traffic, stepped, rfl⟩ := Option.map_eq_some_iff.mp moved
      exact sound.ofRun own stepped
    next => cases moved
  | next fuel =>
    simp only [Loop.step] at moved
    split at moved
    next free =>
      obtain ⟨traffic, stepped, rfl⟩ := Option.map_eq_some_iff.mp moved
      exact sound.next free.2 stepped config fuel
    next => cases moved
  | advance outside =>
    simp only [Loop.step] at moved
    split at moved
    next message op next handling =>
      obtain ⟨⟨reply, shared⟩, performed, rfl⟩ := Option.map_eq_some_iff.mp moved
      exact sound.advance handling performed
    next => cases moved
  | release =>
    simp only [Loop.step] at moved
    split at moved
    next message result handling =>
      obtain ⟨traffic, stepped, rfl⟩ := Option.map_eq_some_iff.mp moved
      exact sound.release handling stepped
    next => cases moved
  | stop =>
    simp only [Loop.step] at moved
    split at moved
    next free =>
      obtain ⟨traffic, stepped, rfl⟩ := Option.map_eq_some_iff.mp moved
      obtain ⟨lost, reads⟩ := sound.reads
      refine ⟨reads.step stepped, nofun, fun message program same => ?_, sound.notices⟩
      rw [Option.isNone_iff_eq_none.mp free] at same
      cases same
    next => cases moved
  | interfere shared =>
    cases moved
    refine ⟨sound.reads, sound.runs, fun message program same => ?_, sound.notices⟩
    have handled := sound.handles message program same
    exact ⟨handled.running, handled.holds, handled.taken, handled.names⟩

/-- A consumer that holds a message leaves the reader one buffer: when a message is queued,
the reader has none in hand. -/
theorem Sound.queued {query : Message} (suppresses : loop.Suppresses query) :
    ∃ before queued, run (List.replicate loop.traffic.read.length made) stream = before ++ [query, queued] ∧
      loop.traffic.taken = before ++ [query] ∧ loop.traffic.read = before ++ [query, queued] := by
  obtain ⟨⟨⟨_, program⟩, handling, rfl, -⟩, waiting⟩ := suppresses
  obtain ⟨⟨lost, reads⟩, runs, handles, -⟩ := sound
  have handled := handles _ program handling
  obtain ⟨before, taken⟩ := List.getLast?_eq_some_iff.mp handled.taken
  have whole : lost = [] := by
    by_contra some
    have done := (reads.gone some).2.1
    rw [runs handled.running] at done
    cases done
  -- One of the two buffers is with the loop and the other in the queue.
  have held : 0 < loop.traffic.held.length := List.length_pos_iff.mpr handled.holds
  have total := reads.length
  have slots : readAheadSlots = 2 := rfl
  obtain ⟨msg, queue⟩ : ∃ msg, loop.traffic.reader.msgs = [msg] := List.length_eq_one_iff.mp (by omega)
  have idle : ReadAhead.offers loop.traffic.reader.point = [] := by
    cases point : loop.traffic.reader.point with
    | offering msg =>
      rw [point, ReadAhead.holds_offering, List.length_singleton] at total
      omega
    | _ => rfl
  have passed := reads.passed
  rw [whole, List.map_nil, List.append_nil, Traffic.passed, queue, idle, List.append_nil, List.map_singleton, taken,
    List.append_assoc] at passed
  exact ⟨before, _, reads.reads.now.trans passed.symm, taken, passed.symm⟩

end

end Invariant

section Runs

/-- However the reader and the loop interleave and whatever the device does: where a response
is suppressed, one message has been received after the query and not been handled. It is
real client input if and only if it came whole and is a Data, DataEnd or Trigger message;
the error of a read counts as well. -/
theorem suppression_real_iff (policy : ResponsePolicy σ) (config : Config) (stream : Source) (made : ReadBuffer limit)
    (shared : Shared σ) (moves : List (Move σ limit)) :
    Always (Loop.step policy config)
      (fun loop => ∀ query, loop.Suppresses query →
        ∃ before queued, run (List.replicate loop.traffic.read.length made) stream = before ++ [query, queued] ∧
          loop.unhandled = [queued] ∧ ((∃ message ∈ loop.unhandled, Real message) ↔ Real queued))
      moves { traffic := { reader := newReader stream made }, shared } := by
  refine always_of_preserved ?_ (fun _ _ _ sound moved => Sound.step sound moved)
    (sound_initially stream made shared)
  intro loop sound query suppresses
  obtain ⟨before, queued, read, taken, all⟩ := sound.queued suppresses
  have unhandled : loop.unhandled = [queued] := by
    rw [Loop.unhandled, all, taken]
    simp
  refine ⟨before, queued, read, unhandled, ?_⟩
  rw [unhandled]
  simp

/-- The messages that tell of a suppression carry the MessageID of the query. They name the
message in the queue only if it happens to have the same. -/
theorem notices_name_query (policy : ResponsePolicy σ) (config : Config) (stream : Source) (made : ReadBuffer limit)
    (shared : Shared σ) (moves : List (Move σ limit)) :
    Always (Loop.step policy config)
      (fun loop => ∀ notice ∈ loop.notices, ∃ cause, notice.cause = some cause ∧
        cause.query.header.type = .dataEnd ∧ notice.header.messageID = cause.query.header.messageID ∧
          (notice.header.messageID = cause.queued.header.messageID ↔
            cause.queued.header.messageID = cause.query.header.messageID))
      moves { traffic := { reader := newReader stream made }, shared } := by
  refine always_of_preserved ?_ (fun _ _ _ sound moved => Sound.step sound moved)
    (sound_initially stream made shared)
  intro loop sound notice member
  obtain ⟨cause, caused, last, same⟩ := sound.notices notice member
  refine ⟨cause, caused, last, same, ?_⟩
  rw [same]
  exact eq_comm

def narrow : Profile := ⟨{ ({} : Config).withDefaults with maxRxPayload := 16, maxTxPayload := 16 }, by decide⟩

def beginning (stream : Source) : Loop Unit narrow.maxRxPayload where
  traffic := { reader := newReader stream ⟨⟨List.replicate 16 0, by decide⟩, by decide⟩ }
  shared := { session := Session.paired narrow alwaysReadPolicy 1 .version10 Version.version10_current 0 1 }

def instrument : (op : EnvironmentOp) → Option op.Reply
  | .write _ _ _ | .send _ _ _ => some none
  | .read _ _ => some ⟨[65], true, none⟩
  | _ => none

def readsOne : List (Move Unit limit) := [.reader .receiveFree, .reader .returnOne, .reader .sendMsg]

def overtaking (steps : Nat) : List (Move Unit limit) :=
  readsOne ++ .next 1 :: readsOne ++ List.replicate steps (.advance instrument)

def question : Bytes := [72, 83, 7, 0, 0, 0, 0, 2, 0, 0, 0, 0, 0, 0, 0, 1, 63]

def followUp : Bytes := [72, 83, 6, 0, 0, 0, 0, 4, 0, 0, 0, 0, 0, 0, 0, 0]

/-- The stream ends after the query. The device has the whole response, and what is in the
queue is the end of the stream. -/
theorem end_of_stream_suppresses :
    ∃ loop, finish (Loop.step alwaysReadPolicy narrow.toConfig) (overtaking 21) (beginning [question]) = some loop ∧
      loop.Suppresses { header := { type := .dataEnd, parameter := 2, length := 1 }, payload := [63] } ∧
      ∀ message ∈ loop.unhandled, ¬ Real message := by
  have runs : (finish (Loop.step alwaysReadPolicy narrow.toConfig) (overtaking 21) (beginning [question])).any
      (fun loop => loop.Suppresses { header := { type := .dataEnd, parameter := 2, length := 1 }, payload := [63] } ∧
        ∀ message ∈ loop.unhandled, ¬ Real message) = true := by
    decide +kernel
  obtain ⟨loop, ran, shown⟩ := (Option.any_eq_true _ _).mp runs
  exact ⟨loop, ran, of_decide_eq_true shown⟩

/-- The response to message 2 is interrupted by message 4. Both notices carry 2. -/
theorem notices_name_another :
    ∃ loop, finish (Loop.step alwaysReadPolicy narrow.toConfig) (overtaking 26) (beginning [question, followUp]) =
        some loop ∧
      loop.notices.map (·.header.type) = [.asyncInterrupted, .interrupted] ∧
      ∀ notice ∈ loop.notices, notice.header.messageID = 2 ∧
        ∃ cause ∈ notice.cause, Real cause.queued ∧ cause.queued.header.messageID = 4 := by
  have runs : (finish (Loop.step alwaysReadPolicy narrow.toConfig) (overtaking 26)
      (beginning [question, followUp])).any
      (fun loop => loop.notices.map (·.header.type) = [.asyncInterrupted, .interrupted] ∧
        ∀ notice ∈ loop.notices, notice.header.messageID = 2 ∧
          ∃ cause ∈ notice.cause, Real cause.queued ∧ cause.queued.header.messageID = 4) = true := by
    decide +kernel
  obtain ⟨loop, ran, shown⟩ := (Option.any_eq_true _ _).mp runs
  exact ⟨loop, ran, of_decide_eq_true shown⟩

end Runs

end Hislip.Proofs.Interruption
