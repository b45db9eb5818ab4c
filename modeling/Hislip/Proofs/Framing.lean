import Hislip.Discipline
import Hislip.Transition
import Hislip.Proofs.Codec
import Hislip.Server.Data

/-! Two loops write messages through one writer, step by step: each message is
encoded into the shared header buffer, then the buffer is written, then the
payload. The stream stays well framed as long as no message with a payload
overlaps another. -/

namespace Hislip.Proofs.Framing
open Hislip.Server Hislip.Proofs.Codec Program Transition

/-- What the server's loops take as one send is what the writer puts on the
stream: both refuse the same calls, and a call that is sent writes its encoding. -/
theorem write_refines_writeBytes (writer : MessageWriter) (header : Header) (payload : Slice) (output : Output) :
    (∃ err, writer.write header payload.bytes = .pure (some err) ∧ writer.writeBytes header payload = .pure (some err)) ∨
      writer.write header payload.bytes =
          Act.environment (.send writer.channel (WriteCall.sent ⟨header, payload⟩) payload.bytes) ∧
        ∃ final, exec WriterOp.handler (writer.writeBytes header payload) output = (some none, final) ∧
          final.out = output.out ++ (WriteCall.sent ⟨header, payload⟩).wire ++ payload.bytes := by
  by_cases legal : header.type.legalOn writer.channel
  · by_cases agrees : header.length = 0 ∨ header.length = payload.len
    · obtain ⟨final, wrote, out⟩ := exec_writeMessage ⟨⟨header, payload⟩, agrees⟩ output
      refine .inr ⟨MessageWriter.write_eq legal agrees, final, ?_, by rw [out, List.append_assoc]; rfl⟩
      simp only [MessageWriter.writeBytes, legal, not_true_eq_false, if_false]
      exact wrote
    · refine .inl ⟨Sentinel.payloadLength, ?_, ?_⟩
      · simp only [MessageWriter.write, legal, not_true_eq_false, if_false]
        exact if_pos (not_or.mp agrees)
      · simp only [MessageWriter.writeBytes, legal, not_true_eq_false, if_false]
        exact if_pos (not_or.mp agrees)
  · exact .inl ⟨Sentinel.wrongChannel, if_pos legal, if_pos legal⟩

inductive Loop where
  | sync | async
  deriving DecidableEq, Repr

def Loop.other : Loop → Loop
  | .sync => .async
  | .async => .sync

structure Writing where
  call : WriteCall
  program : WriterProgram (Option Err)

/-- Whether the call has stored its header in the shared buffer and not yet
written all of its message. -/
def Writing.underWay (writing : Writing) : Bool :=
  match writing.program with
  | .request .writeBuffer _ => true
  | .request (.write _) _ => true
  | _ => false

/-- One session's asynchronous writer: its buffer and stream, what each loop is
doing with it, and all calls made so far. -/
structure FramingSystem where
  output : Output
  current : Loop → Option Writing
  calls : List WriteCall

/-- The synchronous loop announces interrupted responses; the asynchronous loop
sends replies of any kind. -/
inductive FramingAction where
  | interrupt (messageID : MessageID)
  | reply (header : Header) (payload : Slice)
  | advance (loop : Loop)

namespace FramingSystem

def initial : FramingSystem where
  output := { buf := List.replicate headerSize 0, sized := emptyBuffer_sized, out := [] }
  current := fun _ => none
  calls := []

/-- A loop makes its next call once the previous one has returned. -/
def start (system : FramingSystem) (loop : Loop) (call : WriteCall) : Option FramingSystem :=
  match system.current loop with
  | some ⟨_, .request _ _⟩ => none
  | _ =>
    some { system with
      current := Function.update system.current loop
        (some ⟨call, MessageWriter.writeBytes ⟨.asynchronous⟩ call.header call.payload⟩)
      calls := system.calls ++ [call] }

def step (system : FramingSystem) : FramingAction → Option FramingSystem
  | .interrupt messageID =>
    system.start .sync ⟨{ type := .asyncInterrupted, parameter := messageID }, ⟨[], by decide⟩⟩
  | .reply header payload => system.start .async ⟨header, payload⟩
  | .advance loop =>
    match system.current loop with
    | some ⟨call, .request op next⟩ =>
      some { system with
        output := (op.apply system.output).2
        current := Function.update system.current loop (some ⟨call, next (op.apply system.output).1⟩) }
    | _ => none

/-- The stream holds whole encodings of calls that were made, the last of them
perhaps cut short. -/
def WellFramed (system : FramingSystem) : Prop :=
  ∃ messages : List WriteCall, (∀ message ∈ messages, message ∈ system.calls) ∧
    system.output.out <+: (messages.map (·.wire)).flatten

/-- A call that stores its header while the other loop's call is under way has no
payload, and neither has the other. -/
def Serialised (system : FramingSystem) : FramingAction → Prop
  | .advance loop =>
    ∀ writing other header next, system.current loop = some writing → writing.program = .request (.encode header) next →
      system.current loop.other = some other → other.underWay →
        writing.call.payload.bytes = [] ∧ other.call.payload.bytes = []
  | _ => True

end FramingSystem

/-- The stages of a call: before it stores its header, with the header in the
buffer, with the header on the stream and a payload to come, and after that. -/
inductive WritePhase where
  | waiting | encoded | headed | finished
  deriving DecidableEq

def WritePhase.busy (phase : WritePhase) : Prop := phase = .encoded ∨ phase = .headed

/-- A call stores the header it sends, writes the buffer, and writes its payload
if it has one. The stream accepts every write. -/
def framing (call : WriteCall) : Discipline WriterOp WriterOp.Reply WritePhase where
  allowed
    | .waiting, op => op = .encode call.sent
    | .encoded, op => op = .writeBuffer
    | .headed, op => op = .write call.payload.bytes
    | .finished, _ => False
  possible _ _ reply := reply = none
  advance
    | .waiting, _, _ => .encoded
    | .encoded, _, _ => if call.payload.bytes = [] then .finished else .headed
    | _, _, _ => .finished

/-- What is left of a call in a phase; it returns before it stored anything or
after it wrote everything. -/
abbrev Writes (writing : Writing) (phase : WritePhase) : Prop :=
  writing.program.Follows (framing writing.call) (fun _ final => final = .waiting ∨ final = .finished) phase

theorem writeBytes_writes (writer : MessageWriter) (call : WriteCall) :
    Writes ⟨call, writer.writeBytes call.header call.payload⟩ .waiting := by
  simp only [Writes, MessageWriter.writeBytes]
  split
  next => exact .inl rfl
  next =>
    unfold writeMessage
    split
    next => exact .inl rfl
    next =>
      refine ⟨rfl, fun reply stored => ?_⟩
      cases stored
      refine ⟨rfl, fun reply headed => ?_⟩
      cases headed
      by_cases empty : call.payload.bytes = []
      · simp only [framing, empty, List.length_nil, if_true]
        exact .inr rfl
      · have long : ¬ call.payload.bytes.length = 0 := fun zero => empty (List.eq_nil_of_length_eq_zero zero)
        simp only [framing, empty, long, if_false]
        exact ⟨rfl, fun reply sent => .inr rfl⟩

theorem Writes.underWay_iff {writing : Writing} {phase : WritePhase} (writes : Writes writing phase) :
    writing.underWay ↔ phase.busy := by
  obtain ⟨call, program⟩ := writing
  cases program with
  | pure result => cases writes with | _ ended => subst ended; simp [Writing.underWay, WritePhase.busy]
  | request op next =>
    cases phase with
    | waiting =>
      obtain rfl : op = .encode call.sent := writes.1
      simp [Writing.underWay, WritePhase.busy]
    | encoded =>
      obtain rfl : op = .writeBuffer := writes.1
      simp [Writing.underWay, WritePhase.busy]
    | headed =>
      obtain rfl : op = .write call.payload.bytes := writes.1
      simp [Writing.underWay, WritePhase.busy]
    | finished => exact writes.1.elim

theorem Loop.forall_of_other {property : Loop → Prop} (loop : Loop) (here : property loop)
    (there : property loop.other) : ∀ each, property each := by
  intro each
  cases loop <;> cases each <;> assumption

private theorem other_ne (loop : Loop) : loop.other ≠ loop := by cases loop <;> decide

@[simp] theorem Loop.other_other (loop : Loop) : loop.other.other = loop := by cases loop <;> rfl

namespace FramingSystem

/-- Whole encodings of calls that were made. -/
def Whole (system : FramingSystem) (bytes : Bytes) : Prop :=
  ∃ messages : List WriteCall, (∀ message ∈ messages, message ∈ system.calls) ∧ bytes = (messages.map (·.wire)).flatten

/-- The header of a call that was made, with a payload of these bytes. -/
def HeaderOf (system : FramingSystem) (payload bytes : Bytes) : Prop :=
  ∃ message ∈ system.calls, message.payload.bytes = payload ∧ bytes = message.sent.wire

theorem Whole.concat {system : FramingSystem} {bytes payload header : Bytes} (whole : system.Whole bytes)
    (headed : system.HeaderOf payload header) : system.Whole (bytes ++ header ++ payload) := by
  obtain ⟨messages, made, rfl⟩ := whole
  obtain ⟨message, member, rfl, rfl⟩ := headed
  refine ⟨messages ++ [message], fun each found => ?_, ?_⟩
  · obtain earlier | last := List.mem_append.mp found
    · exact made each earlier
    · cases List.mem_singleton.mp last
      exact member
  · simp [WriteCall.wire]

/-- The phases that the two loops are in, and what they say about the buffer and
the stream. -/
structure Tracks (system : FramingSystem) (phase : Loop → WritePhase) : Prop where
  writes : ∀ loop writing, system.current loop = some writing → Writes writing (phase loop)
  made : ∀ loop writing, system.current loop = some writing → writing.call ∈ system.calls
  idle : ∀ loop, system.current loop = none → phase loop = .finished
  apart : ∀ loop, (phase loop).busy → (phase loop.other).busy →
    ∀ writing, system.current loop = some writing → writing.call.payload.bytes = []
  stored : ∀ loop writing, system.current loop = some writing → phase loop = .encoded →
    system.HeaderOf writing.call.payload.bytes system.output.buf
  whole : (∀ loop, phase loop ≠ .headed) → system.Whole system.output.out
  cut : ∀ loop writing, system.current loop = some writing → phase loop = .headed →
    writing.call.payload.bytes ≠ [] ∧
      ∃ bytes header, system.Whole bytes ∧ system.HeaderOf writing.call.payload.bytes header ∧
        system.output.out = bytes ++ header

variable {phase : Loop → WritePhase}

theorem Tracks.wellFramed {system : FramingSystem} (tracks : system.Tracks phase) : system.WellFramed := by
  by_cases quiet : ∀ loop, phase loop ≠ .headed
  · obtain ⟨messages, made, out⟩ := tracks.whole quiet
    exact ⟨messages, made, out ▸ List.prefix_rfl⟩
  · obtain ⟨loop, headed⟩ := not_forall_not.mp quiet
    cases found : system.current loop with
    | none => cases headed.symm.trans (tracks.idle loop found)
    | some writing =>
      obtain ⟨-, bytes, header, whole, made, out⟩ := tracks.cut loop writing found headed
      obtain ⟨messages, members, flat⟩ := whole.concat made
      exact ⟨messages, members, flat ▸ out ▸ List.prefix_append _ _⟩

variable {system after : FramingSystem}

private theorem headerOf_mono {payload bytes : Bytes} (grown : ∀ call ∈ system.calls, call ∈ after.calls)
    (made : system.HeaderOf payload bytes) : after.HeaderOf payload bytes := by
  obtain ⟨message, member, same⟩ := made
  exact ⟨message, grown message member, same⟩

private theorem whole_mono {bytes : Bytes} (grown : ∀ call ∈ system.calls, call ∈ after.calls)
    (whole : system.Whole bytes) : after.Whole bytes := by
  obtain ⟨messages, made, flat⟩ := whole
  exact ⟨messages, fun message member => grown message (made message member), flat⟩

theorem Tracks.start (tracks : system.Tracks phase) {loop : Loop} {call : WriteCall}
    (moved : system.start loop call = some after) : after.Tracks (Function.update phase loop .waiting) := by
  have settled : ¬ (phase loop).busy := by
    intro busy
    unfold FramingSystem.start at moved
    cases found : system.current loop with
    | none => rw [tracks.idle loop found] at busy; simp [WritePhase.busy] at busy
    | some writing =>
      have underWay := (tracks.writes loop writing found).underWay_iff.mpr busy
      obtain ⟨call, program⟩ := writing
      cases program with
      | pure result => simp [Writing.underWay] at underWay
      | request op next => simp [found] at moved
  have shape : after = { system with
      current := Function.update system.current loop
        (some ⟨call, MessageWriter.writeBytes ⟨.asynchronous⟩ call.header call.payload⟩)
      calls := system.calls ++ [call] } := by
    unfold FramingSystem.start at moved
    split at moved
    next => cases moved
    next => simpa using moved.symm
  subst shape
  have grown : ∀ each ∈ system.calls, each ∈ system.calls ++ [call] := fun each member => List.mem_append_left _ member
  have there := other_ne loop
  refine ⟨?_, ?_, ?_, ?_, ?_, ?_, ?_⟩
  · refine Loop.forall_of_other loop (fun writing found => ?_) (fun writing found => ?_)
    · simp only [Function.update_self, Option.some.injEq] at found
      subst found
      rw [Function.update_self]
      exact writeBytes_writes _ call
    · simp only [Function.update_of_ne there] at found ⊢
      exact tracks.writes _ writing found
  · refine Loop.forall_of_other loop (fun writing found => ?_) (fun writing found => ?_)
    · simp only [Function.update_self, Option.some.injEq] at found
      subst found
      exact List.mem_append_right _ (List.mem_singleton_self call)
    · simp only [Function.update_of_ne there] at found
      exact grown _ (tracks.made _ writing found)
  · refine Loop.forall_of_other loop (fun found => ?_) (fun found => ?_)
    · simp [Function.update_self] at found
    · simp only [Function.update_of_ne there] at found ⊢
      exact tracks.idle _ found
  · refine Loop.forall_of_other loop (fun busy => ?_) (fun _ busy => ?_)
    · simp [Function.update_self, WritePhase.busy] at busy
    · simp [Function.update_self, WritePhase.busy] at busy
  · refine Loop.forall_of_other loop (fun writing _ waiting => ?_) (fun writing found encoded => ?_)
    · simp [Function.update_self] at waiting
    · simp only [Function.update_of_ne there] at found encoded
      exact headerOf_mono grown (tracks.stored _ writing found encoded)
  · intro quiet
    refine whole_mono grown (tracks.whole (Loop.forall_of_other loop (fun headed => settled (.inr headed)) ?_))
    have calm := quiet loop.other
    rwa [Function.update_of_ne there] at calm
  · refine Loop.forall_of_other loop (fun writing _ waiting => ?_) (fun writing found headed => ?_)
    · simp [Function.update_self] at waiting
    · simp only [Function.update_of_ne there] at found headed
      obtain ⟨long, bytes, header, whole, made, out⟩ := tracks.cut _ writing found headed
      exact ⟨long, bytes, header, whole_mono grown whole, headerOf_mono grown made, out⟩

section Advance
variable {system : FramingSystem} {phase : Loop → WritePhase} {loop : Loop} {writing : Writing}
  {program : WriterProgram (Option Err)}

section
variable (tracks : system.Tracks phase)
include tracks

/-- What a step of one loop's call has to establish: its own new phase, and what
the other loop's phase says about the new buffer and stream. -/
private theorem Tracks.moved (found : system.current loop = some writing) {output : Output} {next : WritePhase}
    (writes : Writes ⟨writing.call, program⟩ next)
    (apart : next.busy → (phase loop.other).busy → writing.call.payload.bytes = [] ∧
      ∀ other, system.current loop.other = some other → other.call.payload.bytes = [])
    (stored : next = .encoded → system.HeaderOf writing.call.payload.bytes output.buf)
    (kept : ∀ other, system.current loop.other = some other → phase loop.other = .encoded →
      system.HeaderOf other.call.payload.bytes output.buf)
    (whole : next ≠ .headed → phase loop.other ≠ .headed → system.Whole output.out)
    (cut : next = .headed → writing.call.payload.bytes ≠ [] ∧ ∃ bytes header, system.Whole bytes ∧
      system.HeaderOf writing.call.payload.bytes header ∧ output.out = bytes ++ header)
    (calm : phase loop.other = .headed → output.out = system.output.out) :
    ({ system with output, current := Function.update system.current loop (some ⟨writing.call, program⟩) } :
      FramingSystem).Tracks (Function.update phase loop next) := by
  have there := other_ne loop
  refine ⟨?_, ?_, ?_, ?_, ?_, fun quiet => ?_, ?_⟩
  · refine Loop.forall_of_other loop (fun each found => ?_) (fun each found => ?_)
    · simp only [Function.update_self, Option.some.injEq] at found
      subst found
      rwa [Function.update_self]
    · simp only [Function.update_of_ne there] at found ⊢
      exact tracks.writes _ each found
  · refine Loop.forall_of_other loop (fun each same => ?_) (fun each same => ?_)
    · simp only [Function.update_self, Option.some.injEq] at same
      subst same
      exact tracks.made loop writing found
    · simp only [Function.update_of_ne there] at same
      exact tracks.made _ each same
  · refine Loop.forall_of_other loop (fun found => ?_) (fun found => ?_)
    · simp [Function.update_self] at found
    · simp only [Function.update_of_ne there] at found ⊢
      exact tracks.idle _ found
  · refine Loop.forall_of_other loop (fun here busy each found => ?_) (fun busy here each found => ?_)
    · simp only [Function.update_self, Function.update_of_ne there, Option.some.injEq] at here busy found
      subst found
      exact (apart here busy).1
    · simp only [Loop.other_other, Function.update_self, Function.update_of_ne there] at here busy found
      exact (apart here busy).2 each found
  · refine Loop.forall_of_other loop (fun each found encoded => ?_) (fun each found encoded => ?_)
    · simp only [Function.update_self, Option.some.injEq] at found encoded
      subst found
      exact stored encoded
    · simp only [Function.update_of_ne there] at found encoded
      exact kept each found encoded
  · have here := quiet loop
    have other := quiet loop.other
    rw [Function.update_self] at here
    rw [Function.update_of_ne there] at other
    exact whole here other
  · refine Loop.forall_of_other loop (fun each found headed => ?_) (fun each found headed => ?_)
    · simp only [Function.update_self, Option.some.injEq] at found headed
      subst found
      exact cut headed
    · simp only [Function.update_of_ne there] at found headed
      rw [calm headed]
      exact tracks.cut _ each found headed

private theorem Tracks.alone (found : system.current loop = some writing) (headed : phase loop = .headed) :
    ¬ (phase loop.other).busy := fun busy =>
  (tracks.cut loop writing found headed).1 (tracks.apart loop (.inr headed) busy writing found)

private theorem Tracks.current_of_busy (busy : (phase loop).busy) : ∃ writing, system.current loop = some writing := by
  cases found : system.current loop with
  | none => rw [tracks.idle loop found] at busy; simp [WritePhase.busy] at busy
  | some writing => exact ⟨writing, rfl⟩

/-- The header goes into the buffer. A call under way in the other loop has no
payload then, so this header is as good as its own. -/
theorem Tracks.encode (found : system.current loop = some writing) (waiting : phase loop = .waiting)
    (serialised : ∀ other, system.current loop.other = some other → other.underWay → writing.call.payload.bytes = [] ∧
      other.call.payload.bytes = [])
    (writes : Writes ⟨writing.call, program⟩ .encoded) :
    ({ system with
        output := ((WriterOp.encode writing.call.sent).apply system.output).2
        current := Function.update system.current loop (some ⟨writing.call, program⟩) } : FramingSystem).Tracks
      (Function.update phase loop .encoded) := by
  have own : system.HeaderOf writing.call.payload.bytes writing.call.sent.wire :=
    ⟨writing.call, tracks.made loop writing found, rfl, rfl⟩
  have empty : (phase loop.other).busy → writing.call.payload.bytes = [] ∧
      ∀ other, system.current loop.other = some other → other.call.payload.bytes = [] := by
    intro busy
    obtain ⟨other, there⟩ := tracks.current_of_busy busy
    have both := serialised other there ((tracks.writes _ other there).underWay_iff.mpr busy)
    refine ⟨both.1, fun each same => ?_⟩
    cases there.symm.trans same
    exact both.2
  have notHeaded : phase loop.other ≠ .headed := by
    intro headed
    obtain ⟨other, there⟩ := tracks.current_of_busy (.inr headed)
    exact (tracks.cut _ other there headed).1 ((empty (.inr headed)).2 other there)
  rw [WriterOp.apply_encode]
  refine tracks.moved found writes (fun _ busy => empty busy) (fun _ => own) (fun other there encoded => ?_)
    (fun _ _ => ?_) (fun headed => nomatch headed) (fun headed => absurd headed notHeaded)
  · have both := empty (.inl encoded)
    rw [both.2 other there, ← both.1]
    exact own
  · exact tracks.whole (Loop.forall_of_other loop (by rw [waiting]; decide) notHeaded)

theorem Tracks.writeBuffer (found : system.current loop = some writing) (encoded : phase loop = .encoded)
    (writes : Writes ⟨writing.call, program⟩ (if writing.call.payload.bytes = [] then .finished else .headed)) :
    ({ system with
        output := (WriterOp.writeBuffer.apply system.output).2
        current := Function.update system.current loop (some ⟨writing.call, program⟩) } : FramingSystem).Tracks
      (Function.update phase loop (if writing.call.payload.bytes = [] then .finished else .headed)) := by
  have notHeaded : phase loop.other ≠ .headed := by
    intro headed
    obtain ⟨other, there⟩ := tracks.current_of_busy (.inr headed)
    exact tracks.alone there headed (by rw [Loop.other_other]; exact .inl encoded)
  have header := tracks.stored loop writing found encoded
  have whole := tracks.whole (Loop.forall_of_other loop (by rw [encoded]; decide) notHeaded)
  by_cases empty : writing.call.payload.bytes = []
  · rw [if_pos empty] at writes ⊢
    refine tracks.moved found writes (fun busy => ?_) (fun same => nomatch same) (fun other there same => ?_)
      (fun _ _ => ?_) (fun same => nomatch same) (fun headed => absurd headed notHeaded)
    · simp [WritePhase.busy] at busy
    · exact tracks.stored _ other there same
    · have more := whole.concat header
      rwa [empty, List.append_nil] at more
  · rw [if_neg empty] at writes ⊢
    refine tracks.moved found writes (fun _ busy => ?_) (fun same => nomatch same) (fun other there same => ?_)
      (fun same => absurd rfl same) (fun _ => ⟨empty, _, _, whole, header, rfl⟩) (fun headed => absurd headed notHeaded)
    · exact absurd (tracks.apart loop (.inl encoded) busy writing found) empty
    · exact tracks.stored _ other there same

theorem Tracks.writePayload (found : system.current loop = some writing) (headed : phase loop = .headed)
    (writes : Writes ⟨writing.call, program⟩ .finished) :
    ({ system with
        output := ((WriterOp.write writing.call.payload.bytes).apply system.output).2
        current := Function.update system.current loop (some ⟨writing.call, program⟩) } : FramingSystem).Tracks
      (Function.update phase loop .finished) := by
  have alone := tracks.alone found headed
  refine tracks.moved found writes (fun busy => ?_) (fun same => nomatch same) (fun _ _ encoded => absurd (.inl encoded) alone)
    (fun _ _ => ?_) (fun same => nomatch same) (fun same => absurd (.inr same) alone)
  · simp [WritePhase.busy] at busy
  · obtain ⟨-, bytes, header, whole, made, out⟩ := tracks.cut loop writing found headed
    have more := whole.concat made
    rwa [← out] at more

end

end Advance

theorem Tracks.step (tracks : system.Tracks phase) {action : FramingAction} (serialised : system.Serialised action)
    (moved : system.step action = some after) : ∃ phase, after.Tracks phase := by
  cases action with
  | interrupt messageID => exact ⟨_, tracks.start moved⟩
  | reply header payload => exact ⟨_, tracks.start moved⟩
  | advance loop =>
    simp only [FramingSystem.step] at moved
    split at moved
    next call op next found =>
      cases moved
      have writes := tracks.writes loop _ found
      cases current : phase loop with
      | waiting =>
        rw [current] at writes
        obtain rfl : op = .encode call.sent := writes.1
        refine ⟨_, tracks.encode found current (fun other there underWay => ?_) (writes.2 _ ?_)⟩
        · exact serialised _ other _ next found rfl there underWay
        · rw [WriterOp.apply_encode]
          rfl
      | encoded =>
        rw [current] at writes
        obtain rfl : op = .writeBuffer := writes.1
        exact ⟨_, tracks.writeBuffer found current (writes.2 _ rfl)⟩
      | headed =>
        rw [current] at writes
        obtain rfl : op = .write call.payload.bytes := writes.1
        exact ⟨_, tracks.writePayload found current (writes.2 _ rfl)⟩
      | finished =>
        rw [current] at writes
        exact writes.1.elim
    next => cases moved

theorem initial_tracks : initial.Tracks fun _ => .finished where
  writes _ _ found := nomatch found
  made _ _ found := nomatch found
  idle _ _ := rfl
  apart _ busy := by simp [WritePhase.busy] at busy
  stored _ _ found := nomatch found
  whole _ := ⟨[], fun _ member => (nomatch member), rfl⟩
  cut _ _ found := nomatch found

end FramingSystem

/-- In every run in which no message with a payload overlaps another, the stream
is well framed in every state. -/
theorem async_framing (actions : List FramingAction)
    (serialised : Throughout FramingSystem.step FramingSystem.Serialised actions FramingSystem.initial) :
    Always FramingSystem.step FramingSystem.WellFramed actions FramingSystem.initial :=
  always_of_invariant (fun (system : FramingSystem) (holds : ∃ phase, system.Tracks phase) => by
      obtain ⟨phase, tracks⟩ := holds
      exact tracks.wellFramed)
    (fun _ _ _ holds met moved => by
      obtain ⟨phase, tracks⟩ := holds
      exact tracks.step met moved)
    ⟨_, FramingSystem.initial_tracks⟩ serialised

/-- A reply with a payload is written, then an interrupted response is announced. -/
theorem async_framing_in_turn :
    Always FramingSystem.step FramingSystem.WellFramed
      [.reply { type := .asyncMaximumMessageSizeResponse } ⟨[0, 0, 0, 0, 0, 0, 4, 0], by decide⟩, .advance .async,
        .advance .async, .advance .async, .interrupt 7, .advance .sync, .advance .sync] FramingSystem.initial := by
  refine async_framing _ ?_
  refine fun after moved => ⟨trivial, ?_⟩
  obtain rfl := Option.some.inj moved
  refine fun after moved => ⟨fun _ other _ _ _ _ there _ => (nomatch (there : none = some other)), ?_⟩
  obtain rfl := Option.some.inj moved
  refine fun after moved => ⟨fun _ other _ _ _ _ there _ => (nomatch (there : none = some other)), ?_⟩
  obtain rfl := Option.some.inj moved
  refine fun after moved => ⟨fun _ other _ _ _ _ there _ => (nomatch (there : none = some other)), ?_⟩
  obtain rfl := Option.some.inj moved
  refine fun after moved => ⟨trivial, ?_⟩
  obtain rfl := Option.some.inj moved
  refine fun after moved => ⟨fun _ other _ _ _ _ there underWay => ?_, ?_⟩
  · cases there
    exact nomatch (underWay : false = true)
  obtain rfl := Option.some.inj moved
  refine fun after moved => ⟨fun _ other _ _ _ _ there underWay => ?_, trivial⟩
  cases there
  exact nomatch (underWay : false = true)

/-- The announcement falls between the header and the payload of the reply: no
list of these two messages begins with what is then on the stream. -/
theorem async_framing_broken :
    ∃ system, finish FramingSystem.step
        [.reply { type := .asyncMaximumMessageSizeResponse } ⟨[0, 0, 0, 0, 0, 0, 4, 0], by decide⟩, .advance .async,
          .advance .async, .interrupt 7, .advance .sync, .advance .sync] FramingSystem.initial = some system ∧
      ¬ system.WellFramed := by
  refine ⟨_, rfl, ?_⟩
  rintro ⟨messages, made, front⟩
  cases messages with
  | nil => exact absurd front.length_le (by decide)
  | cons first rest =>
    have begins := List.prefix_append first.wire (rest.map (·.wire)).flatten
    rw [List.map_cons, List.flatten_cons] at front
    obtain rfl | rfl : first = ⟨{ type := .asyncMaximumMessageSizeResponse }, ⟨[0, 0, 0, 0, 0, 0, 4, 0], by decide⟩⟩ ∨
        first = ⟨{ type := .asyncInterrupted, parameter := 7 }, ⟨[], by decide⟩⟩ := by
      simpa [FramingSystem.initial] using made first List.mem_cons_self
    · exact absurd (List.prefix_of_prefix_length_le begins front (by decide)) (by decide)
    · exact absurd (List.prefix_of_prefix_length_le begins front (by decide)) (by decide)

end Hislip.Proofs.Framing
