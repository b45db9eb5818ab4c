import Mathlib.Data.List.Perm.Basic
import Hislip.Transition
import Hislip.Proofs.ReaderSync
import Hislip.Server.ReadAhead

/-! A reader and any consumer that releases each message once. Every buffer is in one
place, so nobody writes to what somebody else reads and there is room for every buffer
that comes back. -/

namespace Hislip.Proofs.ReadAhead
open Hislip.Server Hislip.Proofs.ReaderSync Transition

variable {limit : UInt64}

/-- A reader and its consumer. The consumer holds messages, each with what it saw when it
took it; `read` and `taken` are the messages that were read and taken so far. -/
structure Traffic (limit : UInt64) where
  reader : Reader limit
  held : List (Envelope × Message) := []
  read : List Message := []
  taken : List Message := []
  released : Nat := 0
  dropped : Nat := 0

/-- The steps of `run`, and the calls of the consumer: it takes messages, releases those
it holds in any order, and stops the reader. -/
inductive Move (limit : UInt64) where
  | receiveFree
  | receiveDone
  | fill (partly : ReadBuffer limit)
  | returnOne
  | sendMsg
  | next
  | release (index : Nat)
  | stop

namespace Traffic

def step (traffic : Traffic limit) : Move limit → Option (Traffic limit)
  | .receiveFree => traffic.reader.receiveFree.map fun reader => { traffic with reader }
  | .receiveDone => traffic.reader.receiveDone.map fun reader => { traffic with reader }
  | .fill partly => (traffic.reader.fill partly).map fun reader => { traffic with reader }
  | .returnOne => traffic.reader.returnOne.map fun (message, reader) =>
    { traffic with reader, read := traffic.read ++ [message] }
  | .sendMsg => traffic.reader.sendMsg.map fun reader => { traffic with reader }
  | .next => traffic.reader.next.map fun (msg, reader) =>
    { traffic with
      reader
      held := traffic.held ++ [(msg, msg.contents reader.memory)]
      taken := traffic.taken ++ [msg.contents reader.memory] }
  | .release index => traffic.held[index]?.map fun (msg, _) =>
    { traffic with
      reader := (traffic.reader.release msg.buf).2
      held := traffic.held.eraseIdx index
      released := traffic.released + 1
      dropped := if (traffic.reader.release msg.buf).1 then traffic.dropped else traffic.dropped + 1 }
  | .stop => some { traffic with reader := traffic.reader.stop }

end Traffic

def holds : RunPoint → List Nat
  | .reading buf => [buf]
  | .offering msg => [msg.buf]
  | .idle | .returned => []

def offers : RunPoint → List Envelope
  | .offering msg => [msg]
  | .idle | .reading _ | .returned => []

@[simp] theorem holds_offering (msg : Envelope) : holds (.offering msg) = [msg.buf] := rfl

@[simp] theorem offers_offering (msg : Envelope) : offers (.offering msg) = [msg] := rfl

def underWay : RunPoint → Nat
  | .reading _ => 1
  | .idle | .offering _ | .returned => 0

namespace Traffic

/-- The buffers of the free pool, the reader, the queue and the consumer. -/
def places (traffic : Traffic limit) : List Nat :=
  traffic.reader.free ++ holds traffic.reader.point ++ traffic.reader.msgs.map (·.buf) ++ traffic.held.map (·.1.buf)

/-- The messages that were taken, then those in the queue and in the reader as their
buffers show them. -/
def passed (traffic : Traffic limit) : List Message :=
  traffic.taken ++ (traffic.reader.msgs ++ offers traffic.reader.point).map (·.contents traffic.reader.memory)

/-- While the reader runs, every buffer is in one of the four places. No buffer is dropped
and no payload changes while it is held. The messages are passed on as `run` reads them
from the stream, all of them unless the reader is stopped with one in hand, and the
reader is never more than its buffers ahead of the releases. -/
structure Safe (stream : Source) (made : ReadBuffer limit) (traffic : Traffic limit) : Prop where
  partition : traffic.reader.point ≠ .returned → traffic.places.Perm (List.range readAheadSlots)
  kept : traffic.dropped = 0
  intact : ∀ entry ∈ traffic.held, entry.1.contents traffic.reader.memory = entry.2
  inOrder : traffic.read = run (List.replicate traffic.read.length made) stream
  allPassed : traffic.passed = traffic.read ∨
    traffic.reader.point = .returned ∧ traffic.reader.done = true ∧ ∃ last, traffic.passed ++ [last] = traffic.read
  ahead : traffic.read.length + underWay traffic.reader.point ≤ traffic.released + readAheadSlots

end Traffic

section Invariant
variable {stream : Source} {made : ReadBuffer limit} {traffic after : Traffic limit}

def goesOn : RunPoint → Bool
  | .idle | .reading _ => true
  | .offering msg => msg.err.all recoverable
  | .returned => false

/-- What `run` has read of the stream, and what it will read of the rest. -/
structure Reads (stream : Source) (made : ReadBuffer limit) (traffic : Traffic limit) : Prop where
  now : run (List.replicate traffic.read.length made) stream = traffic.read
  later : goesOn traffic.reader.point = true → ∀ more,
    run (List.replicate traffic.read.length made ++ more) stream = traffic.read ++ run more traffic.reader.stream

/-- The invariant: `lost` is what a reader had in hand when it was stopped. -/
structure Sound (stream : Source) (made : ReadBuffer limit) (lost : List (Nat × Message))
    (traffic : Traffic limit) : Prop where
  places : (traffic.places ++ lost.map (·.1)).Perm (List.range readAheadSlots)
  passed : traffic.passed ++ lost.map (·.2) = traffic.read
  gone : lost ≠ [] → traffic.reader.point = .returned ∧ traffic.reader.done = true ∧ lost.length = 1
  kept : traffic.dropped = 0
  intact : ∀ entry ∈ traffic.held, entry.1.contents traffic.reader.memory = entry.2
  released : traffic.taken.length = traffic.released + traffic.held.length
  reads : Reads stream made traffic

variable {lost : List (Nat × Message)} {reader : Reader limit}

theorem Sound.length (sound : Sound stream made lost traffic) :
    traffic.reader.free.length + (holds traffic.reader.point).length + traffic.reader.msgs.length + traffic.held.length +
      lost.length = readAheadSlots := by
  have total := sound.places.length_eq
  simpa only [Traffic.places, List.length_append, List.length_map, List.length_range] using total

theorem Sound.running (sound : Sound stream made lost traffic) (runs : traffic.reader.point ≠ .returned) :
    lost = [] := by
  by_contra some
  exact runs (sound.gone some).1

theorem Sound.safe (sound : Sound stream made lost traffic) : traffic.Safe stream made where
  partition := by
    intro runs
    have places := sound.places
    rwa [sound.running runs, List.map_nil, List.append_nil] at places
  kept := sound.kept
  intact := sound.intact
  inOrder := sound.reads.now.symm
  allPassed := by
    cases lost with
    | nil => exact .inl (by simpa using sound.passed)
    | cons entry rest =>
      obtain ⟨returned, stopped, single⟩ := sound.gone (List.cons_ne_nil _ _)
      obtain rfl : rest = [] := List.eq_nil_of_length_eq_zero (Nat.succ.inj single)
      exact .inr ⟨returned, stopped, entry.2, sound.passed⟩
  ahead := by
    have total := sound.length
    have read := congrArg List.length sound.passed
    have released := sound.released
    simp only [Traffic.passed, List.length_append, List.length_map] at read
    have hand : (offers traffic.reader.point).length + underWay traffic.reader.point =
      (holds traffic.reader.point).length := by
      cases traffic.reader.point <;> rfl
    omega

theorem contents_update {memory : Nat → ReadBuffer limit} {msg : Envelope} {buf : Nat} (other : msg.buf ≠ buf)
    (filled : ReadBuffer limit) : msg.contents (Function.update memory buf filled) = msg.contents memory := by
  unfold Envelope.contents
  rw [Function.update_of_ne other]

/-- The buffer that is read into is nobody else's. -/
theorem Sound.apart (sound : Sound stream made lost traffic) {buf : Nat}
    (reading : traffic.reader.point = .reading buf) :
    (∀ msg ∈ traffic.reader.msgs, msg.buf ≠ buf) ∧ ∀ entry ∈ traffic.held, entry.1.buf ≠ buf := by
  have distinct := sound.places.nodup_iff.mpr List.nodup_range
  simp only [Traffic.places, reading, holds, List.append_assoc, List.cons_append, List.nil_append] at distinct
  have rest := (List.nodup_cons.mp (List.nodup_append.mp distinct).2.1).1
  refine ⟨fun msg member same => rest ?_, fun entry member same => rest ?_⟩
  · exact List.mem_append_left _ (same ▸ List.mem_map_of_mem member)
  · exact List.mem_append_right _ (List.mem_append_left _ (List.mem_map.mpr ⟨entry, member, same⟩))

theorem run_first (made buf : ReadBuffer limit) (more : List (ReadBuffer limit)) (stream : Source) :
    run (made :: more) stream = (readOne stream buf).1 ::
      if (readOne stream buf).1.err.all recoverable then run more (readOne stream buf).2.2 else [] := by
  obtain ⟨message, rest⟩ := readOne_alike stream buf made
  simp only [run, message, rest]
  cases (readOne stream buf).1.err with
  | none => rfl
  | some err =>
    simp only [Option.all_some]
    split <;> rfl

theorem Sound.receiveFree (sound : Sound stream made lost traffic) (moved : traffic.reader.receiveFree = some reader) :
    Sound stream made lost { traffic with reader } := by
  unfold Reader.receiveFree at moved
  split at moved
  next buf free idle pool =>
    cases moved
    refine ⟨?_, ?_, fun some => ?_, sound.kept, sound.intact, sound.released, sound.reads.now, fun _ => ?_⟩
    · refine List.Perm.trans ?_ sound.places
      simp only [Traffic.places, idle, pool, holds, List.append_assoc, List.nil_append, List.cons_append]
      exact List.perm_middle
    · have passed := sound.passed
      simp only [Traffic.passed, idle, offers] at passed ⊢
      exact passed
    · exact absurd (sound.running (by rw [idle]; exact RunPoint.noConfusion)) some
    · exact sound.reads.later (by rw [idle]; rfl)
  next => cases moved

theorem Sound.fill (sound : Sound stream made lost traffic) {partly : ReadBuffer limit}
    (moved : traffic.reader.fill partly = some reader) : Sound stream made lost { traffic with reader } := by
  unfold Reader.fill at moved
  split at moved
  next buf reading =>
    cases moved
    obtain ⟨queued, held⟩ := sound.apart reading
    refine ⟨sound.places, ?_, sound.gone, sound.kept, fun entry member => ?_, sound.released, sound.reads.now, sound.reads.later⟩
    · have passed := sound.passed
      simp only [Traffic.passed, reading, offers, List.append_nil] at passed ⊢
      rw [List.map_congr_left fun msg member => contents_update (queued msg member) partly]
      exact passed
    · rw [contents_update (held entry member)]
      exact sound.intact entry member
  next => cases moved

theorem contents_read (stream : Source) (memory : Nat → ReadBuffer limit) (buf : Nat) :
    Envelope.contents ⟨(readOne stream (memory buf)).1.header, (readOne stream (memory buf)).1.payload.length, buf,
        (readOne stream (memory buf)).1.err⟩ (Function.update memory buf (readOne stream (memory buf)).2.1) =
      (readOne stream (memory buf)).1 := by
  unfold Envelope.contents
  rw [Function.update_self, readOne_payload]

section
variable (sound : Sound stream made lost traffic)
include sound

theorem Sound.returnOne {message : Message} (moved : traffic.reader.returnOne = some (message, reader)) :
    Sound stream made lost { traffic with reader, read := traffic.read ++ [message] } := by
  unfold Reader.returnOne at moved
  split at moved
  next buf reading =>
    obtain ⟨rfl, rfl⟩ := Prod.mk.inj (Option.some.inj moved)
    obtain ⟨queued, held⟩ := sound.apart reading
    have none : lost = [] := sound.running (by rw [reading]; exact RunPoint.noConfusion)
    have later := sound.reads.later (by rw [reading]; rfl)
    have longer (more : List (ReadBuffer limit)) : List.replicate (traffic.read.length + 1) made ++ more =
        List.replicate traffic.read.length made ++ made :: more := by
      rw [List.replicate_succ', List.append_assoc, List.singleton_append]
    refine ⟨?_, ?_, fun some => absurd none some, sound.kept, fun entry member => ?_, sound.released, ?_, fun goes more => ?_⟩
    · have places := sound.places
      simp only [Traffic.places, reading, holds] at places ⊢
      exact places
    · have passed := sound.passed
      subst none
      simp only [Traffic.passed, reading, offers, List.append_nil, List.map_nil, List.map_append, List.map_cons] at passed ⊢
      rw [List.map_congr_left fun msg member => contents_update (queued msg member) _, ← List.append_assoc, passed,
        contents_read]
    · rw [contents_update (held entry member)]
      exact sound.intact entry member
    · have first := run_first made (traffic.reader.memory buf) [] traffic.reader.stream
      have whole := longer []
      rw [List.append_nil] at whole
      rw [List.length_append, List.length_singleton, whole, later, first]
      simp only [run, ite_self]
    · have first := run_first made (traffic.reader.memory buf) more traffic.reader.stream
      have recovers : (readOne traffic.reader.stream (traffic.reader.memory buf)).1.err.all recoverable = true := goes
      rw [if_pos recovers] at first
      rw [List.length_append, List.length_singleton, longer, later, first, List.append_assoc, List.singleton_append]
  next => cases moved

theorem Sound.sent {msg : Envelope} {point : RunPoint} (offering : traffic.reader.point = .offering msg)
    (holdsNone : holds point = []) (offersNone : offers point = [])
    (goes : goesOn point = true → msg.err.all recoverable = true) :
    Sound stream made lost { traffic with reader :=
      { traffic.reader with msgs := traffic.reader.msgs ++ [msg], point } } := by
  have none : lost = [] := sound.running (by rw [offering]; exact RunPoint.noConfusion)
  refine ⟨?_, ?_, fun some => absurd none some, sound.kept, sound.intact, sound.released, sound.reads.now, fun on => ?_⟩
  · refine List.Perm.trans ?_ sound.places
    simp only [Traffic.places, offering, holdsNone, holds_offering, List.map_append, List.map_cons, List.map_nil,
      List.append_assoc,       List.nil_append, List.cons_append]
    exact List.perm_middle.append_left _
  · have passed := sound.passed
    simp only [Traffic.passed, offering, offersNone, offers_offering, List.append_nil] at passed ⊢
    exact passed
  · exact sound.reads.later (by rw [offering]; exact goes on)

theorem Sound.sendMsg (moved : traffic.reader.sendMsg = some reader) :
    Sound stream made lost { traffic with reader } := by
  unfold Reader.sendMsg at moved
  split at moved
  next msg offering =>
    split at moved
    next room =>
      cases moved
      apply sound.sent offering
      · split <;> rfl
      · split <;> rfl
      · intro on
        split at on
        next recovers => exact recovers
        next => cases on
    next => cases moved
  next => cases moved

theorem Sound.next {msg : Envelope} (moved : traffic.reader.next = some (msg, reader)) :
    Sound stream made lost { traffic with
      reader
      held := traffic.held ++ [(msg, msg.contents reader.memory)]
      taken := traffic.taken ++ [msg.contents reader.memory] } := by
  unfold Reader.next at moved
  split at moved
  next first rest queue =>
    cases moved
    refine ⟨?_, ?_, sound.gone, sound.kept, fun entry member => ?_, ?_, sound.reads.now, sound.reads.later⟩
    · refine List.Perm.trans ?_ sound.places
      simp only [Traffic.places, queue, List.map_append, List.map_cons, List.map_nil, List.append_assoc, List.nil_append,
        List.cons_append]
      refine List.Perm.append_left _ (List.Perm.append_left _ ?_)
      rw [← List.append_assoc, ← List.append_assoc]
      exact List.perm_middle
    · have passed := sound.passed
      simp only [Traffic.passed, queue, List.cons_append, List.map_cons] at passed ⊢
      rw [List.append_assoc traffic.taken, List.singleton_append]
      exact passed
    · obtain before | now := List.mem_append.mp member
      · exact sound.intact entry before
      · rw [List.mem_singleton.mp now]
    · have released := sound.released
      simp only [List.length_append, List.length_singleton]
      omega
  next => cases moved

theorem Sound.receiveDone (moved : traffic.reader.receiveDone = some reader) :
    ∃ lost, Sound stream made lost { traffic with reader } := by
  unfold Reader.receiveDone at moved
  split at moved
  next stopped idle =>
    cases moved
    refine ⟨lost, ?_, ?_, fun some => ?_, sound.kept, sound.intact, sound.released, sound.reads.now, fun on => ?_⟩
    · have places := sound.places
      simp only [Traffic.places, idle, holds] at places ⊢
      exact places
    · have passed := sound.passed
      simp only [Traffic.passed, idle, offers] at passed ⊢
      exact passed
    · exact absurd (sound.running (by rw [idle]; exact RunPoint.noConfusion)) some
    · cases on
  next msg stopped offering =>
    cases moved
    obtain rfl : lost = [] := sound.running (by rw [offering]; exact RunPoint.noConfusion)
    refine ⟨[(msg.buf, msg.contents traffic.reader.memory)], ?_, ?_, fun _ => ⟨rfl, stopped, rfl⟩, sound.kept, sound.intact,
      sound.released, sound.reads.now, fun on => ?_⟩
    · refine List.Perm.trans ?_ sound.places
      simp only [Traffic.places, offering, holds, List.map_cons, List.map_nil, List.append_assoc, List.nil_append,
        List.cons_append, List.append_nil]
      refine List.Perm.append_left _ ?_
      rw [← List.append_assoc]
      exact List.perm_append_singleton _ _
    · have passed := sound.passed
      simp only [Traffic.passed, offering, offers, List.append_nil, List.map_append, List.map_cons, List.map_nil,
        List.append_assoc] at passed ⊢
      exact passed
    · cases on
  next => cases moved

theorem Sound.release {index : Nat} {entry : Envelope × Message} (held : traffic.held[index]? = some entry) :
    Sound stream made lost { traffic with
      reader := (traffic.reader.release entry.1.buf).2
      held := traffic.held.eraseIdx index
      released := traffic.released + 1
      dropped := if (traffic.reader.release entry.1.buf).1 then traffic.dropped else traffic.dropped + 1 } := by
  obtain ⟨inside, rfl⟩ := List.getElem?_eq_some_iff.mp held
  have total := sound.length
  have room : traffic.reader.free.length < readAheadSlots := by omega
  have fewer := List.length_eraseIdx_of_lt inside
  simp only [Reader.release, if_pos room]
  refine ⟨?_, sound.passed, sound.gone, sound.kept, fun entry member => ?_, ?_, sound.reads.now, sound.reads.later⟩
  · refine List.Perm.trans ?_ sound.places
    have moved := (List.getElem_cons_eraseIdx_perm inside).map fun entry : Envelope × Message => entry.1.buf
    refine List.perm_iff_count.mpr fun buf => ?_
    have counted := moved.count_eq buf
    simp only [Traffic.places, List.map_cons, List.count_append, List.count_cons, List.count_nil] at counted ⊢
    omega
  · exact sound.intact entry (List.mem_of_mem_eraseIdx member)
  · have released := sound.released
    change traffic.taken.length = traffic.released + 1 + (traffic.held.eraseIdx index).length
    omega

theorem Sound.step {move : Move limit} (moved : traffic.step move = some after) :
    ∃ lost, Sound stream made lost after := by
  cases move with
  | receiveFree =>
    obtain ⟨reader, received, rfl⟩ := Option.map_eq_some_iff.mp moved
    exact ⟨lost, sound.receiveFree received⟩
  | receiveDone =>
    obtain ⟨reader, received, rfl⟩ := Option.map_eq_some_iff.mp moved
    exact sound.receiveDone received
  | fill partly =>
    obtain ⟨reader, filled, rfl⟩ := Option.map_eq_some_iff.mp moved
    exact ⟨lost, sound.fill filled⟩
  | returnOne =>
    obtain ⟨⟨message, reader⟩, returned, rfl⟩ := Option.map_eq_some_iff.mp moved
    exact ⟨lost, sound.returnOne returned⟩
  | sendMsg =>
    obtain ⟨reader, sent, rfl⟩ := Option.map_eq_some_iff.mp moved
    exact ⟨lost, sound.sendMsg sent⟩
  | next =>
    obtain ⟨⟨msg, reader⟩, received, rfl⟩ := Option.map_eq_some_iff.mp moved
    exact ⟨lost, sound.next received⟩
  | release index =>
    obtain ⟨entry, held, rfl⟩ := Option.map_eq_some_iff.mp moved
    exact ⟨lost, sound.release held⟩
  | stop =>
    cases moved
    refine ⟨lost, sound.places, sound.passed, fun some => ?_, sound.kept, sound.intact, sound.released, sound.reads.now,
      sound.reads.later⟩
    obtain ⟨returned, -, single⟩ := sound.gone some
    exact ⟨returned, rfl, single⟩

end

theorem sound_initially (stream : Source) (made : ReadBuffer limit) :
    Sound stream made [] { reader := newReader stream made } where
  places := by
    simp [Traffic.places, newReader, holds]
  passed := rfl
  gone := fun some => absurd rfl some
  kept := rfl
  intact := fun _ => nofun
  released := rfl
  reads := ⟨rfl, fun _ _ => rfl⟩

end Invariant

/-- A reader and its consumer are safe in every run, however their steps interleave. -/
theorem reader_safe (stream : Source) (made : ReadBuffer limit) (moves : List (Move limit)) :
    Always Traffic.step (Traffic.Safe stream made) moves { reader := newReader stream made } := by
  have implies : ∀ traffic, (∃ lost, Sound stream made lost traffic) → Traffic.Safe stream made traffic := by
    rintro traffic ⟨lost, sound⟩
    exact sound.safe
  refine always_of_preserved implies ?_ ⟨[], sound_initially stream made⟩
  rintro traffic move after ⟨lost, sound⟩ moved
  exact sound.step moved

end Hislip.Proofs.ReadAhead
