import Hislip.Proofs.Codec
import Hislip.Protocol.Payload
import Hislip.Rounds

/-! `ReadPayload` passes on what was declared and nothing else. One lemma says what a
round can do; the tally of chunks, bytes and count is kept by every round, and the
count goes down until the loop is left. -/

namespace Hislip.Proofs.Payload
open Stream' StateTransition

section Prefixes
variable {α : Type}

theorem take_add (sequence : Seq α) (first second : Nat) :
    sequence.take (first + second) = sequence.take first ++ (sequence.drop first).take second := by
  have front : (sequence.take (first + second)).take first = sequence.take first := by
    apply List.ext_getElem?
    intro index
    grind
  have back := sequence.take_drop (n := first + second) (m := first)
  rw [Nat.add_sub_cancel_left] at back
  rw [← List.take_append_drop first (sequence.take (first + second)), front, back]

theorem length_take_drop {sequence : Seq α} {skip count total : Nat} (within : skip + count ≤ total)
    (long : (sequence.take total).length = total) : ((sequence.drop skip).take count).length = count := by
  have split := take_add sequence (skip + count) (total - (skip + count))
  rw [Nat.add_sub_cancel' within, take_add sequence skip count] at split
  rw [split, List.length_append, List.length_append] at long
  have front : (sequence.take skip).length ≤ skip := Seq.length_take_le
  have middle : ((sequence.drop skip).take count).length ≤ count := Seq.length_take_le
  have back : ((sequence.drop (skip + count)).take (total - (skip + count))).length ≤ total - (skip + count) :=
    Seq.length_take_le
  omega

end Prefixes

section Rounds
variable {δ γ : Type} {reader : ByteSource δ} {consume : Bytes → γ → Option Err × γ} {loop next : PayloadLoop δ γ}

def delivered (loop : PayloadLoop δ γ) : Bytes := (loop.calls.map (·.1)).flatten

/-- The source has too few bytes left, and the call returns the error. -/
structure Ended (reader : ByteSource δ) (loop next : PayloadLoop δ γ) : Prop where
  short : ((reader.contents loop.source).take (chunkSize loop.remaining loop.scratch).toNat).length <
    (chunkSize loop.remaining loop.scratch).toNat
  err : next.err ≠ none
  size : next.scratch.bytes.length = loop.scratch.bytes.length
  calls : next.calls = loop.calls

/-- A full chunk is read and passed to the consumer, which answers it. -/
structure Passed (reader : ByteSource δ) (loop next : PayloadLoop δ γ) (chunk : Bytes) : Prop where
  length : chunk.length = (chunkSize loop.remaining loop.scratch).toNat
  read : (reader.contents loop.source).take chunk.length = chunk
  source : reader.contents next.source = (reader.contents loop.source).drop chunk.length
  taken : next.taken = loop.taken ++ chunk
  size : next.scratch.bytes.length = loop.scratch.bytes.length
  calls : next.calls = loop.calls ++ [(chunk, next.err)]
  count : next.err = none → next.remaining = loop.remaining - chunkSize loop.remaining loop.scratch

theorem pass_passes {chunk : Bytes} {source : δ} (length : chunk.length = (chunkSize loop.remaining loop.scratch).toNat)
    (read : (reader.contents loop.source).take chunk.length = chunk)
    (rest : reader.contents source = (reader.contents loop.source).drop chunk.length) (running : loop.err = none) :
    Passed reader loop
      ({ loop with source, scratch := loop.scratch.fill chunk, taken := loop.taken ++ chunk }.pass consume
        (chunkSize loop.remaining loop.scratch)) chunk := by
  have within : chunk.length ≤ loop.scratch.bytes.length := by
    rw [length, toNat_chunkSize]
    exact Nat.min_le_right _ _
  have passed : (loop.scratch.fill chunk).bytes.take (chunkSize loop.remaining loop.scratch).toNat = chunk := by
    rw [← length]
    exact loop.scratch.take_fill within
  simp only [PayloadLoop.pass, passed]
  obtain ⟨err | err, state⟩ := consume chunk loop.state
  · exact ⟨length, read, rest, rfl, Slice.length_fill _ _, by rw [running], fun _ => rfl⟩
  · exact ⟨length, read, rest, rfl, Slice.length_fill _ _, rfl, nofun⟩

theorem round_cases (moved : loop.round reader consume = some next) :
    loop.err = none ∧ 0 < loop.remaining.toNat ∧ (Ended reader loop next ∨ ∃ chunk, Passed reader loop next chunk) := by
  unfold PayloadLoop.round at moved
  split at moved
  next => cases moved
  next guard =>
    obtain ⟨running, more⟩ := not_or.mp guard
    have running : loop.err = none := Option.not_isSome_iff_eq_none.mp running
    refine ⟨running, Nat.pos_of_ne_zero fun zero => more (UInt64.toNat_inj.mp zero), ?_⟩
    have most : ((reader.contents loop.source).take (chunkSize loop.remaining loop.scratch).toNat).length ≤ _ :=
      Seq.length_take_le
    obtain short | enough := Nat.lt_or_eq_of_le most
    · obtain ⟨bytes, err, rest, read⟩ := reader.fails _ _ short
      simp only [read] at moved
      cases moved
      exact .inl ⟨short, nofun, Slice.length_fill _ _, rfl⟩
    · obtain ⟨rest, read, left⟩ := reader.fills _ _ enough
      simp only [read] at moved
      cases moved
      refine .inr ⟨_, pass_passes enough ?_ ?_ running⟩
      · rw [enough]
      · rw [enough, left]

theorem round_left (out : loop.round reader consume = none) (running : loop.err = none) : loop.remaining = 0 := by
  unfold PayloadLoop.round at out
  split at out
  next guard => exact guard.resolve_left (by simp [running])
  next =>
    simp only at out
    split at out <;> cases out

/-- At every point of a call for `length` bytes, through a buffer of `size`, of a
source that held `contents`. -/
structure Orderly (contents : Seq UInt8) (length : UInt64) (size : Nat) (loop : PayloadLoop δ γ) : Prop where
  sizes : ∀ call ∈ loop.calls, 1 ≤ call.1.length ∧ call.1.length ≤ size
  slices : delivered loop = contents.take (delivered loop).length
  bounded : (delivered loop).length ≤ length.toNat
  counted : loop.err = none → loop.remaining.toNat + (delivered loop).length = length.toNat

/-- The invariant of the loop: besides what was passed on, where the source stands
and why the call has failed. -/
structure Tally (reader : ByteSource δ) (contents : Seq UInt8) (length : UInt64) (size : Nat)
    (loop : PayloadLoop δ γ) : Prop extends Orderly contents length size loop where
  room : loop.scratch.bytes.length = size
  taken : loop.err = none → loop.taken = delivered loop
  place : loop.err = none → reader.contents loop.source = contents.drop (delivered loop).length
  accepted : loop.err = none → ∀ call ∈ loop.calls, call.2 = none
  failed : loop.err ≠ none → (contents.take length.toNat).length < length.toNat ∨ ∃ call ∈ loop.calls, call.2 ≠ none

variable {contents : Seq UInt8} {length : UInt64} {size : Nat}

theorem Tally.ended (tally : Tally reader contents length size loop) (running : loop.err = none)
    (ended : Ended reader loop next) : Tally reader contents length size next := by
  have same : delivered next = delivered loop := by rw [delivered, ended.calls, delivered]
  have early : (contents.take length.toNat).length < length.toNat := by
    refine Nat.lt_of_le_of_ne Seq.length_take_le fun long => ?_
    have short := ended.short
    rw [tally.place running, toNat_chunkSize] at short
    have counted := tally.counted running
    exact Nat.ne_of_lt short (length_take_drop (by omega) long)
  refine ⟨⟨?_, ?_, ?_, fun running => absurd running ended.err⟩, ended.size.trans tally.room,
    fun running => absurd running ended.err, fun running => absurd running ended.err,
    fun running => absurd running ended.err, fun _ => .inl early⟩
  · rw [ended.calls]
    exact tally.sizes
  · rw [same]
    exact tally.slices
  · rw [same]
    exact tally.bounded

theorem delivered_passed {chunk : Bytes} (passed : Passed reader loop next chunk) :
    delivered next = delivered loop ++ chunk := by
  rw [delivered, passed.calls, List.map_append, List.flatten_append, delivered]
  exact congrArg _ (List.append_nil chunk)

theorem Tally.passed {chunk : Bytes} (tally : Tally reader contents length size loop) (running : loop.err = none)
    (more : 0 < loop.remaining.toNat) (positive : 0 < size) (passed : Passed reader loop next chunk) :
    Tally reader contents length size next := by
  have counted := tally.counted running
  have whole := delivered_passed passed
  have total : (delivered next).length = (delivered loop).length + chunk.length := by
    rw [whole, List.length_append]
  have least : chunk.length = min loop.remaining.toNat size := by
    rw [passed.length, toNat_chunkSize, tally.room]
  refine ⟨⟨?_, ?_, ?_, fun accepted => ?_⟩, passed.size.trans tally.room, fun _ => ?_, fun _ => ?_, fun accepted => ?_,
    fun refused => .inr ⟨(chunk, next.err), ?_, refused⟩⟩
  · intro call member
    rw [passed.calls, List.mem_append, List.mem_singleton] at member
    obtain earlier | rfl := member
    · exact tally.sizes call earlier
    · change 1 ≤ chunk.length ∧ chunk.length ≤ size
      omega
  · have read := passed.read
    rw [tally.place running] at read
    rw [total, take_add, ← tally.slices, read, whole]
  · omega
  · have smaller := toNat_sub_chunkSize loop.remaining loop.scratch
    rw [tally.room] at smaller
    rw [passed.count accepted, total]
    omega
  · rw [passed.taken, tally.taken running, whole]
  · rw [passed.source, tally.place running, total, Seq.dropn_add]
  · intro call member
    rw [passed.calls, List.mem_append, List.mem_singleton] at member
    obtain earlier | rfl := member
    · exact tally.accepted running call earlier
    · exact accepted
  · rw [passed.calls]
    exact List.mem_append_right _ (List.mem_singleton_self _)

theorem Tally.round (positive : 0 < size) (tally : Tally reader contents length size loop)
    (moved : loop.round reader consume = some next) : Tally reader contents length size next := by
  obtain ⟨running, more, ended | ⟨chunk, passed⟩⟩ := round_cases moved
  · exact tally.ended running ended
  · exact tally.passed running more positive passed

def left (loop : PayloadLoop δ γ) : Nat := if loop.err = none then loop.remaining.toNat + 1 else 0

theorem left_lowers (room : 0 < loop.scratch.bytes.length) (moved : loop.round reader consume = some next) :
    left next < left loop := by
  obtain ⟨running, more, ended | ⟨chunk, passed⟩⟩ := round_cases moved
  · simp [left, running, ended.err]
  · by_cases accepted : next.err = none
    · have smaller := toNat_sub_chunkSize loop.remaining loop.scratch
      rw [left, if_pos accepted, left, if_pos running, passed.count accepted]
      omega
    · simp [left, running, accepted]

end Rounds

/-- Payload bytes are passed on as declared: in order, in chunks that fit the buffer,
and never more than announced. The call ends, and it fails just when the source ends
early or the consumer refuses a chunk. -/
theorem payload_delivered {δ γ : Type} (reader : ByteSource δ) (consume : Bytes → γ → Option Err × γ) (source : δ)
    (length : UInt64) (scratch : Slice) (room : 0 < scratch.bytes.length) (state : γ) :
    let start := PayloadLoop.start source length scratch state
    let contents := reader.contents source
    (∀ loop, Reaches (PayloadLoop.round reader consume) start loop →
      Orderly contents length scratch.bytes.length loop) ∧
    ∃ last ∈ eval (PayloadLoop.round reader consume) start,
      (last.err = none →
        (delivered last).length = length.toNat ∧ last.taken = delivered last ∧
          reader.contents last.source = contents.drop length.toNat) ∧
      (last.err ≠ none ↔
        (contents.take length.toNat).length < length.toNat ∨ ∃ call ∈ last.calls, call.2 ≠ none) := by
  intro start contents
  have fresh : Tally reader contents length scratch.bytes.length start := by
    have clear : start.err = none := if_neg (Nat.pos_iff_ne_zero.mp room)
    exact ⟨⟨nofun, rfl, Nat.zero_le _, fun _ => Nat.add_zero _⟩, rfl, fun _ => rfl, fun _ => rfl, fun _ => nofun,
      fun failed => absurd clear failed⟩
  have keeps : ∀ loop next : PayloadLoop δ γ, Tally reader contents length scratch.bytes.length loop →
      loop.round reader consume = some next → Tally reader contents length scratch.bytes.length next :=
    fun _ _ tally moved => tally.round room moved
  refine ⟨fun loop reaches => (Rounds.reaches_invariant keeps reaches fresh).toOrderly, ?_⟩
  obtain ⟨last, ends⟩ := Rounds.exists_mem_eval left keeps
    (fun _ _ tally moved => left_lowers (tally.room.symm ▸ room) moved) fresh
  obtain ⟨reaches, out⟩ := mem_eval.mp ends
  have tally := Rounds.reaches_invariant keeps reaches fresh
  have done : last.err = none → (delivered last).length = length.toNat := by
    intro running
    have counted := tally.counted running
    rw [round_left out running] at counted
    exact (Nat.zero_add _).symm.trans counted
  refine ⟨last, ends, fun running => ?_, tally.failed, ?_⟩
  · rw [← done running]
    exact ⟨rfl, tally.taken running, tally.place running⟩
  · rintro (short | ⟨call, member, refused⟩) running
    · have whole := tally.slices
      rw [done running] at whole
      rw [← whole, done running] at short
      exact Nat.lt_irrefl _ short
    · exact refused (tally.accepted running call member)

/-- Three bytes are declared and two arrive. -/
theorem payload_delivered_short :
    ∃ last ∈ eval (PayloadLoop.round pieces nilConsumer) (.start [[1], [2]] 3 ⟨[0, 0], by decide⟩ ()),
      last.err ≠ none := by
  obtain ⟨-, last, ends, -, fails⟩ :=
    payload_delivered pieces nilConsumer [[1], [2]] 3 ⟨[0, 0], by decide⟩ (by decide) ()
  refine ⟨last, ends, fails.mpr (.inl ?_)⟩
  simp [pieces]

section Pieces
variable {γ : Type} {consume : Bytes → γ → Option Err × γ} {loop next : PayloadLoop Source γ}

def finish (consume : Bytes → γ → Option Err × γ) (loop : PayloadLoop Source γ) : PayloadRead γ :=
  match loop.err with
  | some err => ⟨some err, loop.state, loop.scratch, loop.source⟩
  | none => readPayload consume loop.source loop.remaining loop.scratch loop.state

section Unrolled
variable {source rest : Source} {remaining : UInt64} {scratch : Slice} {state after : γ} {bytes : Bytes}
  (room : 0 < scratch.bytes.length) (more : 0 < remaining)
include room more

theorem readPayload_ended {err : Err}
    (read : readFull source (chunkSize remaining scratch).toNat = (bytes, some err, rest)) :
    readPayload consume source remaining scratch state = ⟨some err, state, scratch.fill bytes, rest⟩ := by
  rw [readPayload, dif_pos room, Codec.readPayloadLoop_ended room more read]

variable (read : readFull source (chunkSize remaining scratch).toNat = (bytes, none, rest))
include read

theorem readPayload_refused {err : Err}
    (answered : consume ((scratch.fill bytes).bytes.take (chunkSize remaining scratch).toNat) state = (some err, after)) :
    readPayload consume source remaining scratch state = ⟨some err, after, scratch.fill bytes, rest⟩ := by
  rw [readPayload, dif_pos room, Codec.readPayloadLoop_refused room more read answered]

theorem readPayload_accepted
    (answered : consume ((scratch.fill bytes).bytes.take (chunkSize remaining scratch).toNat) state = (none, after)) :
    readPayload consume source remaining scratch state =
      readPayload consume rest (remaining - chunkSize remaining scratch) (scratch.fill bytes) after := by
  have filled : 0 < (scratch.fill bytes).bytes.length := by rwa [Slice.length_fill]
  rw [readPayload, dif_pos room, Codec.readPayloadLoop_accepted room more read answered, readPayload, dif_pos filled]

end Unrolled

theorem finish_round (room : 0 < loop.scratch.bytes.length) (moved : loop.round pieces consume = some next) :
    finish consume loop = finish consume next ∧ 0 < next.scratch.bytes.length := by
  obtain ⟨running, more, -⟩ := round_cases moved
  have more : 0 < loop.remaining := UInt64.lt_iff_toNat_lt.mpr more
  have filled : ∀ bytes, 0 < (loop.scratch.fill bytes).bytes.length := fun bytes => by rwa [Slice.length_fill]
  unfold PayloadLoop.round at moved
  split at moved
  next => cases moved
  next =>
    rcases read : readFull loop.source (chunkSize loop.remaining loop.scratch).toNat with ⟨bytes, _ | err, rest⟩
    · simp only [pieces, read] at moved
      cases moved
      rcases answered : consume ((loop.scratch.fill bytes).bytes.take (chunkSize loop.remaining loop.scratch).toNat)
        loop.state with ⟨_ | err, state⟩
      · simp only [PayloadLoop.pass, answered, finish, running, readPayload_accepted room more read answered]
        exact ⟨trivial, filled bytes⟩
      · simp only [PayloadLoop.pass, answered, finish, running, readPayload_refused room more read answered]
        exact ⟨trivial, filled bytes⟩
    · simp only [pieces, read] at moved
      cases moved
      simp only [finish, running, readPayload_ended room more read]
      exact ⟨trivial, filled bytes⟩

/-- The recursive loop over pieces returns what the last round leaves. -/
theorem readPayload_eq_last {source : Source} {length : UInt64} {scratch : Slice} {state : γ}
    {last : PayloadLoop Source γ}
    (ends : last ∈ eval (PayloadLoop.round pieces consume) (.start source length scratch state)) :
    readPayload consume source length scratch state = ⟨last.err, last.state, last.scratch, last.source⟩ := by
  obtain ⟨reaches, out⟩ := mem_eval.mp ends
  have begins : finish consume (.start source length scratch state) =
      readPayload consume source length scratch state := by
    by_cases empty : scratch.bytes.length = 0
    · rw [readPayload, dif_neg (Nat.not_lt.mpr (Nat.le_of_eq empty))]
      simp only [finish, PayloadLoop.start, if_pos empty]
    · simp only [finish, PayloadLoop.start, if_neg empty]
  have keeps : ∀ loop next : PayloadLoop Source γ,
      readPayload consume source length scratch state = finish consume loop ∧
        (loop.err = none → 0 < loop.scratch.bytes.length) →
      loop.round pieces consume = some next →
      readPayload consume source length scratch state = finish consume next ∧
        (next.err = none → 0 < next.scratch.bytes.length) := by
    rintro loop next ⟨same, room⟩ moved
    obtain ⟨unrolled, filled⟩ := finish_round (room (round_cases moved).1) moved
    exact ⟨same.trans unrolled, fun _ => filled⟩
  have nonempty : (PayloadLoop.start source length scratch state).err = none → 0 < scratch.bytes.length := by
    intro clear
    refine Nat.pos_of_ne_zero fun empty => ?_
    rw [PayloadLoop.start, if_pos empty] at clear
    cases clear
  obtain ⟨same, room⟩ := Rounds.reaches_invariant keeps reaches ⟨begins.symm, nonempty⟩
  rw [same, finish]
  split
  next err failed => rw [failed]
  next running =>
    rw [readPayload, dif_pos (room running), round_left out running, Codec.readPayloadLoop_done _ rfl, running]

end Pieces

end Hislip.Proofs.Payload
