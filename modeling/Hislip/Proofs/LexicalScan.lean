import Hislip.Proofs.ProgramText
import Hislip.Rounds

/-! The loop of the SCPI scan ends, and its block arithmetic stays within its types.
Every iteration keeps the bounds on the counters, and consumes a byte or falls to a
state that does. -/

namespace Hislip.Proofs.LexicalScan
open Hislip.Server ProgramText StateTransition

/-- An iteration of the loop of `Feed`, unless it is left. The bytes are those from the
index on. -/
def iterate : SCPIQueryPolicy × Bytes → Option (SCPIQueryPolicy × Bytes)
  | (_, []) => none
  | (scanned, c :: rest) => if scanned.found then none else some (scanned.scan c rest)

theorem iterate_eq_some {cursor next : SCPIQueryPolicy × Bytes} (moved : iterate cursor = some next) :
    ∃ c rest, cursor.2 = c :: rest ∧ ¬ cursor.1.found = true ∧ next = cursor.1.scan c rest := by
  obtain ⟨scanned, _ | ⟨c, rest⟩⟩ := cursor
  · cases moved
  · simp only [iterate] at moved
    split at moved
    next => cases moved
    next unfound =>
      cases moved
      exact ⟨c, rest, rfl, unfound, rfl⟩

structure Safe (scanned : SCPIQueryPolicy) : Prop where
  digits : scanned.state = .blockLen → 1 ≤ scanned.digits ∧ scanned.digits ≤ 9
  length : scanned.length.toNat < 10 ^ 9
  remain : scanned.state = .blockData → 0 < scanned.remain.toNat

/-- While digits are read, the length has room for those that are still to come. -/
structure Sound (scanned : SCPIQueryPolicy) : Prop extends Safe scanned where
  fits : scanned.state = .blockLen → (scanned.length.toNat + 1) * 10 ^ scanned.digits.toNat ≤ 10 ^ 9

section Iterations
variable {scanned : SCPIQueryPolicy}

def blockless : SCPIState → Bool
  | .blockLen | .blockData => false
  | _ => true

theorem sound_elsewhere (length : scanned.length.toNat < 10 ^ 9) (elsewhere : blockless scanned.state = true) :
    Sound scanned := by
  have header : scanned.state ≠ .blockLen := by
    intro reading
    rw [reading] at elsewhere
    cases elsewhere
  have block : scanned.state ≠ .blockData := by
    intro skipping
    rw [skipping] at elsewhere
    cases elsewhere
  exact ⟨⟨fun reading => absurd reading header, length, fun skipping => absurd skipping block⟩,
    fun reading => absurd reading header⟩

theorem sound_skipping (length : scanned.length.toNat < 10 ^ 9) (skipping : scanned.state = .blockData)
    (more : scanned.remain ≠ 0) : Sound scanned := by
  have header : scanned.state ≠ .blockLen := by
    rw [skipping]
    decide
  refine ⟨⟨fun reading => absurd reading header, length, fun _ => ?_⟩, fun reading => absurd reading header⟩
  exact Nat.pos_of_ne_zero fun none => more (UInt64.toNat_inj.mp none)

theorem accumulate_fits {value digits : Nat} {digit : UInt8} (is : isDigit digit)
    (fits : (value + 1) * 10 ^ (digits + 1) ≤ 10 ^ 9) :
    (accumulate value digit + 1) * 10 ^ digits ≤ 10 ^ 9 ∧ accumulate value digit < 10 ^ 9 := by
  have next : accumulate value digit + 1 ≤ (value + 1) * 10 := by
    have small := digit_le is
    unfold accumulate
    omega
  have room : (accumulate value digit + 1) * 10 ^ digits ≤ 10 ^ 9 := by
    refine Nat.le_trans (Nat.mul_le_mul_right _ next) ?_
    rwa [Nat.mul_assoc, Nat.mul_comm 10, ← Nat.pow_succ]
  exact ⟨room, Nat.lt_of_lt_of_le (Nat.lt_succ_self _)
    (Nat.le_trans (Nat.le_mul_of_pos_right _ (Nat.pow_pos (by decide))) room)⟩

theorem scan_adds {digit : UInt8} {rest : Bytes} (sound : Sound scanned) (reading : scanned.state = .blockLen)
    (is : isDigit digit) :
    Sound (scanned.scan digit rest).1 ∧
      (scanned.scan digit rest).1.length.toNat = accumulate scanned.length.toNat digit := by
  obtain ⟨least, most⟩ := sound.digits reading
  obtain ⟨digits, counts⟩ : ∃ digits : Nat, scanned.digits = digits + 1 := ⟨(scanned.digits - 1).toNat, by omega⟩
  have fits := sound.fits reading
  rw [counts, show ((digits : Int) + 1).toNat = digits + 1 from rfl] at fits
  obtain ⟨room, small⟩ := accumulate_fits is fits
  have exact : (UInt64.ofNat (accumulate scanned.length.toNat digit)).toNat = accumulate scanned.length.toNat digit :=
    UInt64.toNat_ofNat_of_lt' (Nat.lt_trans small (by decide))
  rw [scan_digit is reading (UInt64.ofNat_toNat).symm]
  split
  next last =>
    refine ⟨?_, exact⟩
    have length : (measured scanned (accumulate scanned.length.toNat digit)).length.toNat < 10 ^ 9 := exact.symm ▸ small
    by_cases empty : UInt64.ofNat (accumulate scanned.length.toNat digit) = 0
    · have state : (measured scanned (accumulate scanned.length.toNat digit)).state = .normal := if_pos empty
      exact sound_elsewhere length (congrArg blockless state)
    · exact sound_skipping length (if_neg empty) empty
  next further =>
    have left : (counted scanned (accumulate scanned.length.toNat digit)).digits = digits := by
      change scanned.digits - 1 = digits
      omega
    refine ⟨⟨⟨fun _ => ?_, exact.symm ▸ small, fun skipping => ?_⟩, fun _ => ?_⟩, exact⟩
    · rw [left]
      omega
    · cases reading.symm.trans skipping
    · rw [left, Int.toNat_natCast]
      exact exact.symm ▸ room

theorem scan_skips {c : UInt8} {rest : Bytes} (sound : Sound scanned) (skipping : scanned.state = .blockData) :
    Sound (scanned.scan c rest).1 ∧
      ∃ skipped, skipped ≠ [] ∧ c :: rest = skipped ++ (scanned.scan c rest).2 ∧
        scanned.remain.toNat = skipped.length + (scanned.scan c rest).1.remain.toNat := by
  have positive := sound.remain skipping
  have kept := sound.length
  obtain ⟨found, state, quote, digits, length, remain⟩ := scanned
  obtain rfl : state = .blockData := skipping
  obtain ⟨skip, size⟩ : ∃ skip, min remain.toNat (rest.length + 1) = skip := ⟨_, rfl⟩
  have counts : (UInt64.ofNat skip).toNat = skip :=
    UInt64.toNat_ofNat_of_lt' (Nat.lt_of_le_of_lt (by omega) remain.toNat_lt)
  have down : (remain - UInt64.ofNat skip).toNat = remain.toNat - skip := by
    rw [UInt64.toNat_sub_of_le, counts]
    rw [UInt64.le_iff_toNat_le, counts]
    omega
  simp only [SCPIQueryPolicy.scan, size]
  refine ⟨?_, (c :: rest).take skip, ?_, (List.take_append_drop _ _).symm, ?_⟩
  · split
    next => exact sound_elsewhere kept rfl
    next more => exact sound_skipping kept rfl more
  · change 0 < remain.toNat at positive
    rw [← List.length_pos_iff, List.length_take, List.length_cons]
    omega
  · rw [down, List.length_take, List.length_cons]
    omega

theorem Sound.scan (sound : Sound scanned) (c : UInt8) (rest : Bytes) : Sound (scanned.scan c rest).1 := by
  obtain ⟨found, state, quote, digits, length, remain⟩ := scanned
  have kept := sound.length
  cases state with
  | normal | string | stringQuote =>
    simp only [SCPIQueryPolicy.scan]
    split_ifs <;> exact sound_elsewhere kept rfl
  | hash =>
    simp only [SCPIQueryPolicy.scan]
    split
    next counts =>
      obtain ⟨least, most⟩ := count_bounds counts
      refine ⟨⟨fun _ => ⟨?_, ?_⟩, Nat.pow_pos (by decide), fun skipping => by cases skipping⟩, fun _ => ?_⟩
      · exact Int.ofNat_le.mpr least
      · exact Int.ofNat_le.mpr most
      · exact Nat.le_trans (Nat.le_of_eq (Nat.one_mul _)) (Nat.pow_le_pow_right (by decide) most)
    next => exact sound_elsewhere kept rfl
  | blockLen =>
    by_cases is : isDigit c
    · exact (scan_adds sound rfl is).1
    · have outside : c < 48 ∨ 57 < c := by
        rw [not_and_or, UInt8.not_le, UInt8.not_le] at is
        exact is
      simp only [SCPIQueryPolicy.scan, if_pos outside]
      exact sound_elsewhere kept rfl
  | blockData => exact (scan_skips sound rfl).1

/-- What an iteration does to the bytes of a block header and of a block. -/
structure Measures (cursor next : SCPIQueryPolicy × Bytes) : Prop where
  adds : ∀ digit rest, cursor.2 = digit :: rest → cursor.1.state = .blockLen → isDigit digit →
    next.1.length.toNat = accumulate cursor.1.length.toNat digit
  skips : cursor.1.state = .blockData → ∃ skipped, skipped ≠ [] ∧ cursor.2 = skipped ++ next.2 ∧
    cursor.1.remain.toNat = skipped.length + next.1.remain.toNat

theorem scan_measures (sound : Sound scanned) (c : UInt8) (rest : Bytes) :
    Measures (scanned, c :: rest) (scanned.scan c rest) := by
  refine ⟨?_, fun skipping => (scan_skips sound skipping).2⟩
  rintro _ _ ⟨⟩ reading is
  exact (scan_adds sound reading is).2

theorem scan_suffix (c : UInt8) (rest : Bytes) : (scanned.scan c rest).2 <:+ c :: rest := by
  obtain ⟨found, state, quote, digits, length, remain⟩ := scanned
  cases state with
  | normal | string | stringQuote | hash | blockLen =>
    simp only [SCPIQueryPolicy.scan]
    split_ifs <;> first | exact List.suffix_rfl | exact List.suffix_cons c rest
  | blockData => exact List.drop_suffix _ _

theorem feed_iterate {cursor next : SCPIQueryPolicy × Bytes} (moved : iterate cursor = some next) :
    cursor.1.feed cursor.2 = next.1.feed next.2 := by
  obtain ⟨c, rest, bytes, unfound, rfl⟩ := iterate_eq_some moved
  rw [bytes, feed_cons unfound]

theorem iterate_left {cursor : SCPIQueryPolicy × Bytes} (out : iterate cursor = none) :
    cursor.1.feed cursor.2 = cursor.1 ∧ (cursor.2 = [] ∨ cursor.1.found = true) := by
  obtain ⟨scanned, _ | ⟨c, rest⟩⟩ := cursor
  · exact ⟨by rw [SCPIQueryPolicy.feed], .inl rfl⟩
  · simp only [iterate] at out
    split at out
    next found => exact ⟨feed_found found _, .inr found⟩
    next => cases out

end Iterations

/-- The scan as it is within a call, with what is left of the chunk. -/
structure Within (chunk : Bytes) (cursor : SCPIQueryPolicy × Bytes) : Prop where
  sound : Sound cursor.1
  rest : cursor.2 <:+ chunk

theorem Within.iterate {chunk : Bytes} (cursor next : SCPIQueryPolicy × Bytes) (inside : Within chunk cursor)
    (moved : iterate cursor = some next) : Within chunk next := by
  obtain ⟨c, rest, bytes, -, rfl⟩ := iterate_eq_some moved
  exact ⟨inside.sound.scan c rest, (scan_suffix c rest).trans (bytes ▸ inside.rest)⟩

variable {scanned : SCPIQueryPolicy}

/-- Every call of `Feed` comes to its end. -/
theorem iterate_ends (chunk : Bytes) (sound : Sound scanned) :
    ∃ last ∈ eval iterate (scanned, chunk),
      Sound last.1 ∧ last.1 = scanned.feed chunk ∧ (last.2 = [] ∨ last.1.found = true) := by
  have start : Within chunk (scanned, chunk) := ⟨sound, List.suffix_rfl⟩
  have lowers : ∀ cursor next : SCPIQueryPolicy × Bytes, Within chunk cursor → iterate cursor = some next →
      next.1.work next.2 < cursor.1.work cursor.2 := by
    intro cursor next _ moved
    obtain ⟨c, rest, bytes, -, rfl⟩ := iterate_eq_some moved
    rw [bytes]
    exact cursor.1.scan_progress c rest
  obtain ⟨last, ends⟩ := Rounds.exists_mem_eval (fun cursor => cursor.1.work cursor.2) Within.iterate lowers start
  obtain ⟨reaches, out⟩ := mem_eval.mp ends
  obtain ⟨same, consumed⟩ := iterate_left out
  have fed : scanned.feed chunk = last.1.feed last.2 :=
    Rounds.reaches_unrolls (fun cursor => cursor.1.feed cursor.2) (fun _ _ => feed_iterate) reaches
  exact ⟨last, ends, (Rounds.reaches_invariant Within.iterate reaches start).sound, (fed.trans same).symm, consumed⟩

theorem Sound.feed (sound : Sound scanned) (chunk : Bytes) : Sound (scanned.feed chunk) := by
  obtain ⟨last, -, kept, same, -⟩ := iterate_ends chunk sound
  exact same ▸ kept

theorem sound_fed (chunks : List Bytes) (sound : Sound scanned) :
    Sound (chunks.foldl SCPIQueryPolicy.feed scanned) := by
  induction chunks generalizing scanned with
  | nil => exact sound
  | cons chunk rest ih => exact ih (sound.feed chunk)

/-- After any calls since a reset, the next one comes to its end with every byte
consumed or a marker found. In every state it passes through the counters are within
their bounds, the length is added up without overflow and a block is skipped no
further than the chunk goes. -/
theorem scan_ends_within_bounds (scanned : SCPIQueryPolicy) (chunks : List Bytes) (chunk : Bytes) :
    let fed := chunks.foldl scpiQueryPolicy.feed (scpiQueryPolicy.reset scanned)
    (∃ last ∈ eval iterate (fed, chunk),
      last.1 = scpiQueryPolicy.feed fed chunk ∧ (last.2 = [] ∨ last.1.found = true)) ∧
    ∀ cursor, Reaches iterate (fed, chunk) cursor →
      Safe cursor.1 ∧ cursor.2 <:+ chunk ∧ ∀ next, iterate cursor = some next → Measures cursor next := by
  intro fed
  have sound : Sound fed := sound_fed chunks (sound_elsewhere (Nat.pow_pos (by decide)) rfl)
  obtain ⟨last, ends, -, same, consumed⟩ := iterate_ends chunk sound
  refine ⟨⟨last, ends, same, consumed⟩, fun cursor reaches => ?_⟩
  obtain ⟨kept, inside⟩ := Rounds.reaches_invariant Within.iterate reaches ⟨sound, List.suffix_rfl⟩
  refine ⟨kept.toSafe, inside, fun next moved => ?_⟩
  obtain ⟨c, rest, bytes, -, rfl⟩ := iterate_eq_some moved
  obtain ⟨scanned, left⟩ := cursor
  obtain rfl : left = c :: rest := bytes
  exact scan_measures kept c rest

end Hislip.Proofs.LexicalScan
