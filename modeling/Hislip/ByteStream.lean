import Mathlib.Data.List.Induction
import Mathlib.Tactic.Ring

/-! Big-endian numbers, and byte streams that arrive in pieces. Reading a given
number of bytes from the pieces depends on their concatenation only. -/

namespace Hislip

/-- The last `width` base-256 digits of a number, the most significant first. -/
def bigEndian : Nat → Nat → List UInt8
  | 0, _ => []
  | width + 1, value => bigEndian width (value / 256) ++ [UInt8.ofNat value]

def bigEndianValue (bytes : List UInt8) : Nat := bytes.foldl (fun value byte => value * 256 + byte.toNat) 0

@[simp] theorem length_bigEndian (width value : Nat) : (bigEndian width value).length = width := by
  induction width generalizing value with
  | zero => rfl
  | succ width ih => simp only [bigEndian, List.length_append, ih, List.length_singleton]

theorem bigEndianValue_concat (bytes : List UInt8) (last : UInt8) :
    bigEndianValue (bytes ++ [last]) = bigEndianValue bytes * 256 + last.toNat := by
  simp only [bigEndianValue, List.foldl_append, List.foldl_cons, List.foldl_nil]

theorem bigEndianValue_bigEndian (width value : Nat) :
    bigEndianValue (bigEndian width value) = value % 256 ^ width := by
  induction width generalizing value with
  | zero => simp [bigEndian, bigEndianValue, Nat.mod_one]
  | succ width ih =>
    have digit : (UInt8.ofNat value).toNat = value % 256 := UInt8.toNat_ofNat'
    rw [bigEndian, bigEndianValue_concat, ih, digit, Nat.pow_succ', Nat.mod_mul]
    ring

theorem bigEndian_bigEndianValue (bytes : List UInt8) : bigEndian bytes.length (bigEndianValue bytes) = bytes := by
  induction bytes using List.reverseRecOn with
  | nil => rfl
  | append_singleton bytes last ih =>
    have small : last.toNat < 256 := last.toNat_lt
    have front : (bigEndianValue bytes * 256 + last.toNat) / 256 = bigEndianValue bytes := by omega
    have digit : UInt8.ofNat (bigEndianValue bytes * 256 + last.toNat) = last := by
      apply UInt8.toNat_inj.mp
      rw [UInt8.toNat_ofNat']
      omega
    rw [List.length_append, List.length_singleton, bigEndian, bigEndianValue_concat, front, ih, digit]

theorem bigEndianValue_lt (bytes : List UInt8) : bigEndianValue bytes < 256 ^ bytes.length := by
  rw [← bigEndian_bigEndianValue bytes, bigEndianValue_bigEndian, length_bigEndian]
  exact Nat.mod_lt _ (Nat.pow_pos (by decide))

/-- Collect `wanted` bytes from the pieces of a stream, or all there are: the
bytes obtained and the pieces left. -/
def collect : Nat → List (List UInt8) → List UInt8 × List (List UInt8)
  | _, [] => ([], [])
  | wanted, piece :: rest =>
    if wanted ≤ piece.length then (piece.take wanted, piece.drop wanted :: rest)
    else
      let (bytes, left) := collect (wanted - piece.length) rest
      (piece ++ bytes, left)

theorem collect_eq (wanted : Nat) (pieces : List (List UInt8)) :
    (collect wanted pieces).1 = pieces.flatten.take wanted ∧
      (collect wanted pieces).2.flatten = pieces.flatten.drop wanted := by
  induction pieces generalizing wanted with
  | nil => simp [collect]
  | cons piece rest ih =>
    simp only [collect, List.flatten_cons]
    split
    next within =>
      simp [List.take_append_of_le_length within, List.drop_append_of_le_length within]
    next beyond =>
      have whole : piece.length ≤ wanted := by omega
      obtain ⟨taken, left⟩ := ih (wanted - piece.length)
      simp only [taken, left, List.take_append, List.drop_append, List.take_of_length_le whole,
        List.drop_of_length_le whole, List.nil_append, and_self]

theorem collect_append {front tail : List UInt8} {pieces : List (List UInt8)} {wanted : Nat}
    (stream : pieces.flatten = front ++ tail) (size : wanted = front.length) :
    (collect wanted pieces).1 = front ∧ (collect wanted pieces).2.flatten = tail := by
  obtain ⟨taken, left⟩ := collect_eq wanted pieces
  rw [stream, size] at taken left
  rw [size]
  exact ⟨by simpa using taken, by simpa using left⟩

end Hislip
