import Mathlib.Data.Seq.Basic
import Hislip.Protocol.Codec

/-! `ReadPayload` round by round, over any source. A source is known by what
`io.ReadFull` makes of it; the pieces that reads return are one. -/

namespace Hislip
open Stream'

/-- A byte source behind `io.ReadFull`. What it will deliver before it fails is
`contents`, perhaps without end: a read fills the buffer when that much is left, and
returns some error otherwise. -/
structure ByteSource (δ : Type) where
  readFull : δ → Nat → Bytes × Option Err × δ
  contents : δ → Seq UInt8
  fills : ∀ source wanted, ((contents source).take wanted).length = wanted →
    ∃ rest, readFull source wanted = ((contents source).take wanted, none, rest) ∧
      contents rest = (contents source).drop wanted
  fails : ∀ source wanted, ((contents source).take wanted).length < wanted →
    ∃ bytes err rest, readFull source wanted = (bytes, some err, rest)

@[simp] theorem take_ofList (bytes : Bytes) (count : Nat) : (Seq.ofList bytes).take count = bytes.take count := by
  apply List.ext_getElem?
  intro index
  rw [Seq.getElem?_take, Seq.ofList_get?, List.getElem?_take]

@[simp] theorem drop_ofList (bytes : Bytes) (count : Nat) :
    (Seq.ofList bytes).drop count = Seq.ofList (bytes.drop count) := by
  apply Seq.ext
  intro index
  rw [Seq.drop_get?, Seq.ofList_get?, Seq.ofList_get?, List.getElem?_drop]

/-- The bytes that arrive in pieces, until the end of the stream. -/
def pieces : ByteSource Source where
  readFull := readFull
  contents source := Seq.ofList source.flatten
  fills source wanted enough := by
    obtain ⟨taken, left⟩ := collect_eq wanted source
    rw [take_ofList] at enough ⊢
    refine ⟨(collect wanted source).2, ?_, by rw [left, drop_ofList]⟩
    simp only [readFull, taken, enough, Nat.le_refl, if_true]
  fails source wanted short := by
    rw [take_ofList, ← (collect_eq wanted source).1] at short
    simp only [readFull, if_neg (Nat.not_le.mpr short)]
    split
    next => exact ⟨_, _, _, rfl⟩
    next => exact ⟨_, _, _, rfl⟩

/-- The variables of `ReadPayload`. `err` is what the call has returned, if it has
failed. The history is what was read, and the chunks passed on with the answers. -/
structure PayloadLoop (δ γ : Type) where
  remaining : UInt64
  source : δ
  scratch : Slice
  state : γ
  err : Option Err := none
  taken : Bytes := []
  calls : List (Bytes × Option Err) := []

namespace PayloadLoop
variable {δ γ : Type}

def start (source : δ) (length : UInt64) (scratch : Slice) (state : γ) : PayloadLoop δ γ where
  remaining := length
  source
  scratch
  state
  err := if scratch.bytes.length = 0 then some Sentinel.shortBuffer else none

/-- Pass a full chunk to the consumer. The count goes down when the chunk is accepted. -/
def pass (loop : PayloadLoop δ γ) (consume : Bytes → γ → Option Err × γ) (chunk : UInt64) : PayloadLoop δ γ :=
  let passed := loop.scratch.bytes.take chunk.toNat
  let (err, state) := consume passed loop.state
  let calls := loop.calls ++ [(passed, err)]
  match err with
  | some err => { loop with state, calls, err := some err }
  | none => { loop with state, calls, remaining := loop.remaining - chunk }

/-- One round of the loop of `ReadPayload`, unless it is left. -/
def round (reader : ByteSource δ) (consume : Bytes → γ → Option Err × γ) (loop : PayloadLoop δ γ) :
    Option (PayloadLoop δ γ) :=
  if loop.err.isSome ∨ loop.remaining = 0 then none
  else
    let chunk := chunkSize loop.remaining loop.scratch
    let (bytes, err, source) := reader.readFull loop.source chunk.toNat
    let filled := { loop with source, scratch := loop.scratch.fill bytes, taken := loop.taken ++ bytes }
    match err with
    | some err => some { filled with err := some err }
    | none => some (filled.pass consume chunk)

end PayloadLoop

end Hislip
