import Hislip.Proofs.Footprint

/-! Which notes each handler leaves in the session: the transmit limit, the last
MessageIDs, the pending flag and the service request latch. -/

namespace Hislip.Proofs.Notes
open Hislip.Server Act Program Footprint

inductive Note where
  | limit | lastTx | received | pending | byte | take | latch
  deriving DecidableEq, Repr

def note : Op → Option Note
  | .shared (.session (.setMaxTx _)) => some .limit
  | .shared (.session (.setLastTx _)) => some .lastTx
  | .shared (.session (.receivedSyncMessage _)) => some .received
  | .shared (.session (.setResponsePending _)) => some .pending
  | .shared (.session (.statusByte _ _ _)) => some .byte
  | .shared (.session .takeServiceRequest) => some .take
  | .shared (.session (.latchServiceRequest _)) => some .latch
  | _ => none

theorem note_of_kind {op : Op} (other : kind op ≠ .note) : note op = none := by
  cases op with
  | environment op => rfl
  | shared op =>
    cases op with
    | session op => cases op <;> first | rfl | exact absurd rfl other
    | _ => rfl

abbrev Leaves {α : Type} (notes : List Note) (program : Act α) : Prop :=
  Follows { allowed := fun (_ : Unit) op => ∀ found, note op = some found → found ∈ notes, advance := fun _ _ _ => () }
    (fun _ _ => True) program ()

variable {α β : Type} {notes others : List Note} {program : Act α}

theorem Leaves.bind {next : α → Act β} (first : Leaves notes program) (second : ∀ value, Leaves notes (next value)) :
    Leaves notes (program >>= next) := Follows.bind first fun value _ _ => second value

theorem Leaves.widen (leaves : Leaves notes program) (fewer : ∀ note ∈ notes, note ∈ others) : Leaves others program :=
  (Follows.rests leaves (fun _ _ allowed => ⟨fun found same => fewer _ (allowed found same), fun _ _ => ⟨trivial, rfl⟩⟩)
    fun _ _ done => done).mono fun _ _ _ => trivial

theorem Leaves.ite {condition : Prop} [Decidable condition] {other : Act α} (met : condition → Leaves notes program)
    (unmet : ¬ condition → Leaves notes other) : Leaves notes (if condition then program else other) :=
  Follows.ite met unmet

theorem Within.leaves {kinds : List Kind} {post : α → Prop} (performs : Performs kinds program post)
    (plain : Kind.note ∉ kinds) : Leaves notes program := by
  refine (performs.rests fun op member => ⟨fun found same => ?_, fun _ => rfl⟩).mono fun _ _ _ => trivial
  rw [note_of_kind fun noted => plain (noted ▸ member)] at same
  cases same

theorem leaves_step {op : Op} {next : op.Reply → Act β} (listed : (note op).all (· ∈ notes) = true)
    (resume : ∀ reply, Leaves notes (next reply)) : Leaves notes (Program.perform op >>= next) := by
  refine ⟨fun found same => ?_, fun reply _ => resume reply⟩
  rw [same] at listed
  exact of_decide_eq_true listed

theorem leaves_last {op : Op} (listed : (note op).all (· ∈ notes) = true) : Leaves notes (Program.perform op) := by
  refine ⟨fun found same => ?_, fun _ _ => trivial⟩
  rw [same] at listed
  exact of_decide_eq_true listed

section Responses

theorem write_leaves (writer : MessageWriter) (header : Header) (payload : Bytes) :
    Leaves notes (writer.write header payload) :=
  Within.leaves (write_within writer payload (List.elem_iff.mpr (List.mem_singleton_self _))) (by simp)

variable (response : CheckedResponse)

theorem terminate_leaves (final : Bytes) : Leaves [.lastTx] (terminate response final) := by
  refine (write_leaves ..).bind fun failed => ?_
  cases failed with
  | some err => trivial
  | none => exact leaves_step rfl fun _ => leaves_step rfl fun _ => leaves_last rfl

theorem sendInterrupted_leaves : Leaves [.pending] (sendInterrupted response) := by
  refine leaves_step rfl fun (refused : Option Err) => ?_
  cases refused with
  | some err => trivial
  | none =>
    refine leaves_step rfl fun _ => (write_leaves ..).bind fun failed => ?_
    cases failed with
    | some err => trivial
    | none =>
      refine (write_leaves ..).bind fun failed => ?_
      cases failed with
      | some err => trivial
      | none => exact leaves_last rfl

theorem completeAbsentResponse_leaves : Leaves [.lastTx] (completeAbsentResponse response) := by
  refine (write_leaves ..).bind fun failed => ?_
  cases failed with
  | some err => trivial
  | none =>
    refine leaves_step rfl fun (refused : Option Err) => ?_
    cases refused with
    | some err => trivial
    | none => exact (terminate_leaves response []).bind fun _ => trivial

theorem completeTruncatedResponse_leaves : Leaves [.lastTx] (completeTruncatedResponse response) := by
  refine (write_leaves ..).bind fun failed => ?_
  cases failed with
  | some err => trivial
  | none => exact (terminate_leaves response []).bind fun _ => trivial

theorem offerTerminator_leaves (final : Bytes) : Leaves [.lastTx, .pending] (offerTerminator response final) := by
  refine (Within.leaves (ask_within response.inputQueued) (by decide)).bind fun queued =>
    Leaves.ite (fun _ => ?_) fun _ => ?_
  · exact ((sendInterrupted_leaves response).widen (by decide)).bind fun _ => trivial
  · refine leaves_step rfl fun (refused : Option Err) => ?_
    cases refused with
    | some err => trivial
    | none => exact ((terminate_leaves response final).widen (by decide)).bind fun _ => trivial

theorem responseLoop_leaves (ctx : Ctx) (response : CheckedResponse) (fuel : Nat) (delivered : UInt64) :
    Leaves [.lastTx, .pending] (responseLoop ctx response fuel delivered) := by
  induction fuel generalizing delivered with
  | zero => exact ⟨nofun, fun reply => reply.elim⟩
  | succ fuel ih =>
    refine leaves_step rfl fun (result : ReadResult) =>
      (Within.leaves (sendChunk_within response result) (by decide)).bind fun sent => ?_
    cases sent with
    | error refused => trivial
    | ok sent =>
      cases result.err with
      | some err =>
        refine Leaves.ite (fun _ => ?_) fun _ => ?_
        · exact (completeAbsentResponse_leaves response).widen (by decide)
        · exact (completeTruncatedResponse_leaves response).widen (by decide)
      | none => exact Leaves.ite (fun _ => offerTerminator_leaves response _) fun _ => ih _

theorem sendResponse_leaves (ctx : Ctx) (response : Response) (fuel : Nat) :
    Leaves [.lastTx, .pending] (sendResponse ctx response fuel) := by
  refine (Within.leaves (validate_within response) (by decide)).bind fun checked => ?_
  cases checked with
  | error err => trivial
  | ok checked =>
    refine leaves_step rfl fun (refused : Option Err) => ?_
    cases refused with
    | some err => trivial
    | none =>
      exact leaves_step rfl fun _ => (responseLoop_leaves ctx checked fuel 0).bind fun _ =>
        leaves_step rfl fun _ => trivial

end Responses

section Operations

theorem receiveData_leaves (header : Header) (payload : Bytes) : Leaves [.received] (receiveData header payload) := by
  refine Leaves.ite (fun _ => trivial) fun _ => leaves_step rfl fun _ => leaves_step rfl fun _ =>
    leaves_step (by split <;> rfl) fun (refused : Option Err) => ?_
  cases refused with
  | some err => trivial
  | none => exact leaves_step rfl fun _ => trivial

theorem beginDeviceClear_leaves (config : Config) : Leaves [.pending] (beginDeviceClear config) := by
  refine (Within.leaves requireReady_within (by decide)).bind fun refused => ?_
  cases refused with
  | some err => trivial
  | none =>
    refine (Within.leaves abortOperation_within (by decide)).bind fun _ => leaves_step rfl fun _ =>
      leaves_step rfl fun (refused : Option Err) => ?_
    cases refused with
    | some err => trivial
    | none => exact leaves_step rfl fun _ => trivial

end Operations

end Hislip.Proofs.Notes
