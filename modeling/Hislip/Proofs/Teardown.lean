import Hislip.Chronicle
import Hislip.Server.Registry
import Hislip.Proofs.Footprint

/-! In which order a handler of the server takes a session down. A mark is what has to
be done to a session before it may be closed. -/

namespace Hislip.Proofs.Teardown
open Hislip.Server Program Footprint

def closing (marks : (op : ServerOp) → op.Reply → List Nat) : Discipline ServerOp ServerOp.Reply (List Nat) where
  allowed done op := ∀ session, op = .session session .close → session ∈ done
  advance done op reply := marks op reply ++ done

abbrev Closes (marks : (op : ServerOp) → op.Reply → List Nat) {α : Type} (program : ServerProgram α)
    (done : List Nat) : Prop :=
  Follows (closing marks) (fun _ _ => True) program done

variable {marks : (op : ServerOp) → op.Reply → List Nat} {α : Type} {done : List Nat} (profile : Profile)
  (header : Header)

theorem Closes.grows {program : ServerProgram α} (closes : Closes marks program done) :
    Follows (closing marks) (fun _ phase => done ⊆ phase) program done := by
  induction program generalizing done with
  | pure value => exact List.Subset.refl done
  | request op next ih =>
    refine ⟨closes.1, fun reply possible => (ih reply (closes.2 reply possible)).mono fun _ phase later => ?_⟩
    exact fun session member => later (List.mem_append_right _ member)

theorem mem_after_closing {past : List (Performed ServerOp.Reply)} {session : Nat} :
    session ∈ (closing marks).after done past ↔
      session ∈ done ∨ ∃ event ∈ past, session ∈ marks event.operation event.reply := by
  induction past generalizing done with
  | nil => simp [Discipline.after]
  | cons event rest ih =>
    rw [Discipline.after, ih]
    simp only [closing, List.mem_append, List.mem_cons, exists_eq_or_imp]
    tauto

theorem closes_ofLoop (session : Nat) {program : Act α} (avoids : Avoids lifecycle program) (done : List Nat) :
    Closes marks (.ofLoop session program) done := by
  induction program generalizing done with
  | pure value => trivial
  | request op next ih =>
    refine ⟨fun number same => ?_, fun reply _ => ih _ (avoids.2 _ trivial) _⟩
    have other : lifecycle op = false := avoids.1
    unfold ServerOp.ofLoop at same
    split at same
    any_goals cases same
    exact absurd (show true = false from other) Bool.noConfusion

theorem closes_perform {op : ServerOp} {next : op.Reply → ServerProgram α}
    (other : ∀ session, op ≠ .session session .close)
    (resume : ∀ reply, Closes marks (next reply) (marks op reply ++ done)) :
    Closes marks (ServerProgram.perform op >>= next) done :=
  ⟨fun session same => absurd same (other session), fun reply _ => resume reply⟩

theorem closes_closeStreams (streams : List Stream) (first : Option Err) (done : List Nat) :
    Closes marks (ServerProgram.closeStreams streams first) done := by
  induction streams generalizing first done with
  | nil => trivial
  | cons stream rest ih => exact closes_perform (fun _ => nofun) fun _ => ih _ _

theorem closes_close {session : Nat} (marked : session ∈ done) : Closes marks (ServerProgram.close session) done := by
  refine ⟨fun number same => ?_, fun reply _ => ?_⟩
  · cases same
    exact marked
  · obtain ⟨streams, _ | operation⟩ := reply
    · exact closes_closeStreams streams none _
    · exact closes_perform (fun _ => nofun) fun _ => closes_closeStreams streams none _

theorem closes_removeSession (session : Nat)
    (marked : ∀ released unregistered, session ∈ marks (.unregister session) unregistered ++
      (marks (.releaseAll session) released ++ done)) :
    Closes marks (ServerProgram.removeSession session) done :=
  closes_perform (fun _ => nofun) fun released => closes_perform (fun _ => nofun) fun unregistered =>
    closes_close (marked released unregistered)

theorem closes_closeEach (sessions : List Nat) (first : Option Err) (done : List Nat)
    (marked : ∀ session ∈ sessions, ∀ released, session ∈ marks (.releaseAll session) released ++ done) :
    Closes marks (ServerProgram.closeEach sessions first) done := by
  induction sessions generalizing first done with
  | nil => trivial
  | cons session rest ih =>
    refine closes_perform (fun _ => nofun) fun released => ?_
    have closed : Closes marks (ServerProgram.close session) (marks (.releaseAll session) released ++ done) :=
      closes_close (marked session List.mem_cons_self released)
    refine Follows.bind closed.grows fun _ phase later => ih _ _ fun other member released => ?_
    obtain now | earlier := List.mem_append.mp (marked other (List.mem_cons_of_mem _ member) released)
    · exact List.mem_append_left _ now
    · exact List.mem_append_right _ (later (List.mem_append_right _ earlier))

theorem closes_initializeRequest (subAddress : Bytes) (stream : Stream) (done : List Nat) :
    Closes marks (ServerProgram.initializeRequest profile header subAddress stream) done := by
  unfold ServerProgram.initializeRequest
  repeat' split
  any_goals trivial
  exact closes_perform (fun _ => nofun) fun
    | .error _ => trivial
    | .ok _ => trivial

theorem closes_asyncInitialize (stream : Stream) (done : List Nat) :
    Closes marks (ServerProgram.asyncInitialize profile header stream) done := by
  unfold ServerProgram.asyncInitialize
  repeat' split
  any_goals trivial
  exact closes_perform (fun _ => nofun) fun
    | none => trivial
    | some _ => closes_perform (fun _ => nofun) fun
      | none => trivial
      | some _ => trivial

section Opening

def opens : ServerOp → Bool
  | .allocateSession _ _ => true
  | .session _ (.attachAsync _) => true
  | _ => false

variable (session : Nat)

theorem ofLoop_opens {program : Act α} (avoids : Avoids lifecycle program) :
    Avoids opens (ServerProgram.ofLoop session program) := by
  induction program with
  | pure value => trivial
  | request op next ih =>
    refine ⟨?_, fun reply _ => ih _ (avoids.2 _ trivial)⟩
    have other : lifecycle op = false := avoids.1
    unfold ServerOp.ofLoop
    split
    next op => cases op <;> first | rfl | exact absurd (show true = false from other) Bool.noConfusion
    all_goals rfl

def takesDown : ServerOp → Bool
  | .releaseAll _ | .unregister _ | .takeAll | .session _ .close | .cancel _ | .closeStream _ => true
  | _ => false

abbrev TakesDown (program : ServerProgram α) : Prop := Avoids (fun op => !takesDown op) program

theorem takesDown_perform {op : ServerOp} {next : op.Reply → ServerProgram α} (part : takesDown op = true)
    (resume : ∀ reply, TakesDown (next reply)) : TakesDown (ServerProgram.perform op >>= next) :=
  ⟨congrArg (! ·) part, fun reply _ => resume reply⟩

theorem closeStreams_takesDown (streams : List Stream) (first : Option Err) :
    TakesDown (ServerProgram.closeStreams streams first) := by
  induction streams generalizing first with
  | nil => trivial
  | cons stream rest ih => exact takesDown_perform rfl fun _ => ih _

theorem close_takesDown : TakesDown (ServerProgram.close session) :=
  takesDown_perform rfl fun
    | (streams, none) => closeStreams_takesDown streams none
    | (streams, some _) => takesDown_perform rfl fun _ => closeStreams_takesDown streams none

theorem removeSession_takesDown : TakesDown (ServerProgram.removeSession session) :=
  takesDown_perform rfl fun _ => takesDown_perform rfl fun _ => close_takesDown session

theorem closeEach_takesDown (sessions : List Nat) (first : Option Err) :
    TakesDown (ServerProgram.closeEach sessions first) := by
  induction sessions generalizing first with
  | nil => trivial
  | cons session rest ih => exact takesDown_perform rfl fun _ => (close_takesDown session).bind fun _ => ih _

theorem closeAll_takesDown : TakesDown ServerProgram.closeAll :=
  takesDown_perform rfl fun all => closeEach_takesDown all none

variable {program : ServerProgram α}

theorem TakesDown.rests {Φ : Type} {discipline : Discipline ServerOp ServerOp.Reply Φ} {phase : Φ}
    (only : TakesDown program)
    (rests : ∀ op, takesDown op = true → discipline.allowed phase op ∧ ∀ reply, discipline.advance phase op reply = phase) :
    Follows discipline (fun _ last => last = phase) program phase := by
  have goes : Follows discipline (fun _ last => True ∧ last = phase) program phase := by
    refine Follows.rests only (fun _ op part => ?_) fun _ _ _ => trivial
    obtain ⟨allowed, still⟩ := rests op (by simpa using part)
    exact ⟨allowed, fun reply _ => ⟨trivial, still reply⟩⟩
  exact goes.mono fun _ _ done => done.2

theorem TakesDown.opens (only : TakesDown program) : Avoids opens program := by
  refine (only.rests fun op part => ⟨?_, fun _ => rfl⟩).mono fun _ _ _ => trivial
  unfold takesDown at part
  split at part
  all_goals first | rfl | cases part

end Opening

end Hislip.Proofs.Teardown
