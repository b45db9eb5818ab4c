import Hislip.Proofs.Reporting
import Hislip.Proofs.Serving

/-! A FatalError is the last word of a call. Nothing comes after it but the clean-up, and the
call returns an error. -/

namespace Hislip.Proofs.LastWord
open Hislip.Server Hislip.Threads Transition Program Footprint Serving
open Reporting (Reports Takes quiet handleSync_reports handleAsync_reports)

variable {σ : Type} {profile : Profile} (writer : Option MessageWriter) {result : Option Err} (config : Config)
  (message : Message)

def cleans : ServerOp → Bool
  | .session _ .unregister | .releaseAll _ | .unregister _ | .session _ .close | .cancel _ | .closeStream _ => true
  | _ => false

def mild (kind : Kind) : Bool := kind ≠ .lifecycle && kind ≠ .send .fatalError

def releasing : Op → Bool
  | .shared (.session .unregister) | .shared (.cancel _) => true
  | _ => false

/-- After a FatalError a handler only releases its operation. -/
def grave : Discipline Op Op.Reply Bool where
  allowed written op := kind op ≠ .lifecycle ∧ (written = true → releasing op = true)
  advance written op _ := written || decide (kind op = .send .fatalError)

def Fails (result : Option Err) (written : Bool) : Prop := written = true → result ≠ none

abbrev Grave (program : Act (Option Err)) : Prop := Follows grave Fails program false

theorem grave_spares : Spares grave false (mild · = true) := by
  intro op plain
  obtain ⟨lasting, other⟩ := Bool.and_eq_true_iff.mp plain
  refine ⟨⟨of_decide_eq_true lasting, nofun⟩, fun reply => ?_⟩
  simp only [grave, Bool.false_or, decide_eq_false (of_decide_eq_true other)]

theorem grave_pure (result : Option Err) : Grave (Pure.pure result) := nofun

theorem writeVia_grave (header : Header) (payload : Bytes) (err : Err) :
    Grave (writeVia writer header payload >>= fun _ => Pure.pure (some err)) := by
  cases writer with
  | none => exact ⟨⟨Kind.noConfusion, nofun⟩, fun reply => reply.elim⟩
  | some writer =>
    simp only [writeVia, MessageWriter.write]
    split
    next => exact grave_pure (some err)
    next =>
      split
      next => exact grave_pure (some err)
      next => exact ⟨⟨Kind.noConfusion, nofun⟩, fun _ _ _ => Option.some_ne_none err⟩

theorem reportError_grave (err : Err) (code : ErrorCode → ErrorCode) : Grave (reportError writer err code) := by
  unfold reportError
  cases wireErrorFor err with
  | fatal fatal =>
    refine grave_spares.step rfl fun _ => ?_
    cases writer with
    | some writer => exact writeVia_grave (some writer) _ _ err
    | none => exact grave_pure (some err)
  | nonFatal nonFatal =>
    refine grave_spares.step rfl fun _ => ?_
    cases writer with
    | some writer =>
      have within : Within [.send .error] (writer.writeError (code nonFatal) err.text) := write_within writer _ rfl
      exact (grave_spares.rest within (by decide)).mono fun _ _ still written =>
        absurd (still.symm.trans written) Bool.noConfusion
    | none => exact grave_pure none

theorem grave_reports : Reports grave false Fails writer where
  spares op plain := by
    refine grave_spares op ?_
    simp only [quiet, mild, Bool.and_eq_true] at plain ⊢
    exact ⟨plain.1.1, plain.2⟩
  counts counter _ := grave_spares (.shared (.count counter)) rfl
  rests _ := nofun
  reports err code := reportError_grave writer err code
  releases result written met _ := by
    refine ⟨⟨Kind.noConfusion, fun _ => rfl⟩, fun _ _ => ⟨⟨Kind.noConfusion, fun _ => rfl⟩, fun _ _ => ?_⟩⟩
    intro still
    refine met ?_
    simpa [grave, kind] using still

theorem grave_takes (late : MessageType) :
    Takes grave false Fails (fun _ => True) writer message late where
  rules := grave_reports writer
  refuses err _ := ((grave_reports writer).reportAcceptError err).mono fun result last met => by
    unfold Reporting.outcome
    split
    next => trivial
    next => exact met
  peer := ⟨⟨Kind.noConfusion, nofun⟩, fun _ _ => trivial⟩
  again _ _ header payload err := writeVia_grave writer header payload err

theorem outcome_fails {message : Message} {written : Bool}
    (met : Reporting.outcome message Fails (fun _ => True) result written) : Fails result written := by
  unfold Reporting.outcome at met
  split at met
  next left =>
    rw [(of_decide_eq_true left).2.2]
    exact fun _ => Option.some_ne_none _
  next => exact met

theorem handleSync_grave (fuel : Nat) : Grave (handleSync config message fuel) := by
  obtain ⟨rest, same, follows⟩ := handleSync_reports config message fuel
  rw [same]
  exact grave_spares.step rfl fun writer => (follows (grave_takes writer message _)).mono fun _ _ => outcome_fails

theorem handleAsync_grave (fuel : Nat) : Grave (handleAsync config message fuel) := by
  obtain ⟨rest, same, barred, follows⟩ := handleAsync_reports config message fuel
  rw [same]
  refine grave_spares.step rfl fun (writer : Option MessageWriter) => ?_
  cases writer with
  | none =>
    rw [barred]
    exact grave_pure _
  | some writer => exact (follows (grave_takes (some writer) message _)).mono fun _ _ => outcome_fails

theorem fails_listens {written : Bool} (fails : Fails result written) :
    result.elim (written = false) fun err => Fails (some err) written := by
  cases result with
  | none => exact Bool.eq_false_iff.mpr fun now => fails now rfl
  | some err => exact fails

theorem grave_rules (profile : Profile) :
    Rules profile grave (fun _ written => written = false) (fun _ written => written = false) Fails where
  sync message _ _ fuel begins := begins ▸ (handleSync_grave _ message fuel).mono fun _ _ => fails_listens
  async message _ _ fuel begins := begins ▸ (handleAsync_grave _ message fuel).mono fun _ _ => fails_listens
  ending _ _ begins _ now := absurd ((or_self_iff.mp begins).symm.trans now) Bool.noConfusion
  waits _ _ begins := by
    obtain rfl | rfl := begins <;> exact ⟨Kind.noConfusion, nofun⟩

section Doom
variable {phase : Place × Bool} {op : ServerOp}

def fatal : ServerOp → Bool
  | .environment (.send _ header _) => header.type = .fatalError
  | _ => false

/-- The call has written a FatalError from its loop, or to refuse a connection. -/
def Doomed (phase : Place × Bool) : Prop :=
  (loopOn phase.1 = true ∧ phase.2 = true) ∨ ∃ stream, phase.1 = .refused stream

theorem doomed_fatal {reply : op.Reply} (allowed : (conduct grave).allowed phase op) (bad : fatal op = true) :
    Doomed ((conduct grave).advance phase op reply) := by
  obtain ⟨place, written⟩ := phase
  rcases advance_cases allowed reply with ⟨session, loops, -, same⟩ | ⟨next, step, same⟩
  · rw [same]
    refine .inl ⟨loopOn_looping loops, ?_⟩
    cases op with
    | environment op =>
      cases op with
      | send channel header payload => simp [moves, grave, kind, show header.type = .fatalError from of_decide_eq_true bad]
      | _ => cases bad
    | _ => cases bad
  · rw [same]
    cases step with
    | refuses => exact .inr ⟨_, rfl⟩
    | greets greets | greetsNone greets | welcomes greets | welcomesNone greets =>
      exact absurd (greets.1.symm.trans (of_decide_eq_true bad)) (by decide)
    | _ => cases bad

theorem Doomed.next (doomed : Doomed phase) (reply : op.Reply) (allowed : (conduct grave).allowed phase op) :
    Doomed ((conduct grave).advance phase op reply) := by
  obtain ⟨place, written⟩ := phase
  rcases advance_cases allowed reply with ⟨session, loops, -, same⟩ | ⟨next, step, same⟩
  · rw [same]
    rcases doomed with ⟨within, rfl⟩ | ⟨stream, rfl⟩
    · refine .inl ⟨within, ?_⟩
      cases op <;> simp [moves, grave]
    · cases loops
  · rw [same]
    rcases doomed with ⟨within, now⟩ | ⟨stream, rfl⟩
    · exact .inl ⟨loopOn_next within step, now⟩
    · cases step <;> exact .inr ⟨_, rfl⟩

theorem reply_nonempty {op : ServerOp} (other : op ≠ .environment .exhausted) : Nonempty op.Reply := by
  cases op with
  | session number op => exact ⟨(op.apply alwaysReadPolicy (.new .standard alwaysReadPolicy 1 .version10
      Version.version10_current 0)).1⟩
  | locks op => exact ⟨(op.apply {}).1⟩
  | environment op =>
    cases op with
    | exhausted => exact absurd rfl other
    | read _ _ => exact ⟨⟨[], false, none⟩⟩
    | readStatusByte _ => exact ⟨.ok 0⟩
    | pending | remaining => exact ⟨false⟩
    | select _ => exact ⟨.changed⟩
    | _ => exact ⟨none⟩
  | allocateSession _ _ => exact ⟨.error Sentinel.maxClients⟩
  | takeAll => exact ⟨[]⟩
  | lookup _ | closeStream _ => exact ⟨none⟩
  | withCancel => exact ⟨0⟩
  | _ => exact ⟨()⟩

/-- What comes after a FatalError: the clean-up, or the counters of a refused connection. -/
theorem Doomed.cleans (doomed : Doomed phase) (allowed : (conduct grave).allowed phase op) :
    cleans op = true ∨ (∃ stream, phase.1 = .refused stream) ∧ ∃ counter, op = .count counter := by
  obtain ⟨place, written⟩ := phase
  rcases allowed with ⟨session, loops, -, loop, performs, -, -, after⟩ | allows
  · have releases : releasing loop = true := by
      rcases doomed with ⟨-, now⟩ | ⟨stream, rfl⟩
      · exact after now
      · cases loops
    refine .inl ?_
    cases op with
    | session number op =>
      cases performs
      cases op <;> first | rfl | cases releases
    | cancel number => rfl
    | allocateSession _ _ | lookup _ | unregister _ | takeAll | releaseAll _ | closeStream _ => cases performs
    | _ =>
      cases performs
      cases releases
  · obtain ⟨reply⟩ := reply_nonempty fun waits => by
      obtain ⟨_, _, rfl⟩ := allows.waits waits
      rcases doomed with ⟨⟨⟩, -⟩ | ⟨_, ⟨⟩⟩
    have step := allows.step reply
    generalize place.next op reply = next at step
    rcases doomed with ⟨within, -⟩ | ⟨stream, rfl⟩
    · cases step <;> first | exact .inl rfl | cases within
    · cases step with
      | countsRefused => exact .inr ⟨⟨_, rfl⟩, _, rfl⟩
      | _ => exact .inl rfl

theorem Doomed.returns {result : Option Err} (doomed : Doomed phase) (returns : Returns Fails result phase) :
    result ≠ none := by
  obtain ⟨place, written⟩ := phase
  rcases returns_cases returns with ⟨-, failed⟩ | ⟨⟨session, same⟩, fails⟩ | ⟨sessions, rfl⟩
  · exact failed
  · rcases doomed with ⟨-, now⟩ | ⟨stream, rfl⟩
    · exact fails now
    · rcases same with impossible | impossible <;> cases impossible
  · rcases doomed with ⟨⟨⟩, -⟩ | ⟨_, ⟨⟩⟩

end Doom

abbrev Warned (calls : Calls profile σ) : Prop :=
  calls.Lawful (conduct grave) (Returns Fails) (begin fun _ => false) fun _ _ => True

theorem always_warned (policy : ResponsePolicy σ) (moves : List (Move (Call profile.maxRxPayload) Outside)) :
    Always (Calls.step policy) Warned moves ({ shared := {} } : Calls profile σ) := by
  have prepared : Prepared profile (fun _ written => written = false) (fun _ written => written = false) fun _ => false :=
    ⟨fun _ _ _ _ _ _ _ _ _ => rfl, fun _ _ _ _ _ _ _ _ => rfl⟩
  refine always_conducted (grave_rules profile) prepared trivial (fun _ _ _ _ => trivial) ?_ moves
  intro _ _ _ _ _ _ op _ _ _ _ _ _ _
  exact ⟨fun _ => by cases op <;> trivial, trivial⟩

end Hislip.Proofs.LastWord
