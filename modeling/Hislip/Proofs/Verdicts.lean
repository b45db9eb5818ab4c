import Mathlib.Data.List.Basic
import Hislip.Transition
import Hislip.Server.Async
import Hislip.Server.Execution
import Hislip.Proofs.Footprint
import Hislip.Proofs.SyncRuns

/-! The verdicts on RMT-delivered as a function of the history: what was written to the
client, what came from it, and the Device Clears. -/

namespace Hislip.Proofs.Verdicts
open Hislip.Server Footprint Transition Act Program

variable {σ δ : Type}

section History

/-- An entry of the history: a DataEnd that was written, a Data, DataEnd or Trigger message
with its flag and the verdict on it, a status query with its flag, a Device Clear that was
completed. -/
inductive Entry where
  | dataEnd
  | message (delivered : Bool) (verdict : Interrupted)
  | statusQuery (delivered : Bool)
  | cleared
  deriving DecidableEq, Repr

def Entry.settles : Entry → Bool
  | .dataEnd => false
  | .message _ _ => true
  | .statusQuery delivered => delivered
  | .cleared => true

/-- A DataEnd has been written since the last entry that settles. -/
def Unread (history : List Entry) : Prop :=
  ∃ before after, history = before ++ .dataEnd :: after ∧ ∀ entry ∈ after, entry.settles = false

def Judged (history : List Entry) : Prop :=
  ∀ before delivered verdict after, history = before ++ .message delivered verdict :: after →
    (verdict = .rmtMismatch ↔ ¬ (delivered = true ↔ Unread before))

/-- A message that did not own up to a response, and was found out. -/
def Entry.misses (entry : Entry) : Bool := entry = .message false .rmtMismatch

def Once (history : List Entry) : Prop := history.countP Entry.misses ≤ history.countP (· = .dataEnd)

theorem append_cons_concat {history before after : List Entry} {last entry : Entry}
    (same : history ++ [last] = before ++ entry :: after) :
    (after = [] ∧ history = before ∧ last = entry) ∨
      ∃ earlier, after = earlier ++ [last] ∧ history = before ++ entry :: earlier := by
  rcases List.eq_nil_or_concat after with rfl | ⟨earlier, final, rfl⟩
  · obtain ⟨rfl, one⟩ := List.append_inj' same rfl
    exact .inl ⟨rfl, rfl, (List.cons.inj one).1⟩
  · rw [List.concat_eq_append, ← List.cons_append, ← List.append_assoc] at same
    obtain ⟨rfl, one⟩ := List.append_inj' same rfl
    obtain rfl := (List.cons.inj one).1
    exact .inr ⟨earlier, List.concat_eq_append, rfl⟩

theorem unread_concat (history : List Entry) (entry : Entry) :
    Unread (history ++ [entry]) ↔ entry = .dataEnd ∨ entry.settles = false ∧ Unread history := by
  constructor
  · rintro ⟨before, after, same, spared⟩
    rcases append_cons_concat same with ⟨rfl, rfl, rfl⟩ | ⟨earlier, rfl, rfl⟩
    · exact .inl rfl
    · refine .inr ⟨spared entry (List.mem_append_right _ List.mem_cons_self), before, earlier, rfl, ?_⟩
      exact fun other member => spared other (List.mem_append_left _ member)
  · rintro (rfl | ⟨spares, before, after, rfl, spared⟩)
    · exact ⟨history, [], rfl, fun _ => nofun⟩
    · refine ⟨before, after ++ [entry], by rw [List.append_assoc, List.cons_append], ?_⟩
      intro other member
      rcases List.mem_append.mp member with earlier | last
      · exact spared other earlier
      · rw [List.mem_singleton.mp last]
        exact spares

theorem not_unread_nil : ¬ Unread [] := by
  rintro ⟨before, after, same, -⟩
  cases before <;> cases same

theorem Judged.concat {history : List Entry} {entry : Entry} (judged : Judged history)
    (last : ∀ delivered verdict, entry = .message delivered verdict →
      (verdict = .rmtMismatch ↔ ¬ (delivered = true ↔ Unread history))) :
    Judged (history ++ [entry]) := by
  intro before delivered verdict after same
  rcases append_cons_concat same with ⟨rfl, rfl, rfl⟩ | ⟨earlier, rfl, rfl⟩
  · exact last delivered verdict rfl
  · exact judged before delivered verdict earlier rfl

end History

section Agreement
variable {history : List Entry} {rmt : RMT}

/-- The tracker stands where the history says, and the verdicts so far are right. -/
structure Agrees (history : List Entry) (rmt : RMT) : Prop where
  expected : rmt.expected = true ↔ Unread history
  judged : Judged history
  once : Once history
  spare : Unread history → history.countP Entry.misses < history.countP (· = .dataEnd)

theorem agrees_nil : Agrees [] {} where
  expected := iff_of_false Bool.false_ne_true not_unread_nil
  judged _ _ _ _ same := absurd same (List.ne_nil_of_length_pos (by simp)).symm
  once := Nat.le_refl 0
  spare unread := absurd unread not_unread_nil

theorem countP_concat (history : List Entry) (entry : Entry) (counts : Entry → Bool) :
    (history ++ [entry]).countP counts = history.countP counts + if counts entry then 1 else 0 := by
  rw [List.countP_append, List.countP_singleton]

section
variable (agrees : Agrees history rmt)
include agrees

theorem Agrees.dataEnd : Agrees (history ++ [.dataEnd]) ⟨true⟩ := by
  have more : (history ++ [Entry.dataEnd]).countP (· = .dataEnd) = history.countP (· = .dataEnd) + 1 :=
    countP_concat history .dataEnd _
  have same : (history ++ [Entry.dataEnd]).countP Entry.misses = history.countP Entry.misses :=
    countP_concat history .dataEnd _
  have once : history.countP Entry.misses ≤ history.countP (· = .dataEnd) := agrees.once
  refine ⟨iff_of_true rfl ((unread_concat _ _).mpr (.inl rfl)), agrees.judged.concat fun _ _ => nofun, ?_, fun _ => ?_⟩
  · rw [Once, more, same]
    omega
  · rw [more, same]
    omega

theorem Agrees.settle {entry : Entry} (settles : entry.settles = true)
    (judged : ∀ delivered verdict, entry = .message delivered verdict →
      (verdict = .rmtMismatch ↔ ¬ (delivered = true ↔ Unread history))) :
    Agrees (history ++ [entry]) ⟨false⟩ := by
  have other : entry ≠ .dataEnd := by
    rintro rfl
    cases settles
  have read : ¬ Unread (history ++ [entry]) := by
    rw [unread_concat, settles]
    rintro (same | ⟨same, -⟩)
    · exact other same
    · cases same
  refine ⟨iff_of_false Bool.false_ne_true read, agrees.judged.concat judged, ?_, fun unread => absurd unread read⟩
  have ends : (history ++ [entry]).countP (· = .dataEnd) = history.countP (· = .dataEnd) := by
    rw [countP_concat, if_neg (by simpa using other), Nat.add_zero]
  rw [Once, ends, countP_concat]
  by_cases misses : entry.misses = true
  · -- The flag is false and the verdict a mismatch, so that a response is unread.
    have same : entry = .message false .rmtMismatch := of_decide_eq_true misses
    have unread : Unread history := by
      by_contra read
      exact (judged false .rmtMismatch same).mp rfl (iff_of_false Bool.false_ne_true read)
    have spare := agrees.spare unread
    rw [if_pos misses]
    omega
  · have once : history.countP Entry.misses ≤ history.countP (· = .dataEnd) := agrees.once
    rw [if_neg misses]
    omega

theorem Agrees.message (delivered : Bool) :
    Agrees (history ++ [.message delivered (RMTOp.apply (.receivedSyncMessage delivered) rmt).1])
      (RMTOp.apply (.receivedSyncMessage delivered) rmt).2 := by
  refine agrees.settle rfl ?_
  intro flag verdict same
  cases same
  rw [← agrees.expected]
  obtain ⟨expected⟩ := rmt
  cases expected <;> cases delivered <;> decide

theorem Agrees.statusQuery (delivered : Bool) :
    Agrees (history ++ [.statusQuery delivered]) (RMTOp.apply (.receivedStatusQuery delivered) rmt).2 := by
  cases delivered with
  | true => exact agrees.settle rfl fun _ _ => nofun
  | false =>
    have unread : Unread (history ++ [.statusQuery false]) ↔ Unread history := by
      rw [unread_concat]
      exact ⟨fun either => either.elim nofun And.right, fun unread => .inr ⟨rfl, unread⟩⟩
    have misses : (history ++ [Entry.statusQuery false]).countP Entry.misses = history.countP Entry.misses :=
      countP_concat history _ _
    have ends : (history ++ [Entry.statusQuery false]).countP (· = .dataEnd) = history.countP (· = .dataEnd) :=
      countP_concat history _ _
    refine ⟨agrees.expected.trans unread.symm, agrees.judged.concat fun _ _ => nofun, ?_, fun still => ?_⟩
    · rw [Once, misses, ends]
      exact agrees.once
    · rw [misses, ends]
      exact agrees.spare (unread.mp still)

theorem Agrees.cleared : Agrees (history ++ [.cleared]) {} := agrees.settle rfl fun _ _ => nofun

end

end Agreement

section Phases

/-- The entries that a call has made so far. After the write of a DataEnd the expectation is
still to be raised. -/
inductive Phase where
  | settled (entries : List Entry)
  | wrote (entries : List Entry)
  deriving DecidableEq, Repr

def Phase.allowed : Phase → Op → Prop
  | .wrote _, op => op = .shared (.session (.rmt .sentDataEnd))
  | .settled _, .shared (.session (.rmt .sentDataEnd)) => False
  | .settled _, op => kind op ≠ .lifecycle

def Phase.advance : Phase → (op : Op) → op.Reply → Phase
  | .wrote entries, _, _ => .settled entries
  | .settled entries, .shared (.session (.rmt (.receivedSyncMessage delivered))), verdict =>
    .settled (entries ++ [.message delivered verdict])
  | .settled entries, .shared (.session (.rmt (.receivedStatusQuery delivered))), _ =>
    .settled (entries ++ [.statusQuery delivered])
  | .settled entries, .shared (.session (.completeClear _)), _ => .settled (entries ++ [.cleared])
  | .settled entries, .environment (.send _ header _), reply =>
    if header.type = .dataEnd ∧ reply = none then .wrote (entries ++ [.dataEnd]) else .settled entries
  | phase, _, _ => phase

def chronicle : Discipline Op Op.Reply Phase where
  allowed := Phase.allowed
  possible
    | _, .shared (.session .state), reply => reply = .ready ∨ reply = .clearing
    | _, _, _ => True
  advance := Phase.advance

def silent : Kind → Prop
  | .rmt | .clear | .lifecycle => False
  | .send type => type ≠ .dataEnd
  | _ => True

instance silent.decidable : DecidablePred silent := fun kind => by
  cases kind <;> unfold silent <;> infer_instance

theorem spares (entries : List Entry) : Spares chronicle (.settled entries) silent := by
  intro op plain
  cases op with
  | shared op =>
    cases op with
    | session op =>
      cases op with
      | rmt op => exact absurd plain id
      | completeClear overlap => exact absurd plain id
      | setSyncWriter writer | setAsyncWriter writer | setSyncPending | attachAsync stream | close =>
        exact absurd plain id
      | tx op => exact ⟨by cases op <;> nofun, fun _ => rfl⟩
      | _ => exact ⟨nofun, fun _ => rfl⟩
    | _ => exact ⟨nofun, fun _ => rfl⟩
  | environment op =>
    cases op with
    | send channel header payload =>
      exact ⟨nofun, fun reply => if_neg fun ends => plain ends.1⟩
    | _ => exact ⟨nofun, fun _ => rfl⟩

theorem writeEnd_notes (writer : MessageWriter) {header : Header} (final : header.type = .dataEnd) (payload : Bytes)
    (entries : List Entry) :
    Follows chronicle (fun err phase => phase = if err = none then .wrote (entries ++ [.dataEnd]) else .settled entries)
      (writer.write header payload) (.settled entries) := by
  unfold MessageWriter.write
  refine .ite (fun _ => rfl) fun _ => .ite (fun _ => rfl) fun _ => ⟨nofun, fun reply _ => ?_⟩
  cases reply with
  | none => exact if_pos ⟨final, rfl⟩
  | some err => exact if_neg fun written => nomatch written.2

/-- A part of a response makes no entry, or one for the DataEnd that ends the response. -/
def Ends (err : Option Err) (phase : Phase) : Prop := phase = .settled [.dataEnd] ∨ err ≠ none ∧ phase = .settled []

variable (response : CheckedResponse) (header : Header)

theorem terminate_notes (final : Bytes) : Follows chronicle Ends (terminate response final) (.settled []) := by
  refine Follows.bind (writeEnd_notes _ rfl final []) ?_
  rintro (_ | err) _ rfl
  · have completes : Within [.tx] (tx .complete) := last_within rfl
    refine .step rfl fun _ _ => (spares [.dataEnd]).step trivial fun _ => ?_
    exact ((spares [.dataEnd]).rest completes (by decide)).mono fun _ _ same => .inl same
  · exact .inr ⟨nofun, rfl⟩

def Counts (result : ResponseOutcome × Option Err) (phase : Phase) : Prop :=
  if result.1 = .interrupted then phase = .settled [] else Ends result.2 phase

theorem Counts.settled {result : ResponseOutcome × Option Err} {phase : Phase} (counts : Counts result phase) :
    ∃ entries : List Entry, (∀ entry ∈ entries, entry = .dataEnd) ∧ phase = .settled entries := by
  have none_or_one : phase = .settled [] ∨ phase = .settled [.dataEnd] := by
    unfold Counts at counts
    split at counts
    · exact .inl counts
    · exact counts.elim .inr fun failed => .inl failed.2
  rcases none_or_one with rfl | rfl
  · exact ⟨[], fun _ => nofun, rfl⟩
  · exact ⟨[.dataEnd], fun _ member => List.mem_singleton.mp member, rfl⟩

theorem counts_refused (outcome : ResponseOutcome) (err : Err) : Counts (outcome, some err) (.settled []) := by
  unfold Counts
  split
  · rfl
  · exact .inr ⟨nofun, rfl⟩

theorem completeAbsentResponse_notes : Follows chronicle Counts (completeAbsentResponse response) (.settled []) := by
  have reports : Within [.send .error] (response.sync.writeError ErrorCode.responseTimeout
      (ascii "no response from instrument")) := write_within _ _ rfl
  refine (spares []).skip reports (by decide) fun failed => ?_
  cases failed with
  | some err => exact counts_refused _ err
  | none =>
    refine (spares []).step trivial fun (refused : Option Err) => ?_
    cases refused with
    | some err => exact counts_refused _ err
    | none => exact Follows.bind (terminate_notes response []) fun _ _ ends => ends

theorem completeTruncatedResponse_notes :
    Follows chronicle Counts (completeTruncatedResponse response) (.settled []) := by
  have reports : Within [.send .error] (response.sync.writeError ErrorCode.responseTimeout
      (ascii "response truncated")) := write_within _ _ rfl
  refine (spares []).skip reports (by decide) fun failed => ?_
  cases failed with
  | some err => exact counts_refused _ err
  | none => exact Follows.bind (terminate_notes response []) fun _ _ ends => ends

theorem offerTerminator_notes (final : Bytes) :
    Follows chronicle Counts (offerTerminator response final) (.settled []) := by
  refine (spares []).skip (ask_within response.inputQueued) (by decide) fun queued => ?_
  cases queued with
  | true => exact (spares []).skip (sendInterrupted_within response) (by decide) fun _ => rfl
  | false =>
    refine (spares []).step trivial fun (refused : Option Err) => ?_
    cases refused with
    | some err => exact counts_refused _ err
    | none => exact Follows.bind (terminate_notes response final) fun _ _ ends => ends

theorem responseLoop_notes (ctx : Ctx) (response : CheckedResponse) (fuel : Nat) (delivered : UInt64) :
    Follows chronicle Counts (responseLoop ctx response fuel delivered) (.settled []) := by
  induction fuel generalizing delivered with
  | zero => exact ⟨nofun, fun reply => reply.elim⟩
  | succ fuel ih =>
    refine (spares []).step trivial fun (result : ReadResult) =>
      (spares []).skip (sendChunk_within response result) (by decide) fun sent => ?_
    cases sent with
    | error refused => exact counts_refused _ _
    | ok sent =>
      cases result.err with
      | some err =>
        exact .ite (fun _ => completeAbsentResponse_notes response) fun _ => completeTruncatedResponse_notes response
      | none => exact .ite (fun _ => offerTerminator_notes response result.data) fun _ => ih _

/-- An interrupted response leaves no DataEnd, and any other that succeeds leaves one. -/
theorem sendResponse_notes (ctx : Ctx) (response : Response) (fuel : Nat) :
    Follows chronicle Counts (sendResponse ctx response fuel) (.settled []) := by
  refine (spares []).skip (validate_within response) (by decide) fun checked => ?_
  cases checked with
  | error err => exact counts_refused _ err
  | ok checked =>
    refine (spares []).step trivial fun (refused : Option Err) => ?_
    cases refused with
    | some err => exact counts_refused _ err
    | none =>
      refine (spares []).step trivial fun _ => Follows.bind (responseLoop_notes ctx checked fuel 0) ?_
      intro result phase counts
      obtain ⟨entries, -, rfl⟩ := counts.settled
      exact (spares entries).step trivial fun _ => counts

theorem requireReady_passes {β : Type} {next : Option Err → Act β} {entries : List Entry} {post : β → Phase → Prop}
    (resume : Follows chronicle post (next none) (.settled entries)) :
    Follows chronicle post (requireReady >>= next) (.settled entries) := by
  refine Follows.step nofun fun reply paired => ?_
  rcases paired with rfl | rfl
  · exact resume
  · exact resume

theorem receiveData_notes (payload : Bytes) :
    Follows chronicle (fun result phase => phase = .settled
        (if header.type = .data ∨ header.type = .dataEnd then [.message header.rmtDelivered result.1] else []))
      (receiveData header payload) (.settled []) := by
  unfold receiveData
  refine .ite (fun other => ?_) fun known => ?_
  · exact congrArg Phase.settled (if_neg fun typed => typed.elim other.1 other.2).symm
  · have typed : header.type = .data ∨ header.type = .dataEnd := by
      by_contra other
      exact known ⟨fun data => other (.inl data), fun last => other (.inr last)⟩
    simp only [if_pos typed]
    refine .step nofun fun verdict _ => (spares _).step trivial fun _ => ?_
    refine (spares _).step (by split <;> trivial) fun (refused : Option Err) => ?_
    cases refused with
    | some err => rfl
    | none => exact (spares _).step trivial fun _ => rfl

theorem trigger_notes :
    Follows chronicle (fun result phase => phase = .settled
        (if header.type = .trigger then [.message header.rmtDelivered result.1] else []))
      (trigger header) (.settled []) := by
  unfold trigger
  refine .ite (fun other => congrArg Phase.settled (if_neg other).symm) fun typed => ?_
  simp only [if_pos (not_not.mp typed)]
  refine requireReady_passes (.step nofun fun verdict _ => (spares _).step trivial fun _ => ?_)
  refine (spares _).step trivial fun (refused : Option Err) => ?_
  cases refused with
  | some err => rfl
  | none =>
    refine (spares _).step trivial fun (failed : Option Err) => ?_
    cases failed with
    | some err => rfl
    | none => exact (spares _).step trivial fun _ => rfl

theorem statusQuery_notes :
    Follows chronicle (fun _ phase => phase = .settled
        (if header.type = .asyncStatusQuery then [.statusQuery header.rmtDelivered] else []))
      (statusQuery header) (.settled []) := by
  unfold statusQuery
  refine .ite (fun other => congrArg Phase.settled (if_neg other).symm) fun typed => ?_
  rw [if_pos (not_not.mp typed)]
  refine requireReady_passes (.step nofun fun _ _ => (spares _).step trivial fun (read : Except Err UInt8) => ?_)
  cases read with
  | error err => rfl
  | ok device => exact (spares _).step trivial fun _ => (spares _).step trivial fun _ =>
      Follows.ite (fun _ => rfl) fun _ => rfl

theorem completeDeviceClear_notes (config : Config) (header : Header) :
    Follows chronicle (fun _ phase => phase = .settled
        (if header.type = .deviceClearComplete then [.cleared] else []))
      (completeDeviceClear config header) (.settled []) := by
  unfold completeDeviceClear
  refine .ite (fun other => congrArg Phase.settled (if_neg other).symm) fun typed => ?_
  rw [if_pos (not_not.mp typed)]
  exact .step nofun fun _ _ => (spares _).step trivial fun _ => (spares _).step trivial fun _ => rfl

end Phases

section Calls

inductive Call where
  | receiveData (header : Header) (payload : Bytes)
  | trigger (header : Header)
  | statusQuery (header : Header)
  | sendResponse (ctx : Ctx) (response : Response) (fuel : Nat)
  | completeDeviceClear (header : Header)

/-- What a call returns, as far as the history is concerned. -/
inductive Result where
  | verdict (interrupted : Interrupted)
  | response (result : ResponseOutcome × Option Err)
  | other

def Call.program (config : Config) : Call → Act Result
  | .receiveData header payload => do return .verdict (← Server.receiveData header payload).1
  | .trigger header => do return .verdict (← Server.trigger header).1
  | .statusQuery header => do
    let _ ← Server.statusQuery header
    return .other
  | .sendResponse ctx response fuel => do return .response (← Server.sendResponse ctx response fuel)
  | .completeDeviceClear header => do
    let _ ← Server.completeDeviceClear config header
    return .other

def Call.entry : Call → Result → List Entry
  | .receiveData header _, .verdict verdict =>
    if header.type = .data ∨ header.type = .dataEnd then [.message header.rmtDelivered verdict] else []
  | .trigger header, .verdict verdict => if header.type = .trigger then [.message header.rmtDelivered verdict] else []
  | .statusQuery header, _ => if header.type = .asyncStatusQuery then [.statusQuery header.rmtDelivered] else []
  | .completeDeviceClear header, _ => if header.type = .deviceClearComplete then [.cleared] else []
  | _, _ => []

def ended : Event → Option Entry
  | ⟨.send _ header _, reply⟩ => if header.type = .dataEnd ∧ reply = some none then some .dataEnd else none
  | _ => none

def dataEnds (events : List Event) : List Entry := events.filterMap ended

structure Record (σ δ : Type) where
  world : World σ δ
  history : List Entry := []

def Record.step (policy : ResponsePolicy σ) (environment : Environment δ) (config : Config) (record : Record σ δ)
    (call : Call) : Option (Record σ δ) :=
  match exec (handler policy environment) (call.program config) record.world with
  | (some result, after) =>
    some ⟨after, record.history ++ call.entry result ++ dataEnds (after.trace.drop record.world.trace.length)⟩
  | (none, _) => none

end Calls

section Standing
variable {policy : ResponsePolicy σ} {environment : Environment δ} {history : List Entry} {base : List Event}
  {world after : World σ δ} {phase : Phase}

def Phase.entries : Phase → List Entry
  | .settled entries => entries
  | .wrote entries => entries

/-- The tracker, once the expectation is raised that is still to be raised. -/
def Phase.tracked : Phase → RMT → RMT
  | .settled _, rmt => rmt
  | .wrote _, _ => ⟨true⟩

def Paired (session : Session σ) : Prop := session.state = .ready ∨ session.state = .clearing

/-- Where a call stands that began with this history and this trace. -/
structure Stands (history : List Entry) (base : List Event) (phase : Phase) (world : World σ δ) : Prop where
  paired : Paired world.session
  trace : ∃ events, world.trace = base ++ events ∧ dataEnds events = phase.entries.filter (· = .dataEnd)
  agrees : Agrees (history ++ phase.entries) (phase.tracked world.session.rmt)

theorem Stands.session (stands : Stands history base phase world) {session : Session σ} (paired : Paired session)
    (rmt : session.rmt = world.session.rmt) : Stands history base phase (world.setSession session) where
  paired := paired
  trace := stands.trace
  agrees := by
    rw [World.session_setSession, rmt]
    exact stands.agrees

theorem Stands.enter {entries : List Entry} (stands : Stands history base (.settled entries) world)
    {session : Session σ} (paired : Paired session) {entry : Entry}
    (agrees : Agrees (history ++ entries ++ [entry]) session.rmt) (other : entry ≠ .dataEnd) :
    Stands history base (.settled (entries ++ [entry])) (world.setSession session) where
  paired := paired
  trace := by
    obtain ⟨events, traced, ends⟩ := stands.trace
    refine ⟨events, traced, ends.trans ?_⟩
    simp [Phase.entries, other]
  agrees := by
    rw [List.append_assoc] at agrees
    exact agrees

theorem Stands.call {entries : List Entry} (stands : Stands history base (.settled entries) world) (op : EnvironmentOp)
    (nothing : dataEnds [⟨op, (environment op world.environment).1⟩] = []) :
    Stands history base (.settled entries) (world.call environment op) where
  paired := stands.paired
  trace := by
    obtain ⟨events, traced, ends⟩ := stands.trace
    refine ⟨events ++ [⟨op, (environment op world.environment).1⟩], ?_, ?_⟩
    · rw [World.trace_call, traced, List.append_assoc]
    · rw [dataEnds, List.filterMap_append]
      exact (congrArg (_ ++ ·) nothing).trans ((List.append_nil _).trans ends)
  agrees := stands.agrees

theorem Stands.write {entries : List Entry} (stands : Stands history base (.settled entries) world) (op : EnvironmentOp)
    (one : dataEnds [⟨op, (environment op world.environment).1⟩] = [.dataEnd]) :
    Stands history base (.wrote (entries ++ [.dataEnd])) (world.call environment op) where
  paired := stands.paired
  trace := by
    obtain ⟨events, traced, ends⟩ := stands.trace
    refine ⟨events ++ [⟨op, (environment op world.environment).1⟩], ?_, ?_⟩
    · rw [World.trace_call, traced, List.append_assoc]
    · rw [dataEnds, List.filterMap_append]
      refine (congrArg₂ (· ++ ·) ends one).trans ?_
      simp [Phase.entries]
  agrees := by
    have agrees := stands.agrees.dataEnd
    rw [List.append_assoc] at agrees
    exact agrees

theorem Stands.session_op {entries : List Entry} (stands : Stands history base (.settled entries) world)
    (op : SessionOp) (allowed : (Phase.settled entries).allowed (.shared (.session op))) :
    chronicle.possible (.settled entries) (.shared (.session op)) (op.apply policy world.session).1 ∧
      Stands history base ((Phase.settled entries).advance (.shared (.session op)) (op.apply policy world.session).1)
        (world.setSession (op.apply policy world.session).2) := by
  have paired := stands.paired
  have agrees := stands.agrees
  cases op with
  | state => exact ⟨paired, stands.session paired rfl⟩
  | rmt op =>
    cases op with
    | sentDataEnd => exact absurd allowed id
    | receivedSyncMessage delivered =>
      refine ⟨trivial, stands.enter ?_ (agrees.message delivered) nofun⟩
      exact paired
    | receivedStatusQuery delivered =>
      refine ⟨trivial, stands.enter ?_ (agrees.statusQuery delivered) nofun⟩
      exact paired
  | completeClear overlap =>
    refine ⟨trivial, stands.enter ?_ agrees.cleared nofun⟩
    rcases paired with ready | clearing
    · exact .inl (by simp only [SessionOp.apply, Session.completeClear, ready]; rfl)
    · exact .inl (by simp only [SessionOp.apply, Session.completeClear, clearing]; rfl)
  | beginClear =>
    refine ⟨trivial, stands.session ?_ ?_⟩
    · simp only [SessionOp.apply, Session.beginClear]
      split
      · exact .inr rfl
      · exact paired
    · simp only [SessionOp.apply, Session.beginClear]
      split <;> rfl
  | disposition =>
    refine ⟨trivial, stands.session ?_ ?_⟩
    · simp only [SessionOp.apply]
      split <;> exact paired
    · simp only [SessionOp.apply]
      split <;> rfl
  | setSyncWriter writer | setAsyncWriter writer | setSyncPending | attachAsync stream | close =>
    exact absurd rfl allowed
  | _ => exact ⟨trivial, stands.session paired rfl⟩

theorem Stands.environment_op {entries : List Entry} (stands : Stands history base (.settled entries) world)
    {op : EnvironmentOp} {reply : op.Reply} (answered : (environment op world.environment).1 = some reply) :
    Stands history base ((Phase.settled entries).advance (.environment op) reply) (world.call environment op) := by
  cases op with
  | send channel header payload =>
    by_cases ends : header.type = .dataEnd ∧ reply = none
    · have taken : (Phase.settled entries).advance (.environment (.send channel header payload)) reply =
          .wrote (entries ++ [.dataEnd]) := if_pos ends
      rw [taken]
      refine stands.write _ ?_
      rw [answered, ends.2]
      simp only [dataEnds, List.filterMap_cons, ended, ends.1, and_self, if_true, List.filterMap_nil]
    · have passed : (Phase.settled entries).advance (.environment (.send channel header payload)) reply =
          .settled entries := if_neg ends
      rw [passed]
      refine stands.call _ ?_
      rw [answered]
      simp only [dataEnds, List.filterMap_cons, ended, Option.some_inj, if_neg ends, List.filterMap_nil]
  | _ => exact stands.call _ rfl

theorem Stands.moves {op : Op} {reply : op.Reply} (stands : Stands history base phase world)
    (allowed : chronicle.allowed phase op) (handled : handler policy environment op world = (some reply, after)) :
    chronicle.possible phase op reply ∧ Stands history base (chronicle.advance phase op reply) after := by
  cases phase with
  | wrote entries =>
    obtain rfl : op = .shared (.session (.rmt .sentDataEnd)) := allowed
    cases handled
    exact ⟨trivial, stands.paired, stands.trace, stands.agrees⟩
  | settled entries =>
    cases op with
    | environment op =>
      obtain ⟨answered, rfl⟩ := Prod.mk.inj handled
      refine ⟨?_, stands.environment_op answered⟩
      trivial
    | shared op =>
      cases op with
      | session op =>
        cases handled
        exact stands.session_op op allowed
      | _ =>
        cases handled
        exact ⟨trivial, stands.paired, stands.trace, stands.agrees⟩

end Standing

section Runs
variable {policy : ResponsePolicy σ} {environment : Environment δ} {config : Config} {record after : Record σ δ}
  {call : Call} {result : Result}

structure Noted (call : Call) (result : Result) (phase : Phase) : Prop where
  entries : ∃ ends : List Entry, (∀ entry ∈ ends, entry = .dataEnd) ∧ phase = .settled (call.entry result ++ ends)
  response : ∀ response, result = .response response → call.entry result = [] ∧ Counts response phase

theorem Noted.entry {phase : Phase} (same : phase = .settled (call.entry result))
    (other : ∀ response, result ≠ .response response) : Noted call result phase :=
  ⟨⟨[], fun _ => nofun, by rw [same, List.append_nil]⟩, fun response same => absurd same (other response)⟩

theorem program_notes (config : Config) (call : Call) :
    Follows chronicle (Noted call) (call.program config) (.settled []) := by
  cases call with
  | receiveData header payload =>
    exact Follows.bind (receiveData_notes header payload) fun _ _ same => Noted.entry same fun _ => nofun
  | trigger header => exact Follows.bind (trigger_notes header) fun _ _ same => Noted.entry same fun _ => nofun
  | statusQuery header => exact Follows.bind (statusQuery_notes header) fun _ _ same => Noted.entry same fun _ => nofun
  | completeDeviceClear header =>
    exact Follows.bind (completeDeviceClear_notes config header) fun _ _ same => Noted.entry same fun _ => nofun
  | sendResponse ctx response fuel =>
    refine Follows.bind (sendResponse_notes ctx response fuel) fun result phase counts => ⟨counts.settled, ?_⟩
    intro response same
    cases same
    exact ⟨rfl, counts⟩

theorem entry_filter (call : Call) (result : Result) : (call.entry result).filter (· = .dataEnd) = [] := by
  unfold Call.entry
  split
  all_goals first | rfl | (split <;> rfl)

theorem call_notes (paired : Paired record.world.session) (agrees : Agrees record.history record.world.session.rmt)
    {world : World σ δ}
    (ran : exec (handler policy environment) (call.program config) record.world = (some result, world)) :
    ∃ phase, Noted call result phase ∧ Stands record.history record.world.trace phase world ∧
      phase = .settled (call.entry result ++ dataEnds (world.trace.drop record.world.trace.length)) := by
  have standing : Stands record.history record.world.trace (.settled []) record.world :=
    ⟨paired, ⟨[], (List.append_nil _).symm, rfl⟩, by rw [Phase.entries, List.append_nil]; exact agrees⟩
  have outcome := (program_notes config call).exec (Stands record.history record.world.trace) standing
    fun _ op state reply later stands allowed (handled : handler policy environment op state = (some reply, later)) =>
      stands.moves allowed handled
  rcases outcome with ⟨value, final, phase, returned, stands, noted⟩ | ⟨_, _, _, _, blocked, -⟩
  · cases ran.symm.trans returned
    obtain ⟨ends, only, rfl⟩ := noted.entries
    obtain ⟨events, traced, same⟩ := stands.trace
    refine ⟨_, noted, stands, ?_⟩
    have all : ends.filter (· = .dataEnd) = ends :=
      List.filter_eq_self.mpr fun entry member => decide_eq_true (only entry member)
    rw [traced, List.drop_left, same, Phase.entries, List.filter_append, entry_filter, all, List.nil_append]
  · cases ran.symm.trans blocked

theorem Record.step_agrees (paired : Paired record.world.session)
    (agrees : Agrees record.history record.world.session.rmt)
    (moved : record.step policy environment config call = some after) :
    Paired after.world.session ∧ Agrees after.history after.world.session.rmt := by
  unfold Record.step at moved
  split at moved
  next result world ran =>
    cases moved
    obtain ⟨phase, -, stands, same⟩ := call_notes paired agrees ran
    subst same
    refine ⟨stands.paired, ?_⟩
    rw [List.append_assoc]
    exact stands.agrees
  next => cases moved

/-- An interrupted response counts as no DataEnd, and any other one that succeeds as one. -/
def Tallies (policy : ResponsePolicy σ) (environment : Environment δ) (config : Config) (record : Record σ δ)
    (call : Call) : Prop :=
  ∀ outcome err world,
    exec (handler policy environment) (call.program config) record.world = (some (.response (outcome, err)), world) →
    (outcome = .interrupted → dataEnds (world.trace.drop record.world.trace.length) = []) ∧
      (err = none → outcome ≠ .interrupted → dataEnds (world.trace.drop record.world.trace.length) = [.dataEnd])

theorem tallies (paired : Paired record.world.session) (agrees : Agrees record.history record.world.session.rmt) :
    Tallies policy environment config record call := by
  intro outcome err world ran
  obtain ⟨phase, noted, -, same⟩ := call_notes paired agrees ran
  obtain ⟨none_else, counts⟩ := noted.response _ rfl
  rw [none_else, List.nil_append] at same
  subst same
  constructor
  · rintro rfl
    exact Phase.settled.inj counts
  · rintro rfl other
    unfold Counts at counts
    rw [if_neg other] at counts
    rcases counts with one | ⟨failed, -⟩
    · exact Phase.settled.inj one
    · exact absurd rfl failed

/-- Whatever the client sends and the device returns, in any order of the calls: a message is
judged a mismatch exactly when its flag does not tell whether a DataEnd is unread, and no
unread response gives more than one mismatch. -/
theorem verdicts_follow_history (policy : ResponsePolicy σ) (environment : Environment δ) (config : Config)
    (calls : List Call) (world : World σ δ) (paired : Paired world.session)
    (fresh : world.session.rmt.expected = false) :
    Always (Record.step policy environment config) (fun record => Judged record.history ∧ Once record.history) calls
        { world } ∧
      Throughout (Record.step policy environment config) (Tallies policy environment config) calls { world } := by
  have agrees : Agrees [] world.session.rmt := by
    have start : world.session.rmt = {} := congrArg RMT.mk fresh
    rw [start]
    exact agrees_nil
  have preserved : ∀ (record : Record σ δ) call after,
      Paired record.world.session ∧ Agrees record.history record.world.session.rmt →
      record.step policy environment config call = some after →
      Paired after.world.session ∧ Agrees after.history after.world.session.rmt :=
    fun _ _ _ holds moved => Record.step_agrees holds.1 holds.2 moved
  constructor
  · exact always_of_preserved (fun _ holds => ⟨holds.2.judged, holds.2.once⟩) preserved ⟨paired, agrees⟩
  · exact throughout_of_preserved preserved (fun _ _ holds => tallies holds.1 holds.2) ⟨paired, agrees⟩

/-- A query is answered, the client does not own up to the response in its next message, and
after that it is in step again. -/
def unreadAnswer : List Call :=
  [.receiveData { type := .dataEnd, parameter := 7 } [],
    .sendResponse .server ⟨some ⟨.synchronous⟩, some ⟨.asynchronous⟩, 7, 16, some .never⟩ 1,
    .receiveData { type := .data, parameter := 9 } [], .receiveData { type := .dataEnd, parameter := 11 } []]

theorem verdicts_on_unread_answer :
    Always (Record.step alwaysReadPolicy scripted {}) (fun record => Judged record.history ∧ Once record.history)
        unreadAnswer { world := SyncRuns.freshlyPaired alwaysReadPolicy [⟨[65], true, none⟩] } ∧
      Throughout (Record.step alwaysReadPolicy scripted {}) (Tallies alwaysReadPolicy scripted {}) unreadAnswer
        { world := SyncRuns.freshlyPaired alwaysReadPolicy [⟨[65], true, none⟩] } :=
  verdicts_follow_history alwaysReadPolicy scripted {} unreadAnswer
    (SyncRuns.freshlyPaired alwaysReadPolicy [⟨[65], true, none⟩]) (.inl rfl) rfl

example : (finish (Record.step alwaysReadPolicy scripted {}) unreadAnswer
      { world := SyncRuns.freshlyPaired alwaysReadPolicy [⟨[65], true, none⟩] }).map (·.history) =
    some [.message false .notInterrupted, .dataEnd, .message false .rmtMismatch, .message false .notInterrupted] := by
  decide

end Runs

end Hislip.Proofs.Verdicts
