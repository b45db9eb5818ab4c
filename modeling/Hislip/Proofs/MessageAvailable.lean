import Hislip.Transition
import Hislip.Proofs.AbandonedCalls
import Hislip.Proofs.MessageIDs
import Hislip.Proofs.StatusPhases

/-! What a status query reports of the response that the synchronous loop is sending. The
pending flag is raised before the device is read and lowered after the DataEnd, so the
bit is set a little longer than there is something to read. -/

namespace Hislip.Proofs.MessageAvailable
open Hislip.Server Act Transition Program StatusPhases

/-- What the server has of the response to the message that it took last. -/
structure Output where
  message : Option MessageID := none
  obtained : Bool := false
  ended : Bool := false
  deriving DecidableEq, Repr

def yields (result : ReadResult) : Bool := result.data.length ≠ 0 || result.last

def dataEnds : Op → Bool
  | .environment (.send _ header _) => header.type = .dataEnd
  | _ => false

def Output.after (output : Output) : (op : Op) → op.Reply → Output
  | .environment (.read _ _), result => { output with obtained := output.obtained || yields result }
  | .environment (.send channel header payload), failed =>
    { output with ended := output.ended || (dataEnds (.environment (.send channel header payload)) && failed.isNone) }
  | _, _ => output

/-- How the pending flag stands to the response: it is down, it is up and nothing has been
obtained yet, it is up in between, it is up although the DataEnd is written. -/
inductive Window where
  | closed | opening | flowing | closing
  deriving DecidableEq, Repr

def Window.after : Window → (op : Op) → op.Reply → Window
  | _, .shared (.session (.setResponsePending pending)), _ => if pending then .opening else .closed
  | .opening, .environment (.read _ _), result => if yields result then .flowing else .opening
  | .opening, .environment (.send channel header payload), failed =>
    if dataEnds (.environment (.send channel header payload)) && failed.isNone then .closing else .opening
  | .flowing, .environment (.send channel header payload), failed =>
    if dataEnds (.environment (.send channel header payload)) && failed.isNone then .closing else .flowing
  | window, _, _ => window

/-- A status query in progress: the message it names, its RMT-delivered flag, the device's
status byte, and what there was of the response when its own byte was computed. It is
overtaken when the synchronous loop ends the response or takes another message after that. -/
structure Poll where
  query : MessageID := 0
  delivered : Bool := false
  device : UInt8 := 0
  found : Output := {}
  window : Window := .closed
  overtaken : Bool := false
  deriving DecidableEq, Repr

def Poll.after (poll : Poll) (output : Output) (window : Window) : (op : Op) → op.Reply → Poll
  | .environment (.readStatusByte _), .ok device => { poll with device }
  | .shared (.session (.statusByte _ _ delivered)), _ =>
    { poll with delivered, found := output, window, overtaken := false }
  | _, _ => poll

/-- An AsyncStatusResponse, with what there was of the response when it was sent. -/
structure Answer extends Poll where
  control : UInt8
  output : Output
  deriving DecidableEq, Repr

namespace Answer

def mav (answer : Answer) : Bool := answer.control &&& statusMAV ≠ 0

def Passes (answer : Answer) : Prop :=
  answer.control &&& ~~~(statusMAV ||| statusRQS) = answer.device &&& ~~~(statusMAV ||| statusRQS)

end Answer

/-- Something of the response to the message has been obtained, and its DataEnd has not
been written. -/
def Output.Holds (output : Output) (id : MessageID) : Prop :=
  output.message = some id ∧ output.obtained = true ∧ output.ended = false

namespace Answer

/-- The bit is set only for a response that was held when the byte was computed, and that
is still held when it is sent unless the synchronous loop has overtaken it. -/
def Available (answer : Answer) : Prop :=
  answer.mav = true → answer.found.Holds answer.query ∧ (answer.overtaken = false → answer.output.Holds answer.query)

/-- A query that names the message being answered, with RMT-delivered clear, comes neither
between the raising of the flag and the first byte or end mark of the response nor between
its DataEnd and the lowering of the flag. -/
def Timely (answer : Answer) : Prop :=
  answer.found.message = some answer.query → answer.delivered = false → answer.window ≠ .opening ∧ answer.window ≠ .closing

instance (answer : Answer) : Decidable answer.Timely := inferInstanceAs (Decidable (_ → _))

end Answer

/-- The two loops of a session, one operation at a time, and the status responses sent. -/
structure Inquiry (σ : Type) where
  shared : Shared σ
  sync : Act (Option Err) := .pure none
  async : Act (Option Err) := .pure none
  window : Window := .closed
  output : Output := {}
  poll : Poll := {}
  answers : List Answer := []

/-- A loop takes its next message, or performs its next operation, with what the
environment replies. -/
inductive Move where
  | takeSync (message : Message) (fuel : Nat)
  | takeAsync (message : Message) (fuel : Nat)
  | sync (replies : (op : EnvironmentOp) → Option op.Reply)
  | async (replies : (op : EnvironmentOp) → Option op.Reply)

def sends (poll : Poll) (output : Output) : Op → List Answer
  | .environment (.send _ header _) =>
    if header.type = .asyncStatusResponse then [{ toPoll := poll, control := header.control, output }] else []
  | _ => []

variable {σ : Type}

def respond (policy : ResponsePolicy σ) (shared : Shared σ) (replies : (op : EnvironmentOp) → Option op.Reply) :
    (op : Op) → Option (op.Reply × Shared σ)
  | .shared op => some (op.apply policy shared)
  | .environment op => (replies op).map (·, shared)

namespace Inquiry

def syncOp (inquiry : Inquiry σ) (op : Op) (next : op.Reply → Act (Option Err)) (result : op.Reply × Shared σ) :
    Inquiry σ :=
  { inquiry with
    shared := result.2
    sync := next result.1
    window := inquiry.window.after op result.1
    output := inquiry.output.after op result.1
    poll := { inquiry.poll with overtaken := inquiry.poll.overtaken || dataEnds op } }

def asyncOp (inquiry : Inquiry σ) (op : Op) (next : op.Reply → Act (Option Err)) (result : op.Reply × Shared σ) :
    Inquiry σ :=
  { inquiry with
    shared := result.2
    async := next result.1
    window := inquiry.window.after op result.1
    poll := inquiry.poll.after inquiry.output inquiry.window op result.1
    answers := inquiry.answers ++ sends inquiry.poll inquiry.output op }

/-- A loop takes a message once it is done with the one before without an error. -/
def step (policy : ResponsePolicy σ) (config : Config) (inquiry : Inquiry σ) : Move → Option (Inquiry σ)
  | .takeSync message fuel =>
    match inquiry.sync with
    | .pure none =>
      some { inquiry with
        sync := handleSync config message fuel
        output := { message := some message.header.messageID }
        poll := { inquiry.poll with overtaken := true } }
    | _ => none
  | .takeAsync message fuel =>
    match inquiry.async with
    | .pure none =>
      some { inquiry with async := handleAsync config message fuel, poll := { query := message.header.messageID } }
    | _ => none
  | .sync replies =>
    match inquiry.sync with
    | .pure _ => none
    | .request op next => (respond policy inquiry.shared replies op).map (inquiry.syncOp op next)
  | .async replies =>
    match inquiry.async with
    | .pure _ => none
    | .request op next => (respond policy inquiry.shared replies op).map (inquiry.asyncOp op next)

end Inquiry

section Invariant
variable {policy : ResponsePolicy σ} {id : MessageID} {phase : Phase} {status : Status} {window : Window}
  {output : Output} {op : SharedOp} {query : MessageID}

def touches : SharedOp → Bool
  | .session (.receivedSyncMessage _) | .session (.setResponsePending _) | .session (.completeClear _) => true
  | _ => false

structure Status.Agrees (after status : Status) : Prop where
  last : after.lastReceivedID = status.lastReceivedID
  pending : after.responsePending = status.responsePending
  started : after.started = status.started

theorem apply_agrees (policy : ResponsePolicy σ) (other : touches op = false) (shared : Shared σ) :
    Status.Agrees (op.apply policy shared).2.session.status shared.session.status := by
  cases op with
  | locks op | withCancel | cancel operation | count counter => exact ⟨rfl, rfl, rfl⟩
  | session op =>
    cases op with
    | receivedSyncMessage received | setResponsePending pending | completeClear overlap => cases other
    | disposition =>
      simp only [SharedOp.apply, SessionOp.apply]
      cases shared.session.policy <;> exact ⟨rfl, rfl, rfl⟩
    | latchServiceRequest byte =>
      simp only [SharedOp.apply, SessionOp.apply, Status.latchServiceRequest]
      split <;> exact ⟨rfl, rfl, rfl⟩
    | attachAsync stream =>
      simp only [SharedOp.apply, SessionOp.apply, Session.attachAsync]
      repeat' split
      all_goals exact ⟨rfl, rfl, rfl⟩
    | beginClear =>
      simp only [SharedOp.apply, SessionOp.apply, Session.beginClear]
      split <;> exact ⟨rfl, rfl, rfl⟩
    | _ => exact ⟨rfl, rfl, rfl⟩

theorem window_untouched (other : touches op = false) (reply : op.Reply) :
    window.after (.shared op) reply = window := by
  cases op with
  | locks op | withCancel | cancel operation | count counter => cases window <;> rfl
  | session op =>
    cases op with
    | setResponsePending pending => cases other
    | _ => cases window <;> rfl

theorem raising_untouched (other : touches op = false) (reply : op.Reply) :
    (raising id).advance phase (.shared op) reply = phase := by
  cases op with
  | session op => cases op <;> first | rfl | cases other
  | _ => rfl

def Window.Fits : Window → Output → Prop
  | .closed, _ => True
  | .opening, output => output.obtained = false ∧ output.ended = false
  | .flowing, output => output.obtained = true ∧ output.ended = false
  | .closing, output => output.ended = true

theorem Window.Fits.after (fits : window.Fits output) (op : EnvironmentOp) (reply : op.Reply) :
    (window.after (.environment op) reply).Fits (output.after (.environment op) reply) := by
  cases window with
  | closed => cases op <;> trivial
  | opening =>
    cases op with
    | read ctx size =>
      simp only [Window.after, Output.after, fits.1, Bool.false_or]
      split
      next yielded => exact ⟨yielded, fits.2⟩
      next nothing => exact ⟨Bool.eq_false_iff.mpr nothing, fits.2⟩
    | send channel header payload =>
      simp only [Window.after, Output.after, fits.2, Bool.false_or]
      split
      next written => exact written
      next unwritten => exact ⟨fits.1, Bool.eq_false_iff.mpr unwritten⟩
    | _ => exact fits
  | flowing =>
    cases op with
    | read ctx size => exact ⟨Bool.or_eq_true_iff.mpr (.inl fits.1), fits.2⟩
    | send channel header payload =>
      simp only [Window.after, Output.after, fits.2, Bool.false_or]
      split
      next written => exact written
      next unwritten => exact ⟨fits.1, Bool.eq_false_iff.mpr unwritten⟩
    | _ => exact fits
  | closing =>
    cases op with
    | send channel header payload => exact Bool.or_eq_true_iff.mpr (.inl fits)
    | _ => exact fits

/-- While the flag is up, something is held just between the two ends. -/
theorem Window.Fits.holds_iff (fits : window.Fits output) (raised : window ≠ .closed)
    (named : output.message = some id) : output.Holds id ↔ window = .flowing := by
  cases window with
  | closed => exact absurd rfl raised
  | opening =>
    refine iff_of_false (fun holds => ?_) (by decide)
    cases fits.1.symm.trans holds.2.1
  | flowing => exact iff_of_true ⟨named, fits⟩ rfl
  | closing =>
    refine iff_of_false (fun holds => ?_) (by decide)
    cases fits.symm.trans holds.2.2

theorem Window.after_closed (window : Window) (op : EnvironmentOp) (reply : op.Reply) :
    window.after (.environment op) reply = .closed ↔ window = .closed := by
  cases window with
  | closed | closing => cases op <;> simp [Window.after]
  | opening =>
    cases op with
    | read ctx size | send channel header payload =>
      simp only [Window.after]
      split <;> simp
    | _ => simp [Window.after]
  | flowing =>
    cases op with
    | send channel header payload =>
      simp only [Window.after]
      split <;> simp
    | _ => simp [Window.after]

theorem received_last (status : Status) (received : MessageID) :
    (status.receivedSyncMessage received).lastReceivedID = received := by
  unfold Status.receivedSyncMessage
  split
  next started => exact if_pos started
  next => exact if_pos rfl

theorem received_started (status : Status) (received : MessageID) :
    (status.receivedSyncMessage received).started = true := by
  unfold Status.receivedSyncMessage
  split
  next started => exact started
  next => rfl

theorem received_pending {status : Status} {received : MessageID}
    (raised : (status.receivedSyncMessage received).responsePending = true) : status.responsePending = true := by
  unfold Status.receivedSyncMessage at raised
  split at raised
  next => exact raised
  next => cases raised

/-- The synchronous loop has come to the phase with the message: outside of the response
the flag is down, and inside it the status names the message that is answered. -/
structure Synced (id : MessageID) (phase : Phase) (status : Status) (window : Window) (output : Output) : Prop where
  message : phase ≠ .answered → output.message = some id
  last : phase = .noted ∨ phase = .answering → status.lastReceivedID = id
  started : phase = .noted ∨ phase = .answering → status.started = true
  pending : status.responsePending = true ↔ window ≠ .closed
  during : window ≠ .closed → phase = .answering
  fits : window.Fits output
  early : phase.late = false → output.obtained = false ∧ output.ended = false

theorem Synced.untouched {after : Status} (synced : Synced id phase status window output)
    (agrees : Status.Agrees after status) : Synced id phase after window output where
  message := synced.message
  last := fun begun => agrees.last.trans (synced.last begun)
  started := fun begun => agrees.started.trans (synced.started begun)
  pending := by
    rw [agrees.pending]
    exact synced.pending
  during := synced.during
  fits := synced.fits
  early := synced.early

theorem Synced.idle (synced : Synced id phase status window output) (down : phase ≠ .answering) : window = .closed := by
  by_contra raised
  exact down (synced.during raised)

theorem Synced.shared {shared : Shared σ} (synced : Synced id phase shared.session.status window output)
    (allowed : (raising id).allowed phase (.shared op)) :
    Synced id ((raising id).advance phase (.shared op) (op.apply policy shared).1)
      (op.apply policy shared).2.session.status (window.after (.shared op) (op.apply policy shared).1) output := by
  cases touched : touches op with
  | false =>
    rw [window_untouched touched, raising_untouched touched]
    exact synced.untouched (apply_agrees policy touched shared)
  | true =>
    cases op with
    | session op =>
      cases op with
      | receivedSyncMessage received =>
        obtain ⟨rfl, rfl⟩ := allowed
        obtain rfl := synced.idle (by decide)
        refine ⟨fun _ => synced.message (by decide), fun _ => received_last _ _, fun _ => received_started _ _,
          ⟨fun raised => synced.pending.mp (received_pending raised), fun other => absurd rfl other⟩,
          fun other => absurd rfl other, trivial, fun _ => synced.early rfl⟩
      | setResponsePending pending =>
        cases pending with
        | true =>
          obtain rfl : phase = .noted := allowed
          exact ⟨fun _ => synced.message (by decide), fun _ => synced.last (.inl rfl), fun _ => synced.started (.inl rfl),
            iff_of_true rfl Window.noConfusion, fun _ => rfl, synced.early rfl, nofun⟩
        | false =>
          exact ⟨fun other => absurd rfl other, nofun, nofun, iff_of_false Bool.noConfusion fun other => other rfl,
            fun other => absurd rfl other, trivial, nofun⟩
      | completeClear overlap =>
        obtain rfl : phase = .fresh := allowed
        obtain rfl := synced.idle (by decide)
        exact ⟨synced.message, nofun, nofun, iff_of_false Bool.noConfusion fun other => other rfl, synced.during, trivial,
          synced.early⟩
      | _ => cases touched
    | _ => cases touched

theorem output_early {op : EnvironmentOp} (allowed : (raising id).allowed phase (.environment op))
    (early : phase.late = false) (reply : op.Reply) : output.after (.environment op) reply = output := by
  cases op with
  | read ctx size => exact absurd allowed (Bool.eq_false_iff.mp early)
  | send channel header payload =>
    have other : dataEnds (.environment (.send channel header payload)) = false :=
      decide_eq_false fun same => Bool.eq_false_iff.mp early (allowed same)
    simp only [Output.after, other, Bool.false_and, Bool.or_false]
  | _ => rfl

theorem output_message (op : EnvironmentOp) (reply : op.Reply) :
    (output.after (.environment op) reply).message = output.message := by
  cases op <;> rfl

theorem Synced.called {op : EnvironmentOp} (synced : Synced id phase status window output)
    (allowed : (raising id).allowed phase (.environment op)) (reply : op.Reply) :
    Synced id ((raising id).advance phase (.environment op) reply) status (window.after (.environment op) reply)
      (output.after (.environment op) reply) where
  message := fun current => (output_message op reply).trans (synced.message current)
  last := synced.last
  started := synced.started
  pending := synced.pending.trans (window.after_closed op reply).not.symm
  during := fun raised => synced.during ((window.after_closed op reply).not.mp raised)
  fits := synced.fits.after op reply
  early := by
    intro early
    rw [output_early allowed early]
    exact synced.early early

/-- Of what is about the flag, the asynchronous loop can only lower it. -/
theorem Synced.asyncShared {report : Report} {shared : Shared σ}
    (synced : Synced id phase shared.session.status window output)
    (allowed : (reporting query).allowed report (.shared op)) :
    Synced id phase (op.apply policy shared).2.session.status
      (window.after (.shared op) (op.apply policy shared).1) output := by
  cases touched : touches op with
  | false =>
    rw [window_untouched touched]
    exact synced.untouched (apply_agrees policy touched shared)
  | true =>
    cases op with
    | session op =>
      cases op with
      | setResponsePending pending =>
        obtain rfl : pending = false := allowed
        exact ⟨synced.message, synced.last, synced.started, iff_of_false Bool.noConfusion fun other => other rfl,
          fun other => absurd rfl other, trivial, synced.early⟩
      | receivedSyncMessage received | completeClear overlap => exact False.elim allowed
      | _ => cases touched
    | _ => cases touched

theorem window_async {report : Report} {op : EnvironmentOp}
    (allowed : (reporting query).allowed report (.environment op)) (reply : op.Reply) :
    window.after (.environment op) reply = window := by
  cases op with
  | read ctx size => exact False.elim allowed
  | send channel header payload =>
    have other : dataEnds (.environment (.send channel header payload)) = false := decide_eq_false allowed.1
    cases window <;> simp [Window.after, other]
  | _ => cases window <;> rfl

/-- What a computed byte says of the device and of the response there was. -/
structure Justified (poll : Poll) (byte : UInt8) : Prop where
  passes : byte &&& ~~~(statusMAV ||| statusRQS) = poll.device &&& ~~~(statusMAV ||| statusRQS)
  mav : byte &&& statusMAV ≠ 0 ↔
    poll.window ≠ .closed ∧ poll.found.message = some poll.query ∧ poll.delivered = false
  fits : poll.window.Fits poll.found

/-- Unless the query was overtaken, there is as much of the response as it found. -/
def Lasts (poll : Poll) (output : Output) : Prop :=
  poll.overtaken = false → output.message = poll.found.message ∧
    (poll.found.obtained = true → output.obtained = true) ∧ (poll.found.ended = false → output.ended = false)

structure Told (report : Report) (poll : Poll) (output : Output) : Prop where
  device : ∀ device, report.device = some device → poll.device = device
  byte : ∀ byte, report.byte = some byte → Justified poll byte
  lasts : report.byte ≠ none → Lasts poll output

variable {report : Report} {poll : Poll}

private theorem or_masked (value bits others : UInt8) :
    (value ||| bits) &&& ~~~(bits ||| others) = value &&& ~~~(bits ||| others) := by
  apply UInt8.toBitVec_inj.mp
  simp only [UInt8.toBitVec_and, UInt8.toBitVec_or, UInt8.toBitVec_not]
  ext i
  grind

private theorem and_masked (value bits others : UInt8) :
    (value &&& ~~~bits) &&& ~~~(bits ||| others) = value &&& ~~~(bits ||| others) := by
  apply UInt8.toBitVec_inj.mp
  simp only [UInt8.toBitVec_and, UInt8.toBitVec_or, UInt8.toBitVec_not]
  ext i
  grind

theorem byte_passes (status : Status) (device : UInt8) (query : MessageID) (rmtDelivered : Bool) :
    status.byte device query rmtDelivered &&& ~~~(statusMAV ||| statusRQS) =
      device &&& ~~~(statusMAV ||| statusRQS) := by
  unfold Status.byte
  split
  next => exact or_masked device statusMAV statusRQS
  next => exact and_masked device statusMAV statusRQS

theorem rqs_passes (byte : UInt8) :
    (byte ||| statusRQS) &&& ~~~(statusMAV ||| statusRQS) = byte &&& ~~~(statusMAV ||| statusRQS) := by
  rw [UInt8.or_comm statusMAV]
  exact or_masked byte statusRQS statusMAV

theorem rqs_mav (byte : UInt8) : (byte ||| statusRQS) &&& statusMAV = byte &&& statusMAV := by
  have apart : statusMAV.toBitVec &&& statusRQS.toBitVec = 0#8 := by decide
  apply UInt8.toBitVec_inj.mp
  simp only [UInt8.toBitVec_and, UInt8.toBitVec_or]
  rw [BitVec.and_comm, BitVec.and_or_distrib_left, apart, BitVec.or_zero, BitVec.and_comm]

theorem byte_mav {status : Status} {device : UInt8} {rmtDelivered : Bool} :
    status.byte device query rmtDelivered &&& statusMAV ≠ 0 ↔ status.mav query rmtDelivered = true := by
  refine ⟨MessageIDs.mav_of_byte, fun available => ?_⟩
  have kept : (device ||| statusMAV) &&& statusMAV = statusMAV := by
    apply UInt8.toBitVec_inj.mp
    simp only [UInt8.toBitVec_and, UInt8.toBitVec_or]
    ext i
    grind
  rw [Status.byte, if_pos available, kept]
  decide

theorem mav_iff {status : Status} {rmtDelivered : Bool} :
    status.mav query rmtDelivered = true ↔ query = status.lastReceivedID ∧ rmtDelivered = false ∧ status.started = true ∧
      status.responsePending = true := by
  unfold Status.mav
  cases rmtDelivered <;> simp

theorem Synced.justified {shared : Shared σ} (synced : Synced id phase shared.session.status window output)
    (device : UInt8) (rmtDelivered : Bool) (same : poll.device = device) :
    Justified { poll with delivered := rmtDelivered, found := output, window, overtaken := false }
      (shared.session.status.byte device poll.query rmtDelivered) where
  passes := by
    rw [byte_passes, same]
  mav := by
    rw [byte_mav, mav_iff, synced.pending]
    -- While the flag is up the message that was taken last is the one being answered.
    have answering : window ≠ .closed → shared.session.status.lastReceivedID = id ∧
        shared.session.status.started = true ∧ output.message = some id := fun raised =>
      have during := synced.during raised
      ⟨synced.last (.inr during), synced.started (.inr during), synced.message (by rw [during]; decide)⟩
    constructor
    · rintro ⟨named, clear, -, raised⟩
      obtain ⟨last, -, message⟩ := answering raised
      exact ⟨raised, message.trans (congrArg some (named.trans last).symm), clear⟩
    · rintro ⟨raised, named, clear⟩
      obtain ⟨last, started, message⟩ := answering raised
      exact ⟨(Option.some.inj (message.symm.trans named)).symm.trans last.symm, clear, started, raised⟩
  fits := synced.fits

theorem Told.start (poll : Poll) (output : Output) : Told {} poll output :=
    ⟨fun _ => nofun, fun _ => nofun, fun other => absurd rfl other⟩

theorem Told.called (told : Told report poll output) {op : EnvironmentOp} (reply : op.Reply) :
    Told ((reporting query).advance report (.environment op) reply) (poll.after output window (.environment op) reply)
      output := by
  cases op with
  | readStatusByte ctx =>
    cases reply with
    | error err => exact told
    | ok device => exact ⟨fun _ same => Option.some.inj same, fun _ => nofun, fun other => absurd rfl other⟩
  | _ => exact told

theorem Told.shared (told : Told report poll output) {shared : Shared σ}
    (synced : Synced id phase shared.session.status window output)
    (allowed : (reporting poll.query).allowed report (.shared op)) :
    Told ((reporting poll.query).advance report (.shared op) (op.apply policy shared).1)
      (poll.after output window (.shared op) (op.apply policy shared).1) output := by
  cases op with
  | session op =>
    cases op with
    | statusByte device query rmtDelivered =>
      obtain ⟨polled, rfl⟩ := allowed
      refine ⟨told.device, fun _ same => ?_, fun _ _ => ⟨rfl, fun held => held, fun held => held⟩⟩
      cases same
      exact synced.justified device rmtDelivered (told.device device polled)
    | _ => exact told
  | _ => exact told

theorem Told.outlives {after : Output} {overtakes : Bool} (told : Told report poll output)
    (longer : overtakes = false → after.message = output.message ∧ (output.obtained = true → after.obtained = true) ∧
      (output.ended = false → after.ended = false)) :
    Told report { poll with overtaken := poll.overtaken || overtakes } after := by
  refine ⟨told.device, fun byte same => ?_, fun computed inTime => ?_⟩
  · obtain ⟨passes, mav, fits⟩ := told.byte byte same
    exact ⟨passes, mav, fits⟩
  · obtain ⟨before, calm⟩ := Bool.or_eq_false_iff.mp inTime
    obtain ⟨message, obtained, ended⟩ := told.lasts computed before
    obtain ⟨message', obtained', ended'⟩ := longer calm
    exact ⟨message'.trans message, fun held => obtained' (obtained held), fun held => ended' (ended held)⟩

structure Answer.Sound (answer : Answer) : Prop where
  passes : answer.Passes
  mav : answer.mav = true ↔
    answer.window ≠ .closed ∧ answer.found.message = some answer.query ∧ answer.delivered = false
  fits : answer.window.Fits answer.found
  lasts : answer.overtaken = false → answer.found.Holds answer.query → answer.output.Holds answer.query

theorem Told.answered (told : Told report poll output) {byte control : UInt8} (computed : report.byte = some byte)
    (sent : control = byte ∨ control = byte ||| statusRQS) : Answer.Sound { toPoll := poll, control, output } := by
  obtain ⟨passes, mav, fits⟩ := told.byte byte computed
  have masked : control &&& ~~~(statusMAV ||| statusRQS) = byte &&& ~~~(statusMAV ||| statusRQS) := by
    obtain rfl | rfl := sent
    · rfl
    · exact rqs_passes byte
  have shown : control &&& statusMAV = byte &&& statusMAV := by
    obtain rfl | rfl := sent
    · rfl
    · exact rqs_mav byte
  refine ⟨masked.trans passes, ?_, fits, fun inTime held => ?_⟩
  · rw [Answer.mav, decide_eq_true_iff, shown]
    exact mav
  · obtain ⟨message, obtained, ended⟩ := told.lasts (by rw [computed]; exact Option.some_ne_none _) inTime
    exact ⟨message.trans held.1, obtained held.2.1, ended held.2.2⟩

end Invariant

section Runs
variable {policy : ResponsePolicy σ} {config : Config} {inquiry after : Inquiry σ}

structure Stands (inquiry : Inquiry σ) : Prop where
  sync : ∃ id phase, Follows (raising id) lowered inquiry.sync phase ∧
    Synced id phase inquiry.shared.session.status inquiry.window inquiry.output
  async : ∃ report, Follows (reporting inquiry.poll.query) (fun _ _ => True) inquiry.async report ∧
    Told report inquiry.poll inquiry.output
  answers : ∀ answer ∈ inquiry.answers, answer.Sound

theorem stands_initially {shared : Shared σ} (down : shared.session.status.responsePending = false) :
    Stands { shared } where
  sync := by
    refine ⟨0, .answered, Phase.noConfusion, fun other => absurd rfl other, ?_, ?_, ?_, fun other => absurd rfl other,
      trivial, ?_⟩
    · rintro (begun | begun) <;> cases begun
    · rintro (begun | begun) <;> cases begun
    · rw [down]
      exact iff_of_false Bool.noConfusion fun other => other rfl
    · intro early
      cases early
  async := ⟨{}, trivial, Told.start _ _⟩
  answers := fun _ => nofun

theorem Stands.takeSync (stands : Stands inquiry) (rests : inquiry.sync = .pure none) (message : Message) (fuel : Nat) :
    Stands { inquiry with
      sync := handleSync config message fuel
      output := { message := some message.header.messageID }
      poll := { inquiry.poll with overtaken := true } } := by
  obtain ⟨⟨id, phase, follows, synced⟩, ⟨report, reports, told⟩, answers⟩ := stands
  rw [rests] at follows
  have idle : inquiry.window = .closed := synced.idle follows
  refine ⟨⟨_, .fresh, handleSync_lowers config message fuel, fun _ => rfl, ?_, ?_, synced.pending, ?_, ?_,
    fun _ => ⟨rfl, rfl⟩⟩, ⟨report, reports, ?_⟩, answers⟩
  · rintro (begun | begun) <;> cases begun
  · rintro (begun | begun) <;> cases begun
  · exact fun raised => absurd idle raised
  · rw [idle]
    trivial
  · have lost : Told report { inquiry.poll with overtaken := inquiry.poll.overtaken || true }
        { message := some message.header.messageID } := told.outlives fun other => by cases other
    rwa [Bool.or_true] at lost

theorem Stands.takeAsync (stands : Stands inquiry) (message : Message) (fuel : Nat) :
    Stands { inquiry with async := handleAsync config message fuel, poll := { query := message.header.messageID } } :=
  ⟨stands.sync, ⟨{}, handleAsync_reports config message fuel, Told.start _ _⟩, stands.answers⟩

theorem output_lasts {output : Output} {op : Op} (reply : op.Reply) (other : dataEnds op = false) :
    (output.after op reply).message = output.message ∧
    (output.obtained = true → (output.after op reply).obtained = true) ∧
      (output.ended = false → (output.after op reply).ended = false) := by
  cases op with
  | shared op => exact ⟨rfl, fun held => held, fun held => held⟩
  | environment op =>
    cases op with
    | read ctx size => exact ⟨rfl, fun held => Bool.or_eq_true_iff.mpr (.inl held), fun held => held⟩
    | send channel header payload =>
      refine ⟨rfl, fun held => held, fun held => ?_⟩
      simp only [Output.after, other, held, Bool.false_and, Bool.or_false]
    | _ => exact ⟨rfl, fun held => held, fun held => held⟩

theorem Stands.syncOp {op : Op} {next : op.Reply → Act (Option Err)} {result : op.Reply × Shared σ}
    {replies : (op : EnvironmentOp) → Option op.Reply} (stands : Stands inquiry)
    (running : inquiry.sync = .request op next)
    (responded : respond policy inquiry.shared replies op = some result) : Stands (inquiry.syncOp op next result) := by
  obtain ⟨⟨id, phase, follows, synced⟩, ⟨report, reports, told⟩, answers⟩ := stands
  rw [running] at follows
  have lasts : Told report { inquiry.poll with overtaken := inquiry.poll.overtaken || dataEnds op }
      (inquiry.output.after op result.1) := told.outlives (output_lasts result.1)
  refine ⟨⟨id, _, follows.2 result.1 trivial, ?_⟩, ⟨report, reports, lasts⟩, answers⟩
  cases op with
  | shared op =>
    cases responded
    exact synced.shared follows.1
  | environment op =>
    obtain ⟨reply, -, rfl⟩ := Option.map_eq_some_iff.mp responded
    exact synced.called follows.1 reply

theorem poll_query (poll : Poll) (output : Output) (window : Window) (op : Op) (reply : op.Reply) :
    (poll.after output window op reply).query = poll.query := by
  unfold Poll.after
  split <;> rfl

theorem sends_sound {report : Report} {poll : Poll} {output : Output} {query : MessageID} {op : Op}
    (told : Told report poll output) (allowed : (reporting query).allowed report op) :
    ∀ answer ∈ sends poll output op, answer.Sound := by
  intro answer member
  unfold sends at member
  split at member
  next channel header payload =>
    split at member
    next typed =>
      obtain rfl := List.mem_singleton.mp member
      obtain ⟨byte, computed, sent⟩ := allowed.2 typed
      exact told.answered computed sent
    next => cases member
  next => cases member

theorem Stands.asyncOp {op : Op} {next : op.Reply → Act (Option Err)} {result : op.Reply × Shared σ}
    {replies : (op : EnvironmentOp) → Option op.Reply} (stands : Stands inquiry)
    (running : inquiry.async = .request op next)
    (responded : respond policy inquiry.shared replies op = some result) : Stands (inquiry.asyncOp op next result) := by
  obtain ⟨⟨id, phase, follows, synced⟩, ⟨report, reports, told⟩, answers⟩ := stands
  rw [running] at reports
  have resume := reports.2 result.1 trivial
  have moved : Synced id phase result.2.session.status (inquiry.window.after op result.1) inquiry.output ∧
      Told ((reporting inquiry.poll.query).advance report op result.1)
        (inquiry.poll.after inquiry.output inquiry.window op result.1) inquiry.output := by
    cases op with
    | shared op =>
      cases responded
      exact ⟨synced.asyncShared reports.1, told.shared synced reports.1⟩
    | environment op =>
      obtain ⟨reply, -, rfl⟩ := Option.map_eq_some_iff.mp responded
      rw [window_async reports.1]
      exact ⟨synced, told.called reply⟩
  refine ⟨⟨id, phase, follows, moved.1⟩, ⟨_, ?_, moved.2⟩, fun answer member => ?_⟩
  · rw [← poll_query inquiry.poll inquiry.output inquiry.window op result.1] at resume
    exact resume
  · obtain before | sent := List.mem_append.mp member
    · exact answers answer before
    · exact sends_sound told reports.1 answer sent

theorem Stands.step {move : Move} (stands : Stands inquiry) (moved : inquiry.step policy config move = some after) :
    Stands after := by
  cases move with
  | takeSync message fuel =>
    simp only [Inquiry.step] at moved
    split at moved
    next rests =>
      cases moved
      exact stands.takeSync rests message fuel
    next => cases moved
  | takeAsync message fuel =>
    simp only [Inquiry.step] at moved
    split at moved
    next =>
      cases moved
      exact stands.takeAsync message fuel
    next => cases moved
  | sync replies =>
    simp only [Inquiry.step] at moved
    split at moved
    next => cases moved
    next op next running =>
      obtain ⟨result, responded, rfl⟩ := Option.map_eq_some_iff.mp moved
      exact stands.syncOp running responded
  | async replies =>
    simp only [Inquiry.step] at moved
    split at moved
    next => cases moved
    next op next running =>
      obtain ⟨result, responded, rfl⟩ := Option.map_eq_some_iff.mp moved
      exact stands.asyncOp running responded

theorem Answer.Sound.available_iff {answer : Answer} (sound : answer.Sound) : answer.Available ↔ answer.Timely := by
  constructor
  · intro available named clear
    by_cases raised : answer.window = .closed
    · rw [raised]
      exact ⟨Window.noConfusion, Window.noConfusion⟩
    · have held := (available (sound.mav.mpr ⟨raised, named, clear⟩)).1
      rw [(sound.fits.holds_iff raised named).mp held]
      exact ⟨Window.noConfusion, Window.noConfusion⟩
  · intro timely reported
    obtain ⟨raised, named, clear⟩ := sound.mav.mp reported
    have flowing : answer.window = .flowing := by
      obtain ⟨later, earlier⟩ := timely named clear
      cases window : answer.window with
      | closed => exact absurd window raised
      | opening => exact absurd window later
      | flowing => rfl
      | closing => exact absurd window earlier
    have held := (sound.fits.holds_iff raised named).mpr flowing
    exact ⟨held, fun inTime => sound.lasts inTime held⟩

/-- In every run the status responses pass on the device's other bits. They report MAV
only for a response that is held just as long as no query that names the message being
answered comes before the first byte or end mark of the response or after its DataEnd. -/
theorem mav_held_iff_timely (policy : ResponsePolicy σ) (config : Config) (shared : Shared σ)
    (down : shared.session.status.responsePending = false) (moves : List Move) :
    Always (Inquiry.step policy config) (fun inquiry => ∀ answer ∈ inquiry.answers, answer.Passes) moves { shared } ∧
      (Always (Inquiry.step policy config) (fun inquiry => ∀ answer ∈ inquiry.answers, answer.Available) moves { shared } ↔
        Always (Inquiry.step policy config) (fun inquiry => ∀ answer ∈ inquiry.answers, answer.Timely) moves
          { shared }) := by
  refine ⟨?_, ?_⟩
  · exact always_of_preserved (fun _ stands answer member => (stands.answers answer member).passes)
      (fun _ _ _ stands moved => stands.step moved) (stands_initially down)
  · exact always_congr (fun _ stands => forall₂_congr fun answer member => (stands.answers answer member).available_iff)
      (fun _ _ _ stands moved => stands.step moved) (stands_initially down)

end Runs

/-- A query, and after some steps of its handling a status query that names it and is
answered. -/
def interposed (steps : Nat) : List Move :=
  .takeSync { header := { type := .dataEnd, parameter := MessageID.initialMessageID } } 2 ::
    List.replicate steps (.sync AbandonedCalls.obligingly) ++
    .takeAsync { header := { type := .asyncStatusQuery, parameter := MessageID.initialMessageID } } 0 ::
      List.replicate 11 (.async AbandonedCalls.obligingly)

/-- A status query between the read and the DataEnd. -/
theorem mav_held_between :
    AbandonedCalls.between.session.status.responsePending = false ∧
      ∃ inquiry answer, finish (Inquiry.step alwaysReadPolicy Profile.standard.toConfig) (interposed 20)
          { shared := AbandonedCalls.between } = some inquiry ∧
        inquiry.answers = [answer] ∧ answer.mav = true ∧ answer.Available ∧ answer.Passes := by
  have both := mav_held_iff_timely alwaysReadPolicy Profile.standard.toConfig AbandonedCalls.between rfl (interposed 20)
  have available := both.2.mpr (by decide +kernel)
  refine ⟨rfl, _, _, rfl, rfl, by decide +kernel, ?_, ?_⟩
  · exact available.finish rfl _ (List.mem_singleton_self _)
  · exact both.1.finish rfl _ (List.mem_singleton_self _)

/-- The bit is set before the device was read, and once more after the DataEnd. -/
theorem mav_without_output :
    (∃ inquiry answer, finish (Inquiry.step alwaysReadPolicy Profile.standard.toConfig) (interposed 18)
        { shared := AbandonedCalls.between } = some inquiry ∧
      inquiry.answers = [answer] ∧ answer.mav = true ∧ answer.query = MessageID.initialMessageID ∧
      answer.found.obtained = false ∧ answer.output.obtained = false ∧ ¬ answer.Available) ∧
    ∃ inquiry answer, finish (Inquiry.step alwaysReadPolicy Profile.standard.toConfig) (interposed 24)
        { shared := AbandonedCalls.between } = some inquiry ∧
      inquiry.answers = [answer] ∧ answer.mav = true ∧ answer.query = MessageID.initialMessageID ∧
      answer.found.ended = true ∧ answer.output.ended = true ∧ ¬ answer.Available := by
  refine ⟨⟨_, _, rfl, rfl, by decide +kernel, rfl, rfl, rfl, fun available => ?_⟩,
    _, _, rfl, rfl, by decide +kernel, rfl, rfl, rfl, fun available => ?_⟩
  · cases (available (by decide +kernel)).1.2.1
  · cases (available (by decide +kernel)).1.2.2

end Hislip.Proofs.MessageAvailable
