import Mathlib.Data.List.Chain
import Hislip.Transition
import Hislip.Server.Execution
import Hislip.Proofs.Notes

/-! Service requests and the status queries that clear them. The latch stands between an
announcement and the next query that is answered, unless a Device Clear is completed in
the meantime. -/

namespace Hislip.Proofs.ServiceRequests
open Hislip.Server Transition Program Footprint Notes

variable {σ δ : Type}

inductive Operation where
  | receiveData (header : Header) (payload : Bytes)
  | sendResponse (ctx : Ctx) (response : Response) (fuel : Nat)
  | beginDeviceClear
  | completeDeviceClear (header : Header)

def Operation.program (config : Config) : Operation → Act Unit
  | .receiveData header payload => Server.receiveData header payload >>= fun _ => Pure.pure ()
  | .sendResponse ctx response fuel => Server.sendResponse ctx response fuel >>= fun _ => Pure.pure ()
  | .beginDeviceClear => Server.beginDeviceClear config >>= fun _ => Pure.pure ()
  | .completeDeviceClear header => Server.completeDeviceClear config header >>= fun _ => Pure.pure ()

/-- What the client is told: AsyncServiceRequest, and the status byte of an
AsyncStatusResponse. -/
inductive Notice where
  | announced
  | answered (byte : UInt8)
  deriving DecidableEq, Repr

/-- A session with the operations in progress, and what the client was told so far. -/
structure Desk (σ δ : Type) where
  world : World σ δ
  running : List (Act Unit) := []
  notices : List Notice := []

inductive Move where
  | serviceRequest (status : UInt8)
  | statusQuery (header : Header)
  | start (operation : Operation)
  | advance (index : Nat)

def announcement : Option (Option Header) → List Notice
  | some (some _) => [.announced]
  | _ => []

def answer : Option (Except Err Header) → List Notice
  | some (.ok header) => [.answered header.control]
  | _ => []

/-- Service requests and status queries are handled at one go; the other operations go on
one step at a time, in any order. -/
def Desk.step (policy : ResponsePolicy σ) (environment : Environment δ) (config : Config) (desk : Desk σ δ) :
    Move → Option (Desk σ δ)
  | .serviceRequest status =>
    let (reply, world) := exec (handler policy environment) (Server.serviceRequest status) desk.world
    some { desk with world, notices := desk.notices ++ announcement reply }
  | .statusQuery header =>
    let (reply, world) := exec (handler policy environment) (Server.statusQuery header) desk.world
    some { desk with world, notices := desk.notices ++ answer reply }
  | .start operation => some { desk with running := desk.running ++ [operation.program config] }
  | .advance index =>
    match desk.running[index]? with
    | some (.request op next) =>
      match handler policy environment op desk.world with
      | (some reply, world) => some { desk with world, running := desk.running.set index (next reply) }
      | (none, _) => none
    | _ => none

/-- An announcement is followed by an answer that has RQS set. -/
def Settles : Notice → Notice → Prop
  | .announced, .answered byte => byte ||| statusRQS = byte
  | .announced, .announced => False
  | .answered _, _ => True

/-- Every service request is announced once, and the next answer shows it. -/
def Desk.Settled (desk : Desk σ δ) : Prop := desk.notices.IsChain Settles

def Desk.latched (desk : Desk σ δ) : Bool := desk.world.session.status.srqLatched

def completesClear : Op → Bool
  | .shared (.session (.completeClear _)) => true
  | _ => false

/-- No Device Clear is completed while a service request waits for its query. -/
def Desk.Undisturbed (desk : Desk σ δ) : Move → Prop
  | .advance index => ∀ program ∈ desk.running[index]?, ∀ op ∈ program.head, completesClear op = true →
    desk.latched = false
  | _ => True

section Operations
variable {policy : ResponsePolicy σ} {environment : Environment δ} {world : World σ δ}

def otherNotes : List Note := [.received, .lastTx, .pending]

theorem program_leaves (config : Config) (operation : Operation) : Leaves otherNotes (operation.program config) := by
  cases operation with
  | receiveData header payload => exact ((receiveData_leaves header payload).widen (by decide)).bind fun _ => trivial
  | sendResponse ctx response fuel => exact ((sendResponse_leaves ctx response fuel).widen (by decide)).bind fun _ => trivial
  | beginDeviceClear => exact ((beginDeviceClear_leaves config).widen (by decide)).bind fun _ => trivial
  | completeDeviceClear header =>
    exact (Within.leaves (completeDeviceClear_within config header) (by decide)).bind fun _ => trivial

theorem apply_latch {op : SessionOp} {session : Session σ} (started : session.status.started = true)
    (plain : ∀ found, note (.shared (.session op)) = some found → found ∈ otherNotes)
    (calm : completesClear (.shared (.session op)) = true → session.status.srqLatched = false) :
    (op.apply policy session).2.status.started = true ∧
      (op.apply policy session).2.status.srqLatched = session.status.srqLatched := by
  cases op with
  | takeServiceRequest | latchServiceRequest byte => exact absurd (plain _ rfl) (by decide)
  | receivedSyncMessage id =>
    simp only [SessionOp.apply, Status.receivedSyncMessage, started, if_true, and_self]
  | completeClear overlap => exact ⟨rfl, (calm rfl).symm⟩
  | disposition =>
    simp only [SessionOp.apply]
    split <;> exact ⟨started, rfl⟩
  | attachAsync stream =>
    simp only [SessionOp.apply, Session.attachAsync]
    split
    · exact ⟨started, rfl⟩
    · split <;> exact ⟨started, rfl⟩
  | beginClear =>
    simp only [SessionOp.apply, Session.beginClear]
    split <;> exact ⟨started, rfl⟩
  | _ => exact ⟨started, rfl⟩

theorem serviceRequest_latches (status : UInt8) (started : world.session.status.started = true) :
    ∃ reply after, exec (handler policy environment) (serviceRequest status) world = (some reply, after) ∧
      after.session.status.started = true ∧
      (announcement (some reply) = [] ∧ after.session.status.srqLatched = world.session.status.srqLatched ∨
        announcement (some reply) = [.announced] ∧ world.session.status.srqLatched = false ∧
          after.session.status.srqLatched = true) := by
  simp only [serviceRequest, exec_bind, exec_state, andThen_some]
  by_cases ready : world.session.state = .ready
  · simp only [ready, ne_eq, not_true_eq_false, if_false, exec_bind, exec_latchServiceRequest, andThen_some,
      Status.latchServiceRequest]
    cases latched : world.session.status.srqLatched with
    | true => exact ⟨none, _, rfl, started, .inl ⟨rfl, latched⟩⟩
    | false => exact ⟨_, _, rfl, started, .inr ⟨rfl, rfl, rfl⟩⟩
  · simp only [ne_eq, ready, not_false_eq_true, if_true]
    exact ⟨none, world, rfl, started, .inl ⟨rfl, rfl⟩⟩

theorem requireReady_returns (world : World σ δ) :
    ∃ refused, exec (handler policy environment) requireReady world = (some refused, world) := by
  simp only [requireReady, exec_bind, exec_state, andThen_some]
  cases world.session.state <;> exact ⟨_, rfl⟩

theorem statusQuery_takes (header : Header) (started : world.session.status.started = true) :
    ∃ reply after, exec (handler policy environment) (statusQuery header) world = (reply, after) ∧
      after.session.status.started = true ∧
      (answer reply = [] ∧ after.session.status.srqLatched = world.session.status.srqLatched ∨
        ∃ byte, answer reply = [.answered byte] ∧
          (world.session.status.srqLatched = true → byte ||| statusRQS = byte)) := by
  unfold statusQuery
  split
  next => exact ⟨_, world, rfl, started, .inl ⟨rfl, rfl⟩⟩
  next =>
    obtain ⟨refused, ready⟩ : ∃ refused, exec (handler policy environment) requireReady world = (some refused, world) :=
      requireReady_returns world
    simp only [exec_bind, ready, andThen_some]
    cases refused with
    | some err => exact ⟨_, world, rfl, started, .inl ⟨rfl, rfl⟩⟩
    | none =>
      simp only [exec_bind, exec_rmt, andThen_some, exec_readStatusByte]
      cases polled : (environment (.readStatusByte .server) world.environment).1 with
      | none =>
        simp only [World.environment_setSession, polled, andThen_none]
        exact ⟨none, _, rfl, started, .inl ⟨rfl, rfl⟩⟩
      | some read =>
        simp only [World.environment_setSession, polled, andThen_some]
        cases read with
        | error err => exact ⟨_, _, rfl, started, .inl ⟨rfl, rfl⟩⟩
        | ok device =>
          simp only [exec_bind, exec_statusByte, exec_takeServiceRequest, andThen_some]
          split
          next =>
            refine ⟨_, _, rfl, started, .inr ⟨_, rfl, fun _ => ?_⟩⟩
            rw [UInt8.or_assoc, UInt8.or_self]
          next unlatched => exact ⟨_, _, rfl, started, .inr ⟨_, rfl, fun held => absurd held unlatched⟩⟩

end Operations

/-- What holds in every state: the last announcement is still latched. -/
structure Sound (desk : Desk σ δ) : Prop where
  started : desk.world.session.status.started = true
  settled : desk.Settled
  waiting : desk.notices.getLast? = some .announced → desk.latched = true
  plain : ∀ program ∈ desk.running, Leaves otherNotes program

section Steps
variable {policy : ResponsePolicy σ} {environment : Environment δ} {config : Config} {desk after : Desk σ δ}

theorem settled_concat {notices : List Notice} {notice : Notice} (chain : notices.IsChain Settles)
    (settles : notices.getLast? = some .announced → Settles .announced notice) :
    (notices ++ [notice]).IsChain Settles := by
  refine List.isChain_append.mpr ⟨chain, List.isChain_singleton _, fun last found next same => ?_⟩
  cases same
  cases last with
  | announced => exact settles found
  | answered byte => trivial

theorem Sound.serviceRequest (sound : Sound desk) {status : UInt8}
    (moved : desk.step policy environment config (.serviceRequest status) = some after) : Sound after := by
  obtain ⟨reply, world, run, started, outcome⟩ : ∃ reply after, exec (handler policy environment)
    (Server.serviceRequest status) desk.world = (some reply, after) ∧ _ := serviceRequest_latches status sound.started
  simp only [Desk.step, run, Option.some.injEq] at moved
  subst moved
  rcases outcome with ⟨silent, same⟩ | ⟨told, unlatched, latched⟩
  · rw [silent, List.append_nil]
    exact ⟨started, sound.settled, fun last => same.trans (sound.waiting last), sound.plain⟩
  · rw [told]
    refine ⟨started, settled_concat sound.settled fun last => ?_, fun _ => latched, sound.plain⟩
    exact absurd (unlatched.symm.trans (sound.waiting last)) Bool.false_ne_true

theorem Sound.statusQuery (sound : Sound desk) {header : Header}
    (moved : desk.step policy environment config (.statusQuery header) = some after) : Sound after := by
  obtain ⟨reply, world, run, started, outcome⟩ : ∃ reply after, exec (handler policy environment)
    (Server.statusQuery header) desk.world = (reply, after) ∧ _ := statusQuery_takes header sound.started
  simp only [Desk.step, run, Option.some.injEq] at moved
  subst moved
  rcases outcome with ⟨silent, same⟩ | ⟨byte, told, shows⟩
  · rw [silent, List.append_nil]
    exact ⟨started, sound.settled, fun last => same.trans (sound.waiting last), sound.plain⟩
  · rw [told]
    refine ⟨started, settled_concat sound.settled fun last => shows (sound.waiting last), fun last => ?_, sound.plain⟩
    rw [List.getLast?_concat] at last
    cases last

theorem Sound.advance (sound : Sound desk) {index : Nat} (undisturbed : desk.Undisturbed (.advance index))
    (moved : desk.step policy environment config (.advance index) = some after) : Sound after := by
  simp only [Desk.step] at moved
  split at moved
  next op next found =>
    split at moved
    next reply world handled =>
      cases moved
      have leaves := sound.plain _ (List.mem_of_getElem? found)
      have kept : world.session.status.started = true ∧
          world.session.status.srqLatched = desk.world.session.status.srqLatched := by
        cases op with
        | environment op =>
          obtain rfl := congrArg Prod.snd handled
          exact ⟨sound.started, rfl⟩
        | shared op =>
          cases op with
          | session op =>
            cases handled
            exact apply_latch sound.started leaves.1 fun completes => undisturbed _ found _ rfl completes
          | _ => cases handled; exact ⟨sound.started, rfl⟩
      refine ⟨kept.1, sound.settled, fun last => kept.2.trans (sound.waiting last), fun program member => ?_⟩
      rcases List.mem_or_eq_of_mem_set member with before | rfl
      · exact sound.plain program before
      · exact leaves.2 reply trivial
    next => cases moved
  next => cases moved

end Steps

/-- In every run in which no Device Clear is completed while a service request is
outstanding, every service request is announced once and shown by the next answer. -/
theorem announced_once (policy : ResponsePolicy σ) (environment : Environment δ) (config : Config) (world : World σ δ)
    (started : world.session.status.started = true) (moves : List Move)
    (undisturbed : Throughout (Desk.step policy environment config) Desk.Undisturbed moves { world }) :
    Always (Desk.step policy environment config) Desk.Settled moves { world } := by
  refine always_of_invariant (fun _ sound => Sound.settled sound) (fun desk move after sound calm moved => ?_)
    ⟨started, List.isChain_nil, nofun, nofun⟩ undisturbed
  cases move with
  | serviceRequest status => exact sound.serviceRequest moved
  | statusQuery header => exact sound.statusQuery moved
  | start operation =>
    cases moved
    refine ⟨sound.started, sound.settled, sound.waiting, fun program member => ?_⟩
    rcases List.mem_append.mp member with before | last
    · exact sound.plain program before
    · rw [List.mem_singleton.mp last]
      exact program_leaves config operation
  | advance index => exact sound.advance calm moved

def quiet : Desk Unit (List ReadResult) where
  world :=
    { shared := { session := .paired .standard alwaysReadPolicy 1 .version10 Version.version10_current 0 1 }
      environment := [] }

/-- Two events, a query and a third event. -/
theorem announced_once_coalesced :
    Always (Desk.step alwaysReadPolicy scripted Profile.standard.toConfig) Desk.Settled
      [.serviceRequest 65, .serviceRequest 65, .statusQuery { type := .asyncStatusQuery }, .serviceRequest 66] quiet :=
  announced_once alwaysReadPolicy scripted Profile.standard.toConfig quiet.world rfl _
    fun _ _ => ⟨trivial, fun _ _ => ⟨trivial, fun _ _ => ⟨trivial, fun _ _ => ⟨trivial, trivial⟩⟩⟩⟩

theorem not_settled {desk : Desk σ δ} {notice : Notice} (told : desk.notices = [.announced, notice])
    (unsettled : ¬ Settles .announced notice) : ¬ desk.Settled := by
  rw [Desk.Settled, told, List.isChain_pair]
  exact unsettled

def requestAndClear : List Move :=
  [.serviceRequest 65, .start .beginDeviceClear, .advance 0, .advance 0, .advance 0, .advance 0, .advance 0,
    .start (.completeDeviceClear { type := .deviceClearComplete }), .advance 1, .advance 1, .advance 1]

/-- After the Device Clear the next query does not show the request, and the next event
is announced although no query came in between. -/
theorem clear_loses_request :
    (∃ desk, finish (Desk.step alwaysReadPolicy scripted Profile.standard.toConfig)
        (requestAndClear ++ [.statusQuery { type := .asyncStatusQuery }]) quiet = some desk ∧
      desk.notices = [.announced, .answered 0] ∧ ¬ desk.Settled) ∧
    ∃ desk, finish (Desk.step alwaysReadPolicy scripted Profile.standard.toConfig)
        (requestAndClear ++ [.serviceRequest 66]) quiet = some desk ∧
      desk.notices = [.announced, .announced] ∧ ¬ desk.Settled := by
  have unshown : ¬ Settles .announced (.answered 0) := show (0 : UInt8) ||| statusRQS ≠ 0 by decide
  exact ⟨⟨_, rfl, rfl, not_settled rfl unshown⟩, ⟨_, rfl, rfl, not_settled rfl id⟩⟩

end Hislip.Proofs.ServiceRequests
