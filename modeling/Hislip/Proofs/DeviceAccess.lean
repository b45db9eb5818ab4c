import Hislip.Server.Execution
import Hislip.Proofs.Footprint

/-! In which states of a session the device is called on its behalf. Accepting a
message asks for a paired session unless the message is one of the lifecycle, and one
of those goes on to the device. -/

namespace Hislip.Proofs.DeviceAccess
open Hislip.Server Act Program Footprint

def touches : Op → Bool
  | .environment (.write _ _ _) | .environment (.read _ _) | .environment (.clear _) => true
  | .environment (.trigger _) | .environment (.readStatusByte _) | .environment (.remoteLocal _ _) => true
  | _ => false

/-- A message on a channel of the session, or what the server does to the session
between two messages. -/
inductive Arrival where
  | sync (message : Message)
  | async (message : Message)
  | elsewhere (op : SessionOp)

namespace Arrival

def program (config : Config) (fuel : Nat) : Arrival → Act (Option Err)
  | .sync message => handleSync config message fuel
  | .async message => handleAsync config message fuel
  | .elsewhere op => session op >>= fun _ => return none

def channel : Arrival → Channel
  | .sync _ => .synchronous
  | .async _ => .asynchronous
  | .elsewhere _ => .none

end Arrival

variable {σ δ : Type}

def calledIn (config : Config) (policy : ResponsePolicy σ) (environment : Environment δ) (fuel : Nat)
    (arrival : Arrival) (world : World σ δ) : List State :=
  sightings (handler policy environment) touches (·.session.state) (arrival.program config fuel) world

/-- The arrivals that are handled, each with the world it finds. A loop that has ended,
or whose handler never returns, takes no further message. -/
def handled (config : Config) (policy : ResponsePolicy σ) (environment : Environment δ) (fuel : Nat) :
    List Arrival → List Channel → World σ δ → List (Arrival × World σ δ)
  | [], _, _ => []
  | arrival :: rest, ended, world =>
    if arrival.channel ∈ ended then handled config policy environment fuel rest ended world
    else
      (arrival, world) ::
        match exec (handler policy environment) (arrival.program config fuel) world with
        | (some none, after) => handled config policy environment fuel rest ended after
        | (_, after) => handled config policy environment fuel rest (arrival.channel :: ended) after

/-- The device is called in a paired session only, and not at all by a message that
finds the session unpaired. -/
def Respects (config : Config) (policy : ResponsePolicy σ) (environment : Environment δ) (fuel : Nat)
    (arrival : Arrival) (world : World σ δ) : Prop :=
  (∀ state ∈ calledIn config policy environment fuel arrival world, state = .ready ∨ state = .clearing) ∧
    (world.session.state = .pairing ∨ world.session.state = .closed →
      calledIn config policy environment fuel arrival world = [])

/-- The completion of a Device Clear that an unpaired session accepts. -/
def ClearsUnpaired (arrival : Arrival) (world : World σ δ) : Prop :=
  (world.session.state = .pairing ∨ world.session.state = .closed) ∧
    ∃ message, arrival = .sync message ∧ message.err = none ∧ message.header.type = .deviceClearComplete ∧
      checkLength message.header.length world.session.maxRx = none

section Paired
variable {policy : ResponsePolicy σ} {environment : Environment δ}

theorem apply_paired {op : SessionOp} (other : lifecycle (.shared (.session op)) = false) {session : Session σ}
    (paired : session.state = .ready ∨ session.state = .clearing) :
    (op.apply policy session).2.state = .ready ∨ (op.apply policy session).2.state = .clearing := by
  cases op with
  | setSyncWriter _ | setAsyncWriter _ | setSyncPending | attachAsync _ | close => cases other
  | beginClear =>
    simp only [SessionOp.apply, Session.beginClear]
    split
    next => exact .inr rfl
    next => exact paired
  | completeClear overlap =>
    simp only [SessionOp.apply, Session.completeClear]
    split
    next => exact .inl rfl
    next => exact paired
  | disposition =>
    simp only [SessionOp.apply]
    cases session.policy <;> exact paired
  | _ => exact paired

theorem lasting_called_paired {program : Act (Option Err)} (lasting : Avoids lifecycle program) {world : World σ δ}
    (paired : world.session.state = .ready ∨ world.session.state = .clearing) :
    ∀ state ∈ sightings (handler policy environment) touches (·.session.state) program world,
      state = .ready ∨ state = .clearing := by
  refine lasting.sightings (fun _ world => world.session.state = .ready ∨ world.session.state = .clearing)
    paired (fun _ _ _ stood _ _ => stood) fun _ op world reply after stood allowed done => ⟨trivial, ?_⟩
  cases op with
  | environment op =>
    obtain rfl := congrArg Prod.snd done
    exact stood
  | shared op =>
    obtain rfl := congrArg Prod.snd done
    cases op with
    | session op => exact apply_paired allowed stood
    | _ => exact stood

theorem respects_of_paired (config : Config) (fuel : Nat) (arrival : Arrival) {world : World σ δ}
    (paired : world.session.state = .ready ∨ world.session.state = .clearing) :
    ∀ state ∈ calledIn config policy environment fuel arrival world, state = .ready ∨ state = .clearing := by
  cases arrival with
  | sync message => exact lasting_called_paired (handleSync_lasting config message fuel) paired
  | async message => exact lasting_called_paired (handleAsync_lasting config message fuel) paired
  | elsewhere op => exact fun _ => nofun

end Paired

section Unpaired
variable {policy : ResponsePolicy σ} {environment : Environment δ} {state : State} {limit : UInt64}
  {world : World σ δ} (config : Config)

def passive : Kind → Bool
  | .get | .count | .never | .send _ => true
  | _ => false

/-- Passive operations only. The state and the limit of a session are read as they are. -/
def aloof (state : State) (limit : UInt64) : Discipline Op Op.Reply Unit where
  allowed _ op := passive (kind op) = true
  possible
    | _, .shared (.session .state), reply => reply = state
    | _, .shared (.session .maxRx), reply => reply = limit
    | _, _, _ => True
  advance _ _ _ := ()

theorem touches_of_passive {op : Op} (allowed : passive (kind op) = true) : touches op = false := by
  cases op with
  | shared op => rfl
  | environment op => cases op <;> first | rfl | cases allowed

theorem apply_passive {op : SessionOp} (allowed : passive (kind (.shared (.session op))) = true) (session : Session σ) :
    (op.apply policy session).2 = session := by
  cases op with
  | tx op => cases op <;> cases allowed
  | _ => first | rfl | cases allowed

theorem aloof_called {α : Type} {post : α → Unit → Prop} {program : Act α}
    (follows : Follows (aloof world.session.state world.session.maxRx) post program ()) :
    sightings (handler policy environment) touches (·.session.state) program world = [] := by
  refine List.eq_nil_iff_forall_not_mem.mpr (follows.sightings (fun _ later => later.session = world.session) rfl
    (fun _ op _ _ allowed performed => ?_) fun _ op later reply after stood allowed done => ?_)
  · rw [touches_of_passive allowed] at performed
    cases performed
  · cases op with
    | environment op =>
      obtain rfl := congrArg Prod.snd done
      exact ⟨trivial, stood⟩
    | shared op =>
      obtain rfl := Option.some_inj.mp (congrArg Prod.fst done)
      obtain rfl := congrArg Prod.snd done
      cases op with
      | session op =>
        refine ⟨?_, (apply_passive allowed _).trans stood⟩
        cases op <;> first | trivial | exact congrArg Session.state stood | exact congrArg Session.maxRx stood
      | _ => exact ⟨trivial, stood⟩

theorem aloof_of_within {α : Type} {kinds : List Kind} {program : Act α} (within : Within kinds program)
    (plain : ∀ kind ∈ kinds, passive kind = true) : Follows (aloof state limit) (fun _ _ => True) program () :=
  (within.rests fun _ member => ⟨plain _ member, fun _ => rfl⟩).mono fun _ _ => And.left

theorem session_aloof {α : Type} {post : α → Unit → Prop} {op : SessionOp} {next : op.Reply → Act α}
    (allowed : passive (kind (.shared (.session op))) = true)
    (resume : ∀ reply, (aloof state limit).possible () (.shared (.session op)) reply →
      Follows (aloof state limit) post (next reply) ()) :
    Follows (aloof state limit) post (session op >>= next) () :=
  ⟨allowed, resume⟩

theorem requireReady_aloof (unpaired : state = .pairing ∨ state = .closed) :
    Follows (aloof state limit) (fun err _ => err ≠ none) requireReady () := by
  refine ⟨rfl, fun reply same => ?_⟩
  obtain rfl : reply = state := same
  obtain rfl | rfl := unpaired
  · exact Option.some_ne_none _
  · exact Option.some_ne_none _

theorem discardDuringClear_aloof (unpaired : state = .pairing ∨ state = .closed) (header : Header) :
    Follows (aloof state limit) (fun discards _ => discards = false) (discardDuringClear header) () := by
  refine ⟨rfl, fun reply same => ?_⟩
  obtain rfl : reply = state := same
  obtain rfl | rfl := unpaired
  · rfl
  · rfl

/-- An unpaired session accepts messages of the lifecycle only. -/
def Admitted (header : Header) (limit : UInt64) : Except Err Server.Class → Prop
  | .error _ => True
  | .ok found => found = .lifecycle ∧ classOf header.type = .lifecycle ∧ checkLength header.length limit = none

theorem accept_aloof (unpaired : state = .pairing ∨ state = .closed) (header : Header) (channel : Channel) :
    Follows (aloof state limit) (fun result _ => Admitted header limit result) (accept header channel) () := by
  unfold accept
  refine Follows.ite (fun _ => trivial) fun _ => Follows.ite (fun _ => trivial) fun _ => Follows.ite (fun _ => trivial)
    fun _ => session_aloof rfl fun version _ => ?_
  refine Follows.ite (fun _ => trivial) fun _ => Follows.ite (fun _ => trivial) fun _ =>
    session_aloof rfl fun reply same => ?_
  obtain rfl : reply = limit := same
  cases fits : checkLength header.length reply with
  | some err => trivial
  | none =>
    refine Follows.ite (fun lifecycle => ⟨lifecycle, lifecycle, fits⟩) fun _ => ?_
    refine Follows.bind (requireReady_aloof unpaired) fun err _ refused => ?_
    cases err with
    | some err => trivial
    | none => exact absurd rfl refused

theorem writeVia_aloof (writer : Option MessageWriter) (header : Header) (payload : Bytes) :
    Follows (aloof state limit) (fun _ _ => True) (writeVia writer header payload) () :=
  aloof_of_within (writeVia_only writer header payload) (by simp [passive])

theorem count_aloof {α : Type} {next : Act α} (counter : Counter)
    (resume : Follows (aloof state limit) (fun _ _ => True) next ()) :
    Follows (aloof state limit) (fun _ _ => True) (count counter >>= fun _ => next) () :=
  ⟨rfl, fun _ _ => resume⟩

theorem handleSync_aloof (unpaired : state = .pairing ∨ state = .closed) (config : Config) (message : Message)
    (fuel : Nat)
    (other : ¬ (message.err = none ∧ message.header.type = .deviceClearComplete ∧
      checkLength message.header.length limit = none)) :
    Follows (aloof state limit) (fun _ _ => True) (handleSync config message fuel) () := by
  unfold handleSync
  refine session_aloof rfl fun writer _ => ?_
  cases fine : message.err with
  | some err => exact aloof_of_within (reportReadError_within writer err) (by decide)
  | none =>
    refine Follows.bind (discardDuringClear_aloof unpaired message.header) fun discards _ same => ?_
    subst same
    refine Follows.bind (accept_aloof unpaired message.header .synchronous) fun result _ admitted => ?_
    cases result with
    | error err => exact aloof_of_within (reportAcceptError_within writer err) (by decide)
    | ok found =>
      obtain ⟨rfl, lifecycle, fits⟩ := admitted
      have ordinary : ∀ type : MessageType, message.header.type = type → classOf type = .lifecycle :=
        fun type same => same ▸ lifecycle
      refine Follows.ite (fun data => ?_) fun _ => ?_
      · obtain same | same := data <;> cases ordinary _ same
      refine Follows.ite (fun same => by cases ordinary _ same) fun _ => ?_
      refine Follows.ite (fun same => absurd ⟨fine, same, fits⟩ other) fun _ => ?_
      refine Follows.ite (fun _ => count_aloof _ trivial) fun _ => ?_
      refine Follows.ite (fun _ => count_aloof _ trivial) fun _ => ?_
      refine Follows.ite (fun _ => Follows.bind (writeVia_aloof ..) fun _ _ _ => trivial) fun _ => ?_
      exact Follows.ite (fun _ => count_aloof _ (writeVia_aloof ..)) fun _ => count_aloof _ (writeVia_aloof ..)

theorem handleAsync_aloof (unpaired : state = .pairing ∨ state = .closed) (config : Config) (message : Message)
    (fuel : Nat) : Follows (aloof state limit) (fun _ _ => True) (handleAsync config message fuel) () := by
  unfold handleAsync
  refine session_aloof rfl fun writer _ => ?_
  cases writer with
  | none => trivial
  | some writer =>
    dsimp only
    cases message.err with
    | some err => exact aloof_of_within (reportReadError_within _ err) (by decide)
    | none =>
      refine Follows.bind (accept_aloof unpaired message.header .asynchronous) fun result _ admitted => ?_
      cases result with
      | error err => exact aloof_of_within (reportAcceptError_within _ err) (by decide)
      | ok found =>
        obtain ⟨rfl, lifecycle, fits⟩ := admitted
        have ordinary : ∀ type : MessageType, message.header.type = type → classOf type = .lifecycle :=
          fun type same => same ▸ lifecycle
        -- None of the first six messages is of the lifecycle.
        iterate 6 refine Follows.ite (fun same => by cases ordinary _ same) fun _ => ?_
        refine Follows.ite (fun _ => Follows.bind (writeVia_aloof (some writer) _ _) fun _ _ _ => trivial) fun _ => ?_
        refine Follows.ite (fun _ => count_aloof _ trivial) fun _ => ?_
        exact Follows.ite (fun _ => count_aloof _ trivial) fun _ => count_aloof _ (writeVia_aloof (some writer) _ _)

theorem untouched_of_unpaired (fuel : Nat) {arrival : Arrival}
    (unpaired : world.session.state = .pairing ∨ world.session.state = .closed)
    (other : ¬ ClearsUnpaired arrival world) : calledIn config policy environment fuel arrival world = [] := by
  cases arrival with
  | sync message =>
    refine aloof_called (handleSync_aloof unpaired config message fuel fun clears => other ⟨unpaired, ?_⟩)
    exact ⟨message, rfl, clears⟩
  | async message => exact aloof_called (handleAsync_aloof unpaired config message fuel)
  | elsewhere op => rfl

theorem exec_accept_clear {header : Header} (complete : header.type = .deviceClearComplete)
    (fits : checkLength header.length world.session.maxRx = none) :
    exec (handler policy environment) (accept header .synchronous) world = (some (.ok .lifecycle), world) := by
  have defined : MessageType.deviceClearComplete.defined = true := rfl
  have reserved : MessageType.deviceClearComplete.reserved = false := rfl
  have legal : MessageType.deviceClearComplete.legalOn .synchronous = true := rfl
  have version : MessageType.deviceClearComplete.minVersion = .version10 := rfl
  have lifecycle : classOf .deviceClearComplete = .lifecycle := rfl
  simp only [accept, complete, defined, reserved, legal, version, lifecycle, world.session.current, fits, exec_bind,
    exec_version, exec_maxRx, andThen_some, Bool.false_eq_true, if_false, if_true, not_true_eq_false, false_and,
    reduceCtorEq, pure_eq, exec_pure]

theorem completeDeviceClear_called {header : Header}
    (unpaired : world.session.state = .pairing ∨ world.session.state = .closed)
    (complete : header.type = .deviceClearComplete) :
    world.session.state ∈
      sightings (handler policy environment) touches (·.session.state) (completeDeviceClear config header) world := by
  have kept : ∀ overlap, (world.session.completeClear overlap).state = world.session.state := by
    intro overlap
    obtain same | same := unpaired <;> simp [Session.completeClear, same]
  rw [completeDeviceClear, if_neg (not_not.mpr complete), sightings_bind (exec_completeClear ..),
    sightings_bind (exec_tx ..)]
  refine List.mem_append_right _ (List.mem_append_right _ (mem_sightings_bind ?_))
  rw [← kept (config.featureBitmap header.control &&& featureOverlapped != 0)]
  exact mem_sightings_perform rfl _

/-- The completion of a Device Clear passes every check on its way to the device. -/
theorem called_of_clears (fuel : Nat) {arrival : Arrival} (clears : ClearsUnpaired arrival world) :
    world.session.state ∈ calledIn config policy environment fuel arrival world := by
  obtain ⟨unpaired, message, rfl, fine, complete, fits⟩ := clears
  have discards : exec (handler policy environment) (discardDuringClear message.header) world =
    (some false, world) := by
    obtain same | same := unpaired <;> simp [discardDuringClear, same]
  have reaches : world.session.state ∈ sightings (handler policy environment) touches (·.session.state)
      (completeDeviceClear config message.header) world := completeDeviceClear_called config unpaired complete
  have data : ¬ (message.header.type = .data ∨ message.header.type = .dataEnd) := by
    rw [complete]
    decide
  have trigger : message.header.type ≠ .trigger := by
    rw [complete]
    decide
  unfold calledIn Arrival.program handleSync
  rw [sightings_bind (exec_syncWriter world), fine]
  dsimp only
  rw [sightings_bind discards, if_neg Bool.false_ne_true, sightings_bind (exec_accept_clear complete fits)]
  dsimp only
  rw [if_neg data, if_neg trigger, if_pos complete]
  exact List.mem_append_right _ (List.mem_append_right _ (List.mem_append_right _ (mem_sightings_bind reaches)))

end Unpaired

section Runs
variable {policy : ResponsePolicy σ} {environment : Environment δ}

theorem respects_iff (config : Config) (fuel : Nat) (arrival : Arrival) (world : World σ δ) :
    Respects config policy environment fuel arrival world ↔ ¬ ClearsUnpaired arrival world := by
  constructor
  · intro respects clears
    have called : world.session.state ∈ calledIn config policy environment fuel arrival world :=
      called_of_clears config fuel clears
    rw [respects.2 clears.1] at called
    cases called
  · intro other
    have states : (world.session.state = .pairing ∨ world.session.state = .closed) ∨
        (world.session.state = .ready ∨ world.session.state = .clearing) := by
      cases world.session.state <;> simp
    obtain unpaired | paired := states
    · have none : calledIn config policy environment fuel arrival world = [] :=
        untouched_of_unpaired config fuel unpaired other
      exact ⟨by rw [none]; exact fun _ => nofun, fun _ => none⟩
    · refine ⟨respects_of_paired config fuel arrival paired, fun unpaired => ?_⟩
      obtain same | same := paired <;> simp [same] at unpaired

/-- For any messages on both channels, from any state of the session: the device is
called only for a paired session, except that a DeviceClearComplete is let through to
it in every state. -/
theorem device_called_paired_iff (config : Config) (policy : ResponsePolicy σ) (environment : Environment δ)
    (fuel : Nat) (arrivals : List Arrival) (ended : List Channel) (world : World σ δ) :
    (∀ step ∈ handled config policy environment fuel arrivals ended world,
        Respects config policy environment fuel step.1 step.2) ↔
      ∀ step ∈ handled config policy environment fuel arrivals ended world, ¬ ClearsUnpaired step.1 step.2 :=
  forall₂_congr fun step _ => respects_iff config fuel step.1 step.2

def completing : Arrival := .sync { header := { type := .deviceClearComplete }, payload := [], err := none }

def unpairedWorld : World SCPIQueryPolicy (List ReadResult) where
  shared := { session := { Session.new Profile.standard scpiQueryPolicy 1 .version10 Version.version10_current 0 with
    syncW := some ⟨.synchronous⟩ } }
  environment := []

/-- The instrument is cleared for a session that has no asynchronous channel yet, and
again for one that is closed. -/
theorem device_called_unpaired :
    (handled Profile.standard.toConfig scpiQueryPolicy scripted 0 [completing, .elsewhere .close, completing] []
        unpairedWorld).map (fun step => calledIn Profile.standard.toConfig scpiQueryPolicy scripted 0 step.1 step.2) =
      [[.pairing], [], [.closed]] := by
  decide +kernel

end Runs

end Hislip.Proofs.DeviceAccess
