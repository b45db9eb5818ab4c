import Hislip.Proofs.Footprint
import Hislip.Proofs.ProgramText
import Hislip.Proofs.SyncRuns

/-! What the response policy is asked about. A chunk is fed once the device took it, and
the policy is reset when it is asked, so it answers for one program message as long as
the device took the whole of it. -/

namespace Hislip.Proofs.Classification
open Hislip.Server Hislip.Proofs.Footprint Hislip.Proofs.SyncChannel Act Program Transition

variable {σ δ : Type} {policy : ResponsePolicy σ}

/-- What the interface asks of a policy: the decision is about everything fed since the
last reset, however it was cut into chunks. -/
structure Lawful (policy : ResponsePolicy σ) : Prop where
  append : ∀ scanned chunk more, policy.feed (policy.feed scanned chunk) more = policy.feed scanned (chunk ++ more)
  reset : ∀ scanned, policy.reset scanned = policy.fresh

theorem scpiQueryPolicy_lawful : Lawful scpiQueryPolicy := ⟨ProgramText.feed_append, fun _ => rfl⟩

theorem alwaysReadPolicy_lawful : Lawful alwaysReadPolicy := ⟨fun _ _ _ => rfl, fun _ => rfl⟩

theorem neverReadPolicy_lawful : Lawful neverReadPolicy := ⟨fun _ _ _ => rfl, fun _ => rfl⟩

theorem heard_append (lawful : Lawful policy) (chunk more : Bytes) (scanned : Option σ) :
    heard policy more (heard policy chunk scanned) = heard policy (chunk ++ more) scanned := by
  cases chunk with
  | nil => rfl
  | cons c chunk =>
    cases more with
    | nil => rw [List.append_nil]; rfl
    | cons d more =>
      cases scanned with
      | none => rfl
      | some scanned => exact congrArg some (lawful.append scanned _ _)

theorem heard_reset (lawful : Lawful policy) (chunk : Bytes) (scanned : σ) :
    (heard policy chunk (some scanned)).map policy.reset = some policy.fresh := by
  unfold heard
  split <;> exact congrArg some (lawful.reset _)

section Message

/-- How far a message has come: the device took it, the policy was fed it, the policy
was asked about it. -/
inductive Stage where
  | untaken | taken | fed | asked
  deriving DecidableEq, Repr

/-- A message reaches the policy only once the device took it, as a whole, and the policy
is asked at the end of a program message only. -/
def hearing (message : Message) : Discipline Op Op.Reply Stage where
  allowed
    | stage, .environment (.write _ _ _) => stage = .untaken
    | stage, .shared (.session (.feed chunk)) =>
      stage = .taken ∧ message.payload.length ≠ 0 ∧ chunk = message.payload
    | stage, .shared (.session .disposition) =>
      message.header.type = .dataEnd ∧ (stage = .fed ∨ stage = .taken ∧ message.payload.length = 0)
    | _, _ => True
  advance
    | _, .environment (.write _ _ _), none => .taken
    | _, .shared (.session (.feed _)), _ => .fed
    | _, .shared (.session .disposition), _ => .asked
    | stage, _, _ => stage

/-- A message that the device took has been fed, and its end has been asked about. -/
def Through (message : Message) (stage : Stage) : Prop :=
  stage = .untaken ∨ message.header.type = .dataEnd ∧ stage = .asked ∨
    message.header.type = .data ∧ (stage = .fed ∨ stage = .taken ∧ message.payload.length = 0)

def besides : List Kind :=
  [.get, .note, .rmt, .tx, .expect, .operation, .release, .count, .deviceRead, .pending, .never, .send .data,
    .send .dataEnd, .send .error, .send .fatalError, .send .interrupted, .send .asyncInterrupted]

variable {message : Message}

theorem hearing_spares {stage : Stage} : Spares (hearing message) stage (· ∈ besides) := by
  intro op member
  cases op with
  | shared op =>
    cases op with
    | session op =>
      cases op with
      | feed chunk => exact absurd member (show Kind.policy ∉ besides by decide)
      | disposition => exact absurd member (by decide)
      | _ => exact ⟨trivial, fun _ => rfl⟩
    | _ => exact ⟨trivial, fun _ => rfl⟩
  | environment op =>
    cases op with
    | write ctx payload last => exact absurd member (show Kind.device ∉ besides by decide)
    | _ => exact ⟨trivial, fun _ => rfl⟩

theorem receiveData_hears :
    Follows (hearing message) (fun result stage => stage = if result.2 = none then .taken else .untaken)
      (receiveData message.header message.payload) .untaken := by
  refine Follows.ite (fun _ => rfl) fun _ => ⟨trivial, fun _ _ => ⟨trivial, fun _ _ => ⟨trivial, fun refused _ => ?_⟩⟩⟩
  cases refused with
  | some err => rfl
  | none =>
    refine ⟨rfl, fun failed _ => ?_⟩
    cases failed <;> rfl

theorem answerProgramMessage_hears (last : message.header.type = .dataEnd) {stage : Stage}
    (heard : stage = .fed ∨ stage = .taken ∧ message.payload.length = 0) (config : Config)
    (writer : Option MessageWriter) (fuel : Nat) :
    Follows (hearing message) (fun _ stage => stage = .asked)
      (answerProgramMessage config message.header writer fuel) stage := by
  obtain ⟨rest, same, within⟩ := answerProgramMessage_asks config message.header writer fuel
  rw [same]
  exact ⟨⟨last, heard⟩, fun found _ => Spares.rest hearing_spares (within found) (by decide)⟩

theorem handleData_hears (written : message.header.type = .data ∨ message.header.type = .dataEnd) (config : Config)
    (writer : Option MessageWriter) (fuel : Nat) :
    Follows (hearing message) (fun _ => Through message) (handleData config message writer fuel) .untaken := by
  refine receiveData_hears.bind fun result stage reached => ?_
  obtain ⟨interrupted, err⟩ := result
  refine Spares.skip hearing_spares (countInterrupted_within interrupted) (by decide) fun _ => ?_
  cases err with
  | some err =>
    obtain rfl : stage = .untaken := reached
    exact (Spares.rest hearing_spares (reportOperationError_within writer err) (by decide)).mono fun _ _ same => .inl same
  | none =>
    obtain rfl : stage = .taken := reached
    have ends : ∀ stage, stage = .fed ∨ stage = .taken ∧ message.payload.length = 0 →
        Follows (hearing message) (fun _ => Through message)
          (if message.header.type ≠ .dataEnd then Pure.pure none
            else answerProgramMessage config message.header writer fuel) stage := by
      intro stage heard
      refine Follows.ite (fun other => ?_) fun last => ?_
      · exact .inr (.inr ⟨written.resolve_right other, heard⟩)
      · have last := not_not.mp last
        exact (answerProgramMessage_hears last heard config writer fuel).mono fun _ _ asked => .inr (.inl ⟨last, asked⟩)
    refine Follows.ite (fun fed => ⟨⟨rfl, fed, rfl⟩, fun _ _ => ends .fed (.inl rfl)⟩) fun empty => ?_
    exact ends .taken (.inr ⟨rfl, not_not.mp empty⟩)

theorem trigger_hears (header : Header) :
    Follows (hearing message) (fun _ stage => stage = .untaken) (trigger header) .untaken := by
  refine Follows.ite (fun _ => rfl) fun _ => Spares.skip hearing_spares requireReady_within (by decide) fun refused => ?_
  cases refused with
  | some err => rfl
  | none =>
    refine ⟨trivial, fun _ _ => ⟨trivial, fun _ _ => ⟨trivial, fun (refused : Option Err) _ => ?_⟩⟩⟩
    cases refused with
    | some err => rfl
    | none =>
      refine ⟨trivial, fun (failed : Option Err) _ => ?_⟩
      cases failed with
      | some err => rfl
      | none => exact ⟨trivial, fun _ _ => rfl⟩

theorem handleTrigger_hears (writer : Option MessageWriter) :
    Follows (hearing message) (fun _ stage => stage = .untaken) (handleTrigger message writer) .untaken := by
  refine (trigger_hears message.header).bind fun result _ same => ?_
  subst same
  obtain ⟨interrupted, err⟩ := result
  refine Spares.skip hearing_spares (countInterrupted_within interrupted) (by decide) fun _ => ?_
  cases err with
  | some err => exact Spares.rest hearing_spares (reportOperationError_within writer err) (by decide)
  | none => exact ⟨trivial, fun _ _ => rfl⟩

theorem handleSync_hears (message : ProgramMessage) (config : Config) (fuel : Nat) :
    Follows (hearing message.toMessage) (fun _ => Through message.toMessage)
      (handleSync config message.toMessage fuel) .untaken := by
  refine hearing_spares.handleSync config message.toMessage fuel (by decide) (fun _ => .inl rfl)
    (fun _ written writer => handleData_hears written config writer fuel)
    (fun _ writer => (handleTrigger_hears writer).mono fun _ _ => .inl) fun typed => ?_
  have other : message.header.type ≠ .trigger := by rw [typed]; decide
  obtain data | data := ProgramMessage.written other <;> exact absurd (data.symm.trans typed) (by decide)

end Message

section Step
variable {environment : Environment δ} {message : Message} {before world after : World σ δ} {stage : Stage}

def tookChunk : Event → Bool
  | ⟨.write _ _ _, some none⟩ => true
  | _ => false

def holding (policy : ResponsePolicy σ) (payload : Bytes) (scanned : Option σ) : Stage → Option σ
  | .untaken | .taken => scanned
  | .fed => heard policy payload scanned
  | .asked => (heard policy payload scanned).map policy.reset

/-- A world in which the message has come to the stage since `before`. -/
structure Stands (policy : ResponsePolicy σ) (message : Message) (before : World σ δ) (stage : Stage)
    (world : World σ δ) :
    Prop where
  policy : world.session.policy = holding policy message.payload before.session.policy stage
  trace : ∃ events, world.trace = before.trace ++ events ∧ events.any tookChunk = decide (stage ≠ .untaken)

theorem Stands.start (message : Message) (world : World σ δ) : Stands policy message world .untaken world :=
  ⟨rfl, [], (List.append_nil _).symm, rfl⟩

section
variable (stands : Stands policy message before stage world)
include stands

theorem Stands.asked (fed : stage = .fed ∨ stage = .taken ∧ message.payload.length = 0) :
    world.session.policy = heard policy message.payload before.session.policy := by
  rw [stands.policy]
  obtain rfl | ⟨rfl, empty⟩ := fed
  · rfl
  · rw [heard, if_neg (not_not.mpr empty)]
    rfl

private theorem Stands.calls {op : EnvironmentOp}
    (other : tookChunk ⟨op, (environment op world.environment).1⟩ = false) :
    Stands policy message before stage (world.call environment op) := by
  obtain ⟨events, traced, took⟩ := stands.trace
  refine ⟨stands.policy, events ++ [⟨op, (environment op world.environment).1⟩], ?_, ?_⟩
  · rw [World.trace_call, traced, List.append_assoc]
  · rw [List.any_append, took, List.any_cons, other, List.any_nil, Bool.or_false, Bool.or_false]

theorem Stands.moves {op : Op} {reply : op.Reply} (allowed : (hearing message).allowed stage op)
    (handled : handler policy environment op world = (some reply, after)) :
    Stands policy message before ((hearing message).advance stage op reply) after := by
  cases op with
  | shared op =>
    cases op with
    | session op =>
      cases handled
      cases op with
      | feed chunk =>
        obtain ⟨rfl, nonempty, rfl⟩ := allowed
        refine ⟨?_, stands.trace⟩
        change world.session.policy.map _ = heard policy message.payload before.session.policy
        rw [stands.policy, heard, if_pos nonempty]
        rfl
      | disposition =>
        obtain ⟨-, fed⟩ := allowed
        obtain ⟨events, traced, took⟩ := stands.trace
        refine ⟨?_, events, traced, ?_⟩
        · change (SessionOp.disposition.apply policy world.session).2.policy = _
          rw [disposition_apply, stands.asked fed]
          rfl
        · obtain rfl | ⟨rfl, -⟩ := fed <;> exact took
      | attachAsync stream =>
        refine ⟨Eq.trans ?_ stands.policy, stands.trace⟩
        change (world.session.attachAsync stream).2.policy = _
        unfold Session.attachAsync
        split
        · rfl
        · split <;> rfl
      | beginClear =>
        refine ⟨Eq.trans ?_ stands.policy, stands.trace⟩
        change world.session.beginClear.policy = _
        unfold Session.beginClear
        split <;> rfl
      | _ => exact ⟨stands.policy, stands.trace⟩
    | _ => cases handled; exact ⟨stands.policy, stands.trace⟩
  | environment op =>
    obtain rfl := congrArg Prod.snd handled
    cases op with
    | write ctx payload last =>
      have replied : (environment (.write ctx payload last) world.environment).1 = some reply :=
        congrArg Prod.fst handled
      cases reply with
      | some err => exact stands.calls (by rw [replied]; rfl)
      | none =>
        obtain rfl : stage = .untaken := allowed
        obtain ⟨events, traced, -⟩ := stands.trace
        refine ⟨stands.policy, events ++ [⟨.write ctx payload last, some none⟩], ?_, ?_⟩
        · change world.trace ++ [⟨.write ctx payload last, _⟩] = _
          rw [traced, replied, List.append_assoc]
        · rw [List.any_append, List.any_cons, tookChunk, Bool.true_or, Bool.or_true]
          rfl
    | _ => exact stands.calls rfl

end

end Step

/-- A session with the program message that the client is sending: the payloads of the
Data messages since the last DataEnd. Beside it stand the questions to the policy: what it
held, and the program message that was at its end. -/
structure Hearing (σ δ : Type) where
  world : World σ δ
  own : Bytes := []
  asked : List (Option σ × Bytes) := []
  running : Bool := true

def asksPolicy : Op → Bool
  | .shared (.session .disposition) => true
  | _ => false

def collect (own : Bytes) (message : Message) : Bytes :=
  if message.header.type = .data then own ++ message.payload
  else if message.header.type = .dataEnd then []
  else own

namespace Hearing

def step (policy : ResponsePolicy σ) (environment : Environment δ) (config : Config) (hearing : Hearing σ δ)
    (action : ProgramMessage × Nat) : Option (Hearing σ δ) :=
  if hearing.running then
    let program := handleSync config action.1.toMessage action.2
    let (result, world) := exec (handler policy environment) program hearing.world
    let questions := sightings (handler policy environment) asksPolicy (·.session.policy) program hearing.world
    some
      { world
        own := collect hearing.own action.1.toMessage
        asked := hearing.asked ++ questions.map (·, hearing.own ++ action.1.payload)
        running := result = some none }
  else none

/-- Every question is answered as for the bytes of its own program message alone. -/
def Own (policy : ResponsePolicy σ) (hearing : Hearing σ δ) : Prop :=
  ∀ question ∈ hearing.asked, classify policy question.1 = classify policy (heard policy question.2 (some policy.fresh))

def took (policy : ResponsePolicy σ) (environment : Environment δ) (config : Config) (hearing : Hearing σ δ)
    (action : ProgramMessage × Nat) : Bool :=
  ((exec (handler policy environment) (handleSync config action.1.toMessage action.2) hearing.world).2.trace.drop
    hearing.world.trace.length).any tookChunk

/-- The device takes every chunk. A DataEnd may fail when it is a program message by itself. -/
def Complete (policy : ResponsePolicy σ) (environment : Environment δ) (config : Config) (hearing : Hearing σ δ)
    (action : ProgramMessage × Nat) : Prop :=
  (action.1.header.type = .data → action.1.payload = [] ∨ hearing.took policy environment config action) ∧
    (action.1.header.type = .dataEnd → hearing.own = [] ∨ hearing.took policy environment config action)

instance (policy : ResponsePolicy σ) (environment : Environment δ) (config : Config) (hearing : Hearing σ δ)
    (action : ProgramMessage × Nat) : Decidable (hearing.Complete policy environment config action) :=
  inferInstanceAs (Decidable (_ ∧ _))

end Hearing

section Run
variable {environment : Environment δ} {config : Config} {hearing after : Hearing σ δ} {action : ProgramMessage × Nat}

theorem Hearing.Complete.untaken (complete : hearing.Complete policy environment config action)
    (silent : hearing.took policy environment config action = false) :
    collect hearing.own action.1.toMessage = hearing.own := by
  unfold collect
  split
  next data =>
    obtain empty | took := complete.1 data
    · rw [empty, List.append_nil]
    · rw [took] at silent
      cases silent
  next =>
    split
    next last =>
      obtain empty | took := complete.2 last
      · exact empty.symm
      · rw [took] at silent
        cases silent
    next => rfl

/-- The policy holds the Data messages since the last DataEnd. -/
structure Sound (policy : ResponsePolicy σ) (hearing : Hearing σ δ) : Prop where
  own : hearing.Own policy
  holds : hearing.running = true → hearing.world.session.policy = heard policy hearing.own (some policy.fresh)

theorem questions_held (message : ProgramMessage) (fuel : Nat) (world : World σ δ) :
    ∀ scanned ∈ sightings (handler policy environment) asksPolicy (·.session.policy)
        (handleSync config message.toMessage fuel) world,
      scanned = heard policy message.payload world.session.policy := by
  refine (handleSync_hears message config fuel).sightings (Stands policy message.toMessage world) (.start _ world) ?_
    fun _ _ _ _ _ stands allowed handled => ⟨trivial, stands.moves allowed handled⟩
  intro stage op seen stands allowed asks
  cases op with
  | shared op =>
    cases op with
    | session op =>
      cases op with
      | disposition => exact stands.asked allowed.2
      | _ => cases asks
    | _ => cases asks
  | environment op => cases asks

theorem handleSync_holds (message : ProgramMessage) (fuel : Nat) {world after : World σ δ} {result : Option Err}
    (returned : exec (handler policy environment) (handleSync config message.toMessage fuel) world = (some result, after)) :
    ∃ stage, Through message.toMessage stage ∧ Stands policy message.toMessage world stage after := by
  have moves : ∀ stage op state reply after, Stands policy message.toMessage world stage state →
      (hearing message.toMessage).allowed stage op → handler policy environment op state = (some reply, after) →
        True ∧ Stands policy message.toMessage world ((hearing message.toMessage).advance stage op reply) after :=
    fun _ _ _ _ _ stands allowed handled => ⟨trivial, stands.moves allowed handled⟩
  have ends := (handleSync_hears message config fuel).exec (Stands policy message.toMessage world) (.start _ world) moves
  obtain ⟨value, last, stage, same, stands, through⟩ | ⟨_, _, _, _, blocked, _⟩ := ends
  · cases same.symm.trans returned
    exact ⟨stage, through, stands⟩
  · cases blocked.symm.trans returned

theorem Hearing.step_cases (moved : hearing.step policy environment config action = some after) :
    hearing.running = true ∧ ∃ result world,
      exec (handler policy environment) (handleSync config action.1.toMessage action.2) hearing.world =
        (result, world) ∧
      after =
        { world
          own := collect hearing.own action.1.toMessage
          asked := hearing.asked ++ (sightings (handler policy environment) asksPolicy (·.session.policy)
            (handleSync config action.1.toMessage action.2) hearing.world).map (·, hearing.own ++ action.1.payload)
          running := result = some none } := by
  unfold Hearing.step at moved
  split at moved
  next running => exact ⟨running, _, _, rfl, (Option.some.inj moved).symm⟩
  next => cases moved

theorem Sound.step (lawful : Lawful policy) (sound : Sound policy hearing)
    (complete : hearing.Complete policy environment config action)
    (moved : hearing.step policy environment config action = some after) : Sound policy after := by
  obtain ⟨running, result, world, run, rfl⟩ := Hearing.step_cases moved
  have holds := sound.holds running
  constructor
  · intro question member
    rcases List.mem_append.mp member with before | new
    · exact sound.own question before
    · obtain ⟨scanned, seen, rfl⟩ := List.mem_map.mp new
      rw [questions_held action.1 action.2 hearing.world scanned seen, holds, heard_append lawful]
  · intro returned
    rw [of_decide_eq_true returned] at run
    obtain ⟨stage, through, stands⟩ := handleSync_holds action.1 action.2 run
    rcases through with rfl | ⟨last, rfl⟩ | ⟨data, fed⟩
    · obtain ⟨events, traced, untaken⟩ := stands.trace
      rw [complete.untaken]
      · exact stands.policy.trans holds
      · rw [Hearing.took, run, traced, List.drop_left, untaken]
        rfl
    · have other : ¬ action.1.header.type = .data := by rw [last]; decide
      rw [collect, if_neg other, if_pos last, stands.policy, holds]
      exact (congrArg (Option.map _) (heard_append lawful _ _ _)).trans (heard_reset lawful _ _)
    · rw [collect, if_pos data, ← heard_append lawful, ← holds]
      exact stands.asked fed

end Run

/-- In every run in which the device takes every Data message and the end of every program
message that has some, each program message is classified from its own bytes only. -/
theorem classified_from_own_bytes (lawful : Lawful policy) (environment : Environment δ) (config : Config)
    (world : World σ δ) (fresh : world.session.policy = some policy.fresh) (actions : List (ProgramMessage × Nat))
    (complete : Throughout (Hearing.step policy environment config) (Hearing.Complete policy environment config)
      actions { world }) :
    Always (Hearing.step policy environment config) (Hearing.Own policy) actions { world } := by
  refine always_of_invariant (fun _ => Sound.own) (fun _ _ _ sound complete moved => sound.step lawful complete moved)
    ⟨nofun, fun _ => fresh⟩ complete

/-- A device that replies to its Writes as listed and ends every response at once. -/
def replying : Environment (List (Option Err))
  | .write _ _ _, reply :: later => (some reply, later)
  | .write _ _ _, [] => (some none, [])
  | .read _ _, replies => (some ⟨[], true, none⟩, replies)
  | .send _ _ _, replies => (some none, replies)
  | .pending, replies => (some false, replies)
  | _, replies => (none, replies)

def chunkOf (payload : Bytes) : ProgramMessage × Nat :=
  (⟨{ header := { type := .data, length := UInt64.ofNat payload.length }, payload }, data_kind⟩, 1)

def lastOf (payload : Bytes) : ProgramMessage × Nat :=
  (⟨{ header := { type := .dataEnd, length := UInt64.ofNat payload.length }, payload }, dataEnd_kind⟩, 1)

/-- A query in two chunks, a command whose Write fails, and another query. -/
theorem split_queries_classified :
    Always (Hearing.step scpiQueryPolicy replying Profile.standard.toConfig) (Hearing.Own scpiQueryPolicy)
      [chunkOf [42, 73], lastOf [63], lastOf [42], chunkOf [42], lastOf [63]]
      { world := SyncRuns.freshlyPaired scpiQueryPolicy [none, none, some (.other [] [])] } :=
  classified_from_own_bytes scpiQueryPolicy_lawful replying Profile.standard.toConfig _ rfl _ (by decide +kernel)

/-- How the policy classified each program message, how it classifies the bytes of that
message alone, and these bytes. -/
def verdicts (hearing : Hearing SCPIQueryPolicy δ) : List (Disposition × Disposition × Bytes) :=
  hearing.asked.map fun question =>
    (classify scpiQueryPolicy question.1, classify scpiQueryPolicy (heard scpiQueryPolicy question.2 (some {})), question.2)

/-- A query whose end the device does not take makes a query of the command after it. A
query whose chunk the device does not take is no query. -/
theorem failed_write_misclassifies :
    (finish (Hearing.step scpiQueryPolicy replying Profile.standard.toConfig)
        [chunkOf [42, 63], lastOf [], chunkOf [42, 82], lastOf []]
        { world := SyncRuns.freshlyPaired scpiQueryPolicy [none, some (.other [] [])] }).map verdicts =
      some [(.responseExpected, .noResponseExpected, [42, 82])] ∧
    (finish (Hearing.step scpiQueryPolicy replying Profile.standard.toConfig) [chunkOf [42, 63], lastOf []]
        { world := SyncRuns.freshlyPaired scpiQueryPolicy [some (.other [] [])] }).map verdicts =
      some [(.noResponseExpected, .responseExpected, [42, 63])] := by
  decide +kernel

end Hislip.Proofs.Classification
