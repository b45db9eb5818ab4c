import Hislip.Proofs.SyncChannel
import Hislip.Transition

/-! Runs of the synchronous loop over program messages: every message reaches the
device in order and every query is answered before the next one, as long as the
device takes the end of each message. -/

namespace Hislip.Proofs.SyncRuns
open Hislip.Server Hislip.Proofs.Answering Hislip.Proofs.SyncChannel Act Program Transition

variable {σ δ : Type} {policy : ResponsePolicy σ} {environment : Environment δ}

/-- The end of a program message that the policy expects a response to. -/
def isQuery (policy : ResponsePolicy σ) (scanned : Option σ) (message : Message) : Bool :=
  message.header.type = .dataEnd && classify policy (heard policy message.payload scanned) = .responseExpected

/-- What the policy has scanned after a message that the device took. -/
def scan (policy : ResponsePolicy σ) (scanned : Option σ) (message : Message) : Option σ :=
  if message.header.type = .trigger then scanned
  else if message.header.type = .dataEnd then (heard policy message.payload scanned).map policy.reset
  else heard policy message.payload scanned

def Responds (policy : ResponsePolicy σ) (scanned : Option σ) (message : Message) (events : List Event) : Prop :=
  if isQuery policy scanned message then Answered message.header.messageID events else events = []

private theorem Responds.none {scanned : Option σ} {message : Message}
    (plain : isQuery policy scanned message = false) : Responds policy scanned message [] := by
  rw [Responds, plain]
  rfl

section Message
variable {world after : World σ δ} {message : ProgramMessage} {fuel : Nat} {result : Option Err}

/-- A well-formed message whose device call was accepted is served: the call comes
first, then the response of a query and nothing else. -/
structure Served (policy : ResponsePolicy σ) (world : World σ δ) (message : Message) (result : Option Err)
    (after : World σ δ) : Prop where
  continues : result = none
  listening : Listening after
  events : ∃ call later, call.operation = deviceCall message ∧ Responds policy world.session.policy message later ∧
    Handled world after (scan policy world.session.policy message) (call :: later)

theorem handleSync_accepted (policy : ResponsePolicy σ) (profile : Profile) (wired : Wired (setup world.session))
    (listening : Listening world) (fine : WellFormed message.toMessage world.session.maxRx)
    (accepted : deviceReply environment message.toMessage world.environment = some none)
    (paired : isQuery policy world.session.policy message.toMessage → world.session.asyncW ≠ none) :
    (∃ after, Served policy world message.toMessage none after ∧ ∀ fuel,
      exec (handler policy environment) (handleSync profile.toConfig message.toMessage fuel) world =
        (some none, after)) ∨
    ∃ number checked before call, checked.sync = ⟨.synchronous⟩ ∧ checked.async = ⟨.asynchronous⟩ ∧
      checked.messageID = message.header.messageID ∧ 0 < checked.scratch ∧ Responding before ∧
      isQuery policy world.session.policy message.toMessage ∧ call.operation = deviceCall message.toMessage ∧
      Handled world before (scan policy world.session.policy message.toMessage) [call] ∧ ∀ fuel,
      exec (handler policy environment) (handleSync profile.toConfig message.toMessage fuel) world =
        andThen (exec (handler policy environment) (responseLoop (.operation number) checked fuel 0) before)
          fun result after => exec (handler policy environment) (finishResponse number result) after := by
  by_cases triggers : message.header.type = .trigger
  · obtain ⟨call, after, calls, idle, handled, same⟩ :=
      exec_handleSync_triggered policy wired listening profile.toConfig fine triggers accepted
    refine .inl ⟨after, ⟨rfl, .inl idle, call, [], calls, ?_, ?_⟩, same⟩
    · apply Responds.none
      rw [isQuery, triggers]
      rfl
    · rwa [scan, if_pos triggers]
  obtain ⟨call, before, calls, tx, handled, same⟩ :=
    exec_handleSync_written policy wired listening profile.toConfig fine (ProgramMessage.written triggers) accepted
  by_cases last : message.header.type = .dataEnd
  · have complete : before.session.tx.state = .inputComplete := by
      rw [tx, inputTx, if_neg (by rw [last]; decide)]
    have scans : scan policy world.session.policy message.toMessage = before.session.policy.map policy.reset := by
      rw [scan, if_neg triggers, if_pos last, handled.policy]
    have finished : ¬ message.header.type ≠ .dataEnd := fun other => other last
    simp only [if_neg finished] at same
    by_cases asked : classify policy before.session.policy = .responseExpected
    · have query : isQuery policy world.session.policy message.toMessage := by
        simp [isQuery, last, ← handled.policy, asked]
      have async := (congrArg Setup.asyncW handled.setup).trans (wired.asyncW.resolve_left (paired query))
      obtain ⟨number, checked, begun, first, second, id, holds, responding, -, more, loops⟩ :=
        exec_answer_query profile async complete asked
      refine .inr ⟨number, checked, begun, call, first, second, id, holds, responding, query, calls, ?_,
        fun fuel => (same fuel).trans (loops fuel)⟩
      rw [scans]
      exact handled.trans more
    · have plain : isQuery policy world.session.policy message.toMessage = false := by
        simp [isQuery, ← handled.policy, asked]
      obtain ⟨after, idle, more, answers⟩ :=
        exec_answer_unasked environment profile.toConfig message.header complete asked
      refine .inl ⟨after, ⟨rfl, .inl idle, call, [], calls, .none plain, ?_⟩, fun fuel => (same fuel).trans (answers fuel)⟩
      rw [scans]
      exact handled.trans more
  · simp only [if_pos last] at same
    refine .inl ⟨before, ⟨rfl, .inr ?_, call, [], calls, .none (by simp [isQuery, last]), ?_⟩, same⟩
    · rw [tx, inputTx, if_pos ((ProgramMessage.written triggers).resolve_right last)]
    · rwa [scan, if_neg triggers, if_neg last]

theorem served_of_returned (accepting : Accepting environment) (profile : Profile) (wired : Wired (setup world.session))
    (listening : Listening world) (fine : WellFormed message.toMessage world.session.maxRx)
    (accepted : deviceReply environment message.toMessage world.environment = some none)
    (paired : isQuery policy world.session.policy message.toMessage → world.session.asyncW ≠ none)
    (returned : exec (handler policy environment) (handleSync profile.toConfig message.toMessage fuel) world =
      (some result, after)) : Served policy world message.toMessage result after := by
  obtain ⟨final, served, same⟩ | ⟨number, checked, before, call, sync, async, id, -, responding, query, calls, handled, same⟩ :=
    handleSync_accepted policy profile wired listening fine accepted paired
  · cases (same fuel).symm.trans returned
    exact served
  · obtain ⟨⟨outcome, err⟩, middle, loops, finishes⟩ := andThen_eq_some.mp ((same fuel).symm.trans returned)
    obtain ⟨rfl, idle, events, continues, answered⟩ := responseLoop_ended accepting sync async responding loops
    have ends : Yields (handler policy environment) (finishResponse number (outcome, none)) middle _ :=
      finishResponse_keeps number outcome middle
    obtain ⟨_, _, ended, rfl, tx, more⟩ := ends
    cases ended.symm.trans finishes
    refine ⟨rfl, .inl ?_, call, events, calls, ?_, ?_⟩
    · rw [tx]
      exact idle
    · rw [Responds, query, ← id]
      exact answered
    · have whole := (handled.after continues).after more
      rwa [List.append_nil] at whole

/-- An accepted message of a paired session is served with enough fuel, always in
the same way. -/
theorem handleSync_serves (policy : ResponsePolicy σ) (accepting : Accepting environment)
    (ends : ReadsEnd environment) (profile : Profile) (wired : Wired (setup world.session))
    (paired : world.session.asyncW ≠ none) (listening : Listening world)
    (fine : WellFormed message.toMessage world.session.maxRx)
    (accepted : deviceReply environment message.toMessage world.environment = some none) :
    ∃ after enough, Served policy world message.toMessage none after ∧ ∀ fuel, enough ≤ fuel →
      exec (handler policy environment) (handleSync profile.toConfig message.toMessage fuel) world =
        (some none, after) := by
  obtain ⟨after, served, same⟩ | ⟨number, checked, before, call, sync, async, -, holds, responding, -, -, -, same⟩ :=
    handleSync_accepted policy profile wired listening fine accepted fun _ => paired
  · exact ⟨after, 0, served, fun fuel _ => same fuel⟩
  · obtain ⟨⟨outcome, err⟩, middle, loops⟩ : ∃ value middle, ∀ fuel, ends.left before.environment < fuel →
        exec (handler policy environment) (responseLoop (.operation number) checked fuel 0) before =
          (some value, middle) :=
      responseLoop_returns accepting ends sync async holds responding 0
    obtain ⟨rfl, -⟩ := responseLoop_ended accepting sync async responding (loops _ (Nat.lt_succ_self _))
    have finishes : Yields (handler policy environment) (finishResponse number (outcome, none)) middle _ :=
      finishResponse_keeps number outcome middle
    obtain ⟨_, after, ended, rfl, -⟩ := finishes
    have returns : ∀ fuel, ends.left before.environment + 1 ≤ fuel → exec (handler policy environment)
        (handleSync profile.toConfig message.toMessage fuel) world = (some none, after) := by
      intro fuel enough
      rw [same fuel, loops fuel enough, andThen_some, ended]
    exact ⟨after, _, served_of_returned accepting profile wired listening fine accepted (fun _ => paired)
      (returns _ (Nat.le_refl _)), returns⟩

end Message

section Run

/-- `handleSync` for each message in turn, up to the first that ends the loop. -/
def runMessages (config : Config) (fuel : Nat) : List ProgramMessage → Act (Option Err)
  | [] => return none
  | message :: later => do
    match ← handleSync config message.toMessage fuel with
    | some err => return some err
    | none => runMessages config fuel later

structure Obliging (environment : Environment δ) : Prop where
  write : ∀ payload last state, (environment (.write .server payload last) state).1 = some none
  trigger : ∀ state, (environment (.trigger .server) state).1 = some none

theorem Obliging.reply (obliging : Obliging environment) (message : Message) (state : δ) :
    deviceReply environment message state = some none := by
  unfold deviceReply
  split
  next => exact obliging.trigger state
  next => exact obliging.write _ _ state

/-- The events of a run, message by message: the device call of each, followed by
the response of a query and by nothing otherwise. -/
def ServedInTurn (policy : ResponsePolicy σ) : Option σ → List ProgramMessage → List Event → Prop
  | _, [], events => events = []
  | scanned, message :: later, events => ∃ call response rest, events = call :: (response ++ rest) ∧
    call.operation = deviceCall message.toMessage ∧ Responds policy scanned message.toMessage response ∧
    ServedInTurn policy (scan policy scanned message.toMessage) later rest

def isDeviceCall : EnvironmentOp → Bool
  | .write _ _ _ => true
  | .trigger _ => true
  | _ => false

/-- An Error message other than the report of a failed read. A refused transition is
reported by such a message. -/
def isRefusal : EnvironmentOp → Bool
  | .send .synchronous header _ => header.type = .error && header.control != ErrorCode.responseTimeout
  | _ => false

def Plain (event : Event) : Prop := isDeviceCall event.operation = false ∧ isRefusal event.operation = false

private theorem working_plain {event : Event} (works : working event) : Plain event := by
  obtain ⟨operation, reply⟩ := event
  cases operation with
  | read | pending => exact ⟨rfl, rfl⟩
  | send channel header payload =>
    cases channel with
    | none | asynchronous | either => exact ⟨rfl, rfl⟩
    | synchronous =>
      refine ⟨rfl, ?_⟩
      simp only [working, Bool.or_eq_true, Bool.and_eq_true, decide_eq_true_eq] at works
      obtain data | ⟨-, timeout⟩ := works
      · simp only [isRefusal, data]
        rfl
      · simp [isRefusal, timeout]
  | _ => cases works

private theorem answered_plain {id : MessageID} {events : List Event} (answered : Answered id events) :
    ∀ event ∈ events, Plain event := by
  obtain ⟨work, last, rfl, works, ending⟩ := answered
  intro event member
  obtain inside | final := List.mem_append.mp member
  · exact working_plain (works event inside)
  · cases ending with
    | dataEnd payload sent =>
      cases List.mem_singleton.mp final
      rw [Plain, sent]
      exact ⟨rfl, rfl⟩
    | interrupted announced sent =>
      obtain rfl | rfl := List.mem_pair.mp final
      · rw [Plain, announced]
        exact ⟨rfl, rfl⟩
      · rw [Plain, sent]
        exact ⟨rfl, rfl⟩

theorem Responds.plain {scanned : Option σ} {message : Message} {events : List Event}
    (responds : Responds policy scanned message events) : ∀ event ∈ events, Plain event := by
  unfold Responds at responds
  split at responds
  next => exact answered_plain responds
  next => rw [responds]; exact fun _ member => nomatch member

theorem deviceCall_kind (message : Message) :
    isDeviceCall (deviceCall message) = true ∧ isRefusal (deviceCall message) = false := by
  unfold deviceCall
  split <;> exact ⟨rfl, rfl⟩

theorem ServedInTurn.ordered {messages : List ProgramMessage} {scanned : Option σ} {events : List Event}
    (served : ServedInTurn policy scanned messages events) :
    (events.map Event.operation).filter isDeviceCall = messages.map (fun message => deviceCall message.toMessage) ∧
      ∀ event ∈ events, isRefusal event.operation = false := by
  induction messages generalizing scanned events with
  | nil =>
    cases served
    exact ⟨rfl, fun _ member => nomatch member⟩
  | cons message later ih =>
    obtain ⟨call, response, rest, rfl, calls, responds, served⟩ := served
    obtain ⟨isCall, noRefusal⟩ := deviceCall_kind message.toMessage
    obtain ⟨ordered, accepted⟩ := ih served
    have silent : (response.map Event.operation).filter isDeviceCall = [] := by
      rw [List.filter_eq_nil_iff]
      intro op member
      obtain ⟨event, inside, rfl⟩ := List.mem_map.mp member
      simp [(responds.plain event inside).1]
    constructor
    · rw [List.map_cons, calls, List.filter_cons_of_pos isCall, List.map_append, List.filter_append, silent, ordered]
      rfl
    · intro event member
      obtain rfl | inside := List.mem_cons.mp member
      · rw [calls]
        exact noRefusal
      · exact (List.mem_append.mp inside).elim (fun first => (responds.plain event first).2) (accepted event)

theorem runMessages_serves (policy : ResponsePolicy σ) (accepting : Accepting environment)
    (obliging : Obliging environment) (ends : ReadsEnd environment) (profile : Profile)
    (messages : List ProgramMessage) (world : World σ δ) (wired : Wired (setup world.session))
    (paired : world.session.asyncW ≠ none) (listening : Listening world)
    (fine : ∀ message ∈ messages, WellFormed message.toMessage world.session.maxRx) :
    ∃ after events enough, (∀ fuel, enough ≤ fuel →
        exec (handler policy environment) (runMessages profile.toConfig fuel messages) world = (some none, after)) ∧
      Listening after ∧ after.trace = world.trace ++ events ∧
        ServedInTurn policy world.session.policy messages events := by
  induction messages generalizing world with
  | nil => exact ⟨world, [], 0, fun _ _ => rfl, listening, (List.append_nil _).symm, rfl⟩
  | cons message later ih =>
    obtain ⟨middle, first, ⟨-, still, call, response, calls, responds, handled⟩, handles⟩ :=
      handleSync_serves policy accepting ends profile wired paired listening (fine message List.mem_cons_self)
        (obliging.reply _ _)
    have ready : Wired (setup middle.session) := by rwa [handled.setup]
    have limit : middle.session.maxRx = world.session.maxRx := congrArg Setup.maxRx handled.setup
    have remaining : ∀ other ∈ later, WellFormed other.toMessage middle.session.maxRx := fun other member => by
      rw [limit]
      exact fine other (List.mem_cons_of_mem _ member)
    obtain ⟨after, events, second, runs, listens, traced, served⟩ :=
      ih middle ready ((congrArg Setup.asyncW handled.setup).trans_ne paired) still remaining
    refine ⟨after, call :: (response ++ events), max first second, fun fuel enough => ?_, listens, ?_, call, response,
      events, rfl, calls, responds, ?_⟩
    · rw [runMessages, exec_bind, handles fuel (le_of_max_le_left enough), andThen_some]
      exact runs fuel (le_of_max_le_right enough)
    · rw [traced, handled.trace, List.append_assoc, List.cons_append]
    · rwa [handled.policy] at served

/-- The synchronous channel end to end: the loop never stops, the device's calls are
the messages in order, and each query has all its reads and one end of response
between its own call and the next. -/
theorem synchronous_channel (policy : ResponsePolicy σ) (accepting : Accepting environment)
    (obliging : Obliging environment) (ends : ReadsEnd environment) (profile : Profile)
    (messages : List ProgramMessage) (world : World σ δ) (wired : Wired (setup world.session))
    (paired : world.session.asyncW ≠ none) (idle : world.session.tx.state = .idle)
    (fine : ∀ message ∈ messages, WellFormed message.toMessage world.session.maxRx) :
    ∃ after events enough, (∀ fuel, enough ≤ fuel →
        exec (handler policy environment) (runMessages profile.toConfig fuel messages) world = (some none, after)) ∧
      after.trace = world.trace ++ events ∧ (∀ event ∈ events, isRefusal event.operation = false) ∧
      (events.map Event.operation).filter isDeviceCall = messages.map (fun message => deviceCall message.toMessage) ∧
      ServedInTurn policy world.session.policy messages events ∧ Listening after := by
  obtain ⟨after, events, enough, runs, listening, traced, served⟩ :=
    runMessages_serves policy accepting obliging ends profile messages world wired paired (.inl idle) fine
  exact ⟨after, events, enough, runs, traced, served.ordered.2, served.ordered.1, served, listening⟩

/-- Reads from a list; once it is used up every read ends at once. -/
def replaying : Environment (List ReadResult)
  | .read _ _, [] => (some ⟨[], true, none⟩, [])
  | op, reads => scripted op reads

theorem replaying_accepting : Accepting replaying := ⟨fun _ _ _ _ => rfl, fun _ => nofun⟩

def replaying_readsEnd : ReadsEnd replaying where
  left := List.length
  read ctx size reads _ := by
    cases reads with
    | nil => exact ⟨_, rfl, nofun⟩
    | cons result later => exact ⟨_, rfl, fun _ => Nat.lt_succ_self _⟩
  send _ _ _ := Nat.le_refl _

def freshlyPaired (policy : ResponsePolicy σ) (state : δ) : World σ δ where
  shared := { session := Session.paired .standard policy 1 .version10 Version.version10_current 0 1 }
  environment := state

def splitQuery : List ProgramMessage :=
  [⟨{ header := { type := .data, parameter := 2, length := 2 }, payload := [42, 73] }, by decide⟩,
    ⟨{ header := { type := .trigger, parameter := 4 } }, by decide⟩,
    ⟨{ header := { type := .dataEnd, parameter := 6, length := 1 }, payload := [63] }, by decide⟩]

theorem synchronous_channel_splitQuery :
    ∃ after events enough, (∀ fuel, enough ≤ fuel →
        exec (handler scpiQueryPolicy replaying) (runMessages Profile.standard.toConfig fuel splitQuery)
          (freshlyPaired scpiQueryPolicy [⟨[65], false, none⟩]) = (some none, after)) ∧
      after.trace = events ∧
      (events.map Event.operation).filter isDeviceCall =
        [.write .server [42, 73] false, .trigger .server, .write .server [63] true] := by
  obtain ⟨after, events, enough, runs, traced, -, calls, -⟩ := synchronous_channel scpiQueryPolicy replaying_accepting
    ⟨fun _ _ _ => rfl, fun _ => rfl⟩ replaying_readsEnd .standard splitQuery
    (freshlyPaired scpiQueryPolicy [⟨[65], false, none⟩]) ⟨rfl, rfl, .inr rfl⟩ nofun rfl (by decide)
  exact ⟨after, events, enough, runs, traced, calls⟩

end Run

section Failure
variable {world after : World σ δ} {message : ProgramMessage} {fuel : Nat} {result : Option Err}

/-- The device takes the end of each message, and a query finds the asynchronous
writer installed. A Data message may fail. -/
def Taken (policy : ResponsePolicy σ) (environment : Environment δ) (world : World σ δ)
    (action : ProgramMessage × Nat) : Prop :=
  WellFormed action.1.toMessage world.session.maxRx →
    (action.1.header.type ≠ .data → deviceReply environment action.1.toMessage world.environment = some none) ∧
      (isQuery policy world.session.policy action.1.toMessage → world.session.asyncW ≠ none)

theorem listening_inputTx {transaction : Transaction} {header : Header} :
    ((inputTx header transaction).state = .idle ∨ (inputTx header transaction).state = .receivingInput) ↔
      header.type = .data := by
  unfold inputTx
  split
  next data => simp [data]
  next other => simp [other]

private theorem isQuery_last {scanned : Option σ} {message : Message} (query : isQuery policy scanned message) :
    message.header.type = .dataEnd ∧ classify policy (heard policy message.payload scanned) = .responseExpected := by
  simpa [isQuery] using query

theorem handleSync_unpaired (accepting : Accepting environment) (config : Config) (wired : Wired (setup world.session))
    (listening : Listening world) (fine : WellFormed message.toMessage world.session.maxRx)
    (accepted : deviceReply environment message.toMessage world.environment = some none)
    (query : isQuery policy world.session.policy message.toMessage) (unpaired : world.session.asyncW = none)
    (fuel : Nat) :
    Yields (handler policy environment) (handleSync config message.toMessage fuel) world fun _ after =>
      after.session.tx = inputTx message.header world.session.tx ∧ setup after.session = setup world.session := by
  obtain ⟨last, asked⟩ := isQuery_last query
  obtain ⟨call, before, -, tx, handled, same⟩ :=
    exec_handleSync_written policy wired listening config fine (.inr last) accepted
  have finished : ¬ message.header.type ≠ .dataEnd := fun other => other last
  rw [Yields, same fuel, if_neg finished]
  rw [← handled.policy] at asked
  refine (exec_answer_unpaired accepting config message.header
    ((congrArg Setup.asyncW handled.setup).trans unpaired) asked fuel).mono ?_
  rintro _ after ⟨kept, setup⟩
  exact ⟨kept.trans tx, setup.trans handled.setup⟩

theorem listening_iff_taken (accepting : Accepting environment) (profile : Profile)
    (wired : Wired (setup world.session)) (listening : Listening world)
    (returned : exec (handler policy environment) (handleSync profile.toConfig message.toMessage fuel) world =
      (some result, after)) :
    setup after.session = setup world.session ∧ (Listening after ↔ Taken policy environment world (message, fuel)) := by
  by_cases fine : WellFormed message.toMessage world.session.maxRx
  swap
  · have refused : Yields (handler policy environment) (handleSync profile.toConfig message.toMessage fuel) world _ :=
      handleSync_refused accepting wired profile.toConfig fine fuel
    obtain ⟨_, _, same, kept⟩ := refused
    cases same.symm.trans returned
    rw [kept, Listening, kept]
    exact ⟨rfl, fun _ wellFormed => absurd wellFormed fine, fun _ => listening⟩
  cases reply : deviceReply environment message.toMessage world.environment with
  | none =>
    have silent := handleSync_unanswered policy wired listening profile.toConfig fine reply fuel
    rw [returned] at silent
    cases silent
  | some err =>
    cases err with
    | some err =>
      have rejected : Yields (handler policy environment) (handleSync profile.toConfig message.toMessage fuel) world _ :=
        handleSync_rejected policy wired listening profile.toConfig fine accepting reply fuel
      obtain ⟨_, _, same, tx, kept⟩ := rejected
      cases same.symm.trans returned
      refine ⟨kept, ?_⟩
      rw [Listening, tx, listening_inputTx]
      constructor
      · intro data _
        exact ⟨fun other => absurd data other, fun query => absurd ((isQuery_last query).1.symm.trans data) (by decide)⟩
      · intro taken
        by_contra other
        cases reply.symm.trans ((taken fine).1 other)
    | none =>
      by_cases paired : isQuery policy world.session.policy message.toMessage → world.session.asyncW ≠ none
      · have served := served_of_returned accepting profile wired listening fine reply paired returned
        obtain ⟨call, later, -, -, handled⟩ := served.events
        exact ⟨handled.setup, fun _ _ => ⟨fun _ => reply, paired⟩, fun _ => served.listening⟩
      · obtain ⟨query, unpaired⟩ : isQuery policy world.session.policy message.toMessage ∧
        world.session.asyncW = none := by
          simpa using paired
        have failed : Yields (handler policy environment) (handleSync profile.toConfig message.toMessage fuel) world _ :=
          handleSync_unpaired accepting profile.toConfig wired listening fine reply query unpaired fuel
        obtain ⟨_, _, same, tx, kept⟩ := failed
        cases same.symm.trans returned
        refine ⟨kept, ?_⟩
        rw [Listening, tx, listening_inputTx]
        constructor
        · intro data
          exact absurd ((isQuery_last query).1.symm.trans data) (by decide)
        · intro taken
          exact absurd unpaired ((taken fine).2 query)

/-- One message of a run: enabled when handling it returns and the loop goes on. -/
def syncStep (policy : ResponsePolicy σ) (environment : Environment δ) (config : Config) (world : World σ δ)
    (action : ProgramMessage × Nat) : Option (World σ δ) :=
  match exec (handler policy environment) (handleSync config action.1.toMessage action.2) world with
  | (some none, after) => some after
  | _ => none

private theorem syncStep_returned {config : Config} {action : ProgramMessage × Nat}
    (moved : syncStep policy environment config world action = some after) :
    exec (handler policy environment) (handleSync config action.1.toMessage action.2) world = (some none, after) := by
  unfold syncStep at moved
  split at moved
  next same => cases moved; exact same
  next => cases moved

/-- The transaction listens, and every well-formed message reaches the device. -/
def Usable (policy : ResponsePolicy σ) (environment : Environment δ) (config : Config) (world : World σ δ) : Prop :=
  Listening world ∧ ∀ (message : ProgramMessage) (fuel : Nat), WellFormed message.toMessage world.session.maxRx →
    ∃ call later, call.operation = deviceCall message.toMessage ∧
      (exec (handler policy environment) (handleSync config message.toMessage fuel) world).2.trace =
        world.trace ++ call :: later

/-- A session stays usable along a run exactly when every message of the run was
taken: only a Data message may fail at the device. -/
theorem usable_iff_taken (accepting : Accepting environment) (profile : Profile) (world : World σ δ)
    (wired : Wired (setup world.session)) (listening : Listening world) (actions : List (ProgramMessage × Nat)) :
    Always (syncStep policy environment profile.toConfig) (Usable policy environment profile.toConfig) actions world ↔
      Throughout (syncStep policy environment profile.toConfig) (Taken policy environment) actions world := by
  have kept : ∀ state action after, Wired (setup state.session) → Listening state →
      syncStep policy environment profile.toConfig state action = some after →
      Wired (setup after.session) ∧ (Listening after ↔ Taken policy environment state action) := by
    intro state action after wired listening moved
    obtain ⟨kept, same⟩ := listening_iff_taken accepting profile wired listening (syncStep_returned moved)
    exact ⟨by rwa [kept], same⟩
  constructor
  · exact throughout_of_always (fun _ _ _ wired usable moved => (kept _ _ _ wired usable.1 moved).1)
      (fun _ _ _ wired usable moved next => (kept _ _ _ wired usable.1 moved).2.mp next.1) wired
  · have usable : ∀ state : World σ δ, Wired (setup state.session) ∧ Listening state →
        Usable policy environment profile.toConfig state := by
      rintro state ⟨wired, listening⟩
      exact ⟨listening, fun message fuel fine => handleSync_reaches policy wired listening _ fine fuel⟩
    refine always_of_invariant usable ?_ ⟨wired, listening⟩
    rintro state action after ⟨wired, listening⟩ taken moved
    obtain ⟨wired, same⟩ := kept state action after wired listening moved
    exact ⟨wired, same.mpr taken⟩

/-- A device that fails every Write and accepts everything else. -/
def unwritable : Environment (List ReadResult)
  | .write _ _ _, reads => (some (some (.other [] [])), reads)
  | op, reads => scripted op reads

def chunk : ProgramMessage := ⟨{ header := { type := .data, parameter := 2, length := 1 }, payload := [42] }, by decide⟩

def lastChunk : ProgramMessage :=
  ⟨{ header := { type := .dataEnd, parameter := 2, length := 1 }, payload := [42] }, by decide⟩

/-- A Data message that fails at the device does no harm. -/
theorem usable_after_failed_chunk :
    Always (syncStep alwaysReadPolicy unwritable Profile.standard.toConfig)
      (Usable alwaysReadPolicy unwritable Profile.standard.toConfig) [(chunk, 0)]
      (freshlyPaired alwaysReadPolicy []) := by
  refine (usable_iff_taken ⟨fun _ _ _ _ => rfl, fun _ => Option.some_ne_none _⟩ .standard (freshlyPaired alwaysReadPolicy [])
    ⟨rfl, rfl, .inr rfl⟩ (.inl rfl) [(chunk, 0)]).mpr ?_
  exact fun _ _ => ⟨fun _ => ⟨fun other => absurd rfl other, fun _ => Option.some_ne_none _⟩, trivial⟩

/-- The device fails the Write of a DataEnd: the loop goes on, the transaction is
left complete, and the next message is refused instead of reaching the device. -/
theorem stranded_after_failed_end :
    ∃ world,
      finish (syncStep alwaysReadPolicy unwritable Profile.standard.toConfig) [(lastChunk, 0)]
          (freshlyPaired alwaysReadPolicy []) = some world ∧
        world.session.tx.state = .inputComplete ∧
        (exec (handler alwaysReadPolicy unwritable) (handleSync Profile.standard.toConfig lastChunk.toMessage 0)
          world).2.trace =
          world.trace ++ [⟨.send .synchronous
            { type := .error
              control := ErrorCode.handshakeTimeout
              length := UInt64.ofNat Sentinel.invalidTransition.text.length } Sentinel.invalidTransition.text, some none⟩] := by
  refine ⟨_, rfl, rfl, ?_⟩
  rfl

end Failure

end Hislip.Proofs.SyncRuns
