import Hislip.Chronicle
import Hislip.Proofs.Footprint
import Hislip.Server.Channels

/-! The server with all its calls at once, and the way that one call takes. What `Serve`
does between its first message and its return is a path through a few places; the loops
stay in one place each and keep to a discipline of their own there. -/

namespace Hislip.Proofs.Serving
open Hislip.Server Hislip.Threads Program Footprint

inductive Call (limit : UInt64) where
  | serve (source : Source) (stream : Stream) (fuel : Nat) (buffers : List (ReadBuffer limit)) (closing : List Turn)
  | closeAll

def Call.program (profile : Profile) : Call profile.maxRxPayload → ServerProgram (Option Err)
  | .serve source stream fuel buffers closing => ServerProgram.serve profile source stream fuel buffers closing
  | .closeAll => ServerProgram.closeAll

abbrev Calls (profile : Profile) (σ : Type) : Type :=
  Chronicle (Call profile.maxRxPayload) (Registry σ) ServerOp.Reply (Option Err)

def Calls.step {profile : Profile} {σ : Type} (policy : ResponsePolicy σ) :
    Calls profile σ → Move (Call profile.maxRxPayload) Outside → Option (Calls profile σ) :=
  Chronicle.step (fun op outside => op.apply profile policy outside) (Call.program profile)

/-- Where a call stands. A call that serves a connection starts with its stream and the channel
that its first message asks for. `opened` to `closed` is the way of a synchronous channel,
`found` to `attending` that of an asynchronous one, and `sweeping` and `swept` that of
`CloseAll`. A place also tells what is left to do there: the stream of the connection is not
closed yet, or what was taken out of a session, or the sessions that are to be closed. -/
inductive Place where
  | fresh (channel : Channel) (stream : Stream) | refused (stream : Option Stream)
  | opened (session : Nat) | greeted (session : Nat) | equipped (session : Nat) | serving (session : Nat)
  | leaving (session : Nat) | released (session : Nat) | unregistered (session : Nat)
  | closed (session : Nat) (operation : Option Nat) (streams : List Stream)
  | found (session : Nat) (stream : Stream) | joined (session : Nat) | stranded (session : Nat)
  | welcomed (session : Nat) | furnished (session : Nat) | attending (session : Nat)
  | sweeping | swept (sessions left : List Nat) (operation : Option Nat) (streams : List Stream)

def openingChannel : Opening → Channel
  | .sync _ _ _ => .synchronous
  | .async _ _ => .asynchronous
  | _ => .none

def fatalCodes : List FatalErrorCode := [1, 2, 3, 4]

namespace Place

def looping : Place → Option Nat
  | .serving session | .attending session => some session
  | _ => none

def next (place : Place) : (op : ServerOp) → op.Reply → Place
  | .allocateSession _ _, .ok (session, _) => .opened session
  | .lookup _, some session =>
    match place with
    | .fresh _ stream => .found session stream
    | place => place
  | .takeAll, sessions => .swept sessions sessions none []
  | .releaseAll session, _ =>
    match place with
    | .swept sessions left operation streams => .swept sessions left operation streams
    | _ => .released session
  | .unregister session, _ => .unregistered session
  | .session _ op, reply =>
    match place, op, reply with
    | .found session _, .attachAsync _, none => .joined session
    | .found _ stream, .attachAsync _, some _ => .fresh .asynchronous stream
    | .greeted session, .setSyncWriter _, _ => .equipped session
    | .equipped session, .setSyncPending, _ => .serving session
    | .welcomed session, .setAsyncWriter _, _ => .furnished session
    | .furnished session, .maxRx, _ => .attending session
    | .unregistered session, .close, (streams, operation) => .closed session operation streams
    | .swept sessions left _ _, .close, (streams, operation) => .swept sessions left.tail operation streams
    | place, _, _ => place
  | .cancel _, _ =>
    match place with
    | .closed session _ streams => .closed session none streams
    | .swept sessions left _ streams => .swept sessions left none streams
    | place => place
  | .closeStream _, _ =>
    match place with
    | .fresh _ _ | .refused _ => .refused none
    | .closed session operation streams => .closed session operation streams.tail
    | .swept sessions left operation streams => .swept sessions left operation streams.tail
    | place => place
  | .environment (.send _ _ _), reply =>
    match place, reply with
    | .fresh _ stream, _ => .refused (some stream)
    | .opened session, none => .greeted session
    | .opened session, some _ => .leaving session
    | .joined session, none => .welcomed session
    | .joined session, some _ => .stranded session
    | place, _ => place
  | _, _ => place

def greeting (header : Header) (type : MessageType) : Prop := header.type = type ∧ header.control = 0 ∧ header.length = 0

inductive Step : Place → (op : ServerOp) → op.Reply → Place → Prop
  | allocates {version stream session id} :
    Step (.fresh .synchronous stream) (.allocateSession version stream) (Except.ok (session, id)) (.opened session)
  | allocatesNone {version stream err} : Step (.fresh .synchronous stream) (.allocateSession version stream)
      (Except.error err) (.fresh .synchronous stream)
  | finds {id stream session} : Step (.fresh .asynchronous stream) (.lookup id) (some session) (.found session stream)
  | findsNone {id stream} : Step (.fresh .asynchronous stream) (.lookup id) none (.fresh .asynchronous stream)
  | attaches {session stream} :
    Step (.found session stream) (.session session (.attachAsync stream)) none (.joined session)
  | attachesNone {session stream err} :
    Step (.found session stream) (.session session (.attachAsync stream)) (some err) (.fresh .asynchronous stream)
  | refuses {asked stream header payload reply} (typed : header.type = .fatalError)
    (known : header.control ∈ fatalCodes) (agrees : header.length = UInt64.ofNat payload.length) :
    Step (.fresh asked stream) (.environment (.send .synchronous header payload)) reply (.refused (some stream))
  | greets {session header} (greets : greeting header .initializeResponse) :
    Step (.opened session) (.environment (.send .synchronous header [])) none (.greeted session)
  | greetsNone {session header err} (greets : greeting header .initializeResponse) :
    Step (.opened session) (.environment (.send .synchronous header [])) (some err) (.leaving session)
  | welcomes {session header} (greets : greeting header .asyncInitializeResponse) :
    Step (.joined session) (.environment (.send .asynchronous header [])) none (.welcomed session)
  | welcomesNone {session header err} (greets : greeting header .asyncInitializeResponse) :
    Step (.joined session) (.environment (.send .asynchronous header [])) (some err) (.stranded session)
  | countsRefused {counter reply} : Step (.refused none) (.count counter) reply (.refused none)
  | countsGreeted {session counter reply} : Step (.greeted session) (.count counter) reply (.greeted session)
  | equips {session reply} :
    Step (.greeted session) (.session session (.setSyncWriter ⟨.synchronous⟩)) reply (.equipped session)
  | sizes {session reply} : Step (.equipped session) (.session session .maxRx) reply (.equipped session)
  | serves {session reply} : Step (.equipped session) (.session session .setSyncPending) reply (.serving session)
  | furnishes {session reply} :
    Step (.welcomed session) (.session session (.setAsyncWriter ⟨.asynchronous⟩)) reply (.furnished session)
  | attends {session reply} : Step (.furnished session) (.session session .maxRx) reply (.attending session)
  | endsServing {session reply} : Step (.serving session) (.releaseAll session) reply (.released session)
  | endsLeaving {session reply} : Step (.leaving session) (.releaseAll session) reply (.released session)
  | unregisters {session reply} : Step (.released session) (.unregister session) reply (.unregistered session)
  | closesOne {session operation streams} :
    Step (.unregistered session) (.session session .close) (streams, operation) (.closed session operation streams)
  | takesAll {sessions} : Step .sweeping .takeAll sessions (.swept sessions sessions none [])
  | releases {session sessions left reply} (inside : session ∈ sessions) :
    Step (.swept sessions (session :: left) none []) (.releaseAll session) reply (.swept sessions (session :: left) none [])
  | closesNext {session sessions left operation streams} (inside : session ∈ sessions) :
    Step (.swept sessions (session :: left) none []) (.session session .close) (streams, operation)
      (.swept sessions left operation streams)
  | cancelsOne {session number streams reply} :
    Step (.closed session (some number) streams) (.cancel number) reply (.closed session none streams)
  | cancelsNext {sessions left number streams reply} :
    Step (.swept sessions left (some number) streams) (.cancel number) reply (.swept sessions left none streams)
  | shutsFresh {asked stream reply} : Step (.fresh asked stream) (.closeStream stream) reply (.refused none)
  | shutsRefused {stream reply} : Step (.refused (some stream)) (.closeStream stream) reply (.refused none)
  | shutsOne {session stream rest reply} :
    Step (.closed session none (stream :: rest)) (.closeStream stream) reply (.closed session none rest)
  | shutsNext {sessions left stream rest reply} :
    Step (.swept sessions left none (stream :: rest)) (.closeStream stream) reply (.swept sessions left none rest)

/-- Whether an operation that belongs to no message is in place. Only before its first
message a call may wait for ever. -/
structure Allows (place : Place) (op : ServerOp) : Prop where
  waits : op = .environment .exhausted → ∃ channel stream, place = .fresh channel stream
  step : ∀ reply, place.Step op reply (place.next op reply)

end Place

section Conduct
variable {Ψ : Type}

def loopOp : ServerOp → Option Op
  | .session _ op => some (.shared (.session op))
  | .locks op => some (.shared (.locks op))
  | .withCancel => some (.shared .withCancel)
  | .cancel operation => some (.shared (.cancel operation))
  | .count counter => some (.shared (.count counter))
  | .environment op => some (.environment op)
  | _ => none

/-- An operation on a session is one of a loop only on the session of that loop. -/
def concerns (session : Nat) : ServerOp → Prop
  | .session number _ => number = session
  | _ => True

def Handles (inner : Discipline Op Op.Reply Ψ) (session : Nat) (phase : Ψ) (op : ServerOp) : Prop :=
  concerns session op ∧ ∃ loop, loopOp op = some loop ∧ kind loop ≠ .lifecycle ∧ inner.allowed phase loop

def expects (inner : Discipline Op Op.Reply Ψ) (phase : Ψ) : (op : ServerOp) → op.Reply → Prop
  | .session _ op, reply => inner.possible phase (.shared (.session op)) reply
  | .locks op, reply => inner.possible phase (.shared (.locks op)) reply
  | .withCancel, reply => inner.possible phase (.shared .withCancel) reply
  | .cancel operation, reply => inner.possible phase (.shared (.cancel operation)) reply
  | .count counter, reply => inner.possible phase (.shared (.count counter)) reply
  | .environment op, reply => inner.possible phase (.environment op) reply
  | _, _ => True

def moves (inner : Discipline Op Op.Reply Ψ) (phase : Ψ) : (op : ServerOp) → op.Reply → Ψ
  | .session _ op, reply => inner.advance phase (.shared (.session op)) reply
  | .locks op, reply => inner.advance phase (.shared (.locks op)) reply
  | .withCancel, reply => inner.advance phase (.shared .withCancel) reply
  | .cancel operation, reply => inner.advance phase (.shared (.cancel operation)) reply
  | .count counter, reply => inner.advance phase (.shared (.count counter)) reply
  | .environment op, reply => inner.advance phase (.environment op) reply
  | _, _ => phase

/-- A session is refused for want of room only, and a second stream because it is one. -/
def truthful : (op : ServerOp) → op.Reply → Prop
  | .allocateSession _ _, .error err => err = Sentinel.maxClients
  | .session _ (.attachAsync _), some err => err = Sentinel.invalidSession
  | _, _ => True

/-- A call is in a place and, while it handles messages there, in a phase of the loops'
discipline. -/
def conduct (inner : Discipline Op Op.Reply Ψ) : Discipline ServerOp ServerOp.Reply (Place × Ψ) where
  allowed phase op := (∃ session, phase.1.looping = some session ∧ Handles inner session phase.2 op) ∨ phase.1.Allows op
  possible phase op reply := truthful op reply ∧ (phase.1.looping.isSome → expects inner phase.2 op reply)
  advance phase op reply :=
    (phase.1.next op reply, if phase.1.looping.isSome then moves inner phase.2 op reply else phase.2)

/-- The discipline of the loops, with what it asks before a message, and what holds when a
loop ends with a result. -/
structure Rules (profile : Profile) (inner : Discipline Op Op.Reply Ψ) (listens attends : List Turn → Ψ → Prop)
    (ends : Option Err → Ψ → Prop) : Prop where
  sync : ∀ message rest phase fuel, listens (.message message :: rest) phase →
    Follows inner (fun result last => result.elim (listens rest last) fun err => ends (some err) last)
      (handleSync profile.toConfig message fuel) phase
  async : ∀ message rest phase fuel, attends (.message message :: rest) phase →
    Follows inner (fun result last => result.elim (attends rest last) fun err => ends (some err) last)
      (handleAsync profile.toConfig message fuel) phase
  ending : ∀ turns phase, listens turns phase ∨ attends turns phase → ∀ result, ends result phase
  waits : ∀ turns phase, listens turns phase ∨ attends turns phase → inner.allowed phase (.environment .exhausted)

def Returns (ends : Option Err → Ψ → Prop) (result : Option Err) (phase : Place × Ψ) : Prop :=
  match phase.1 with
  | .refused none | .stranded _ => result ≠ none
  | .closed _ none [] | .attending _ => ends result phase.2
  | .swept _ [] none [] => True
  | _ => False

theorem returns_cases {ends : Option Err → Ψ → Prop} {result : Option Err} {place : Place} {phase : Ψ}
    (returns : Returns ends result (place, phase)) :
    (place = .refused none ∨ ∃ session, place = .stranded session) ∧ result ≠ none ∨
      (∃ session, place = .closed session none [] ∨ place = .attending session) ∧ ends result phase ∨
        ∃ sessions, place = .swept sessions [] none [] := by
  unfold Returns at returns
  split at returns
  next same => exact .inl ⟨.inl same, returns⟩
  next session same => exact .inl ⟨.inr ⟨session, same⟩, returns⟩
  next session same => exact .inr (.inl ⟨⟨session, .inl same⟩, returns⟩)
  next session same => exact .inr (.inl ⟨⟨session, .inr same⟩, returns⟩)
  next sessions same => exact .inr (.inr ⟨sessions, same⟩)
  next => cases returns

end Conduct

section Walk
variable {α Ψ : Type} {inner : Discipline Op Op.Reply Ψ} {place : Place} {session : Nat} {phase : Ψ}
  {post : α → Place × Ψ → Prop} {op : ServerOp}

theorem conduct_step {next : op.Reply → ServerProgram α} (apart : place.looping = none) (allowed : place.Allows op)
    (resume : ∀ reply, truthful op reply → Follows (conduct inner) post (next reply) (place.next op reply, phase)) :
    Follows (conduct inner) post (ServerProgram.perform op >>= next) (place, phase) := by
  refine Follows.step (.inr allowed) fun reply possible => ?_
  simp only [conduct, apart, Option.isSome_none, Bool.false_eq_true, if_false]
  exact resume reply possible.1

theorem next_looping (loops : place.looping = some session) (op : Op) (reply : (ServerOp.ofLoop session op).Reply) :
    place.next (.ofLoop session op) reply = place := by
  cases op with
  | shared op =>
    cases op with
    | session op | cancel operation => cases place <;> first | rfl | cases loops
    | _ => rfl
  | environment op =>
    cases op with
    | send channel header payload => cases place <;> first | rfl | cases loops
    | _ => rfl

/-- An operation either is one of the loop and leaves the call in its place, or it belongs to no
message and leaves the loop's phase. -/
theorem advance_cases (allowed : (conduct inner).allowed (place, phase) op) (reply : op.Reply) :
    (∃ session, place.looping = some session ∧ Handles inner session phase op ∧
      (conduct inner).advance (place, phase) op reply = (place, moves inner phase op reply)) ∨
    ∃ next, place.Step op reply next ∧ (conduct inner).advance (place, phase) op reply = (next, phase) := by
  rcases allowed with ⟨session, loops, handles⟩ | allows
  · refine .inl ⟨session, loops, handles, ?_⟩
    obtain ⟨concerned, loop, performs, -⟩ := handles
    have stays : place.next op reply = place := by
      cases op with
      | session number op =>
        obtain rfl : number = session := concerned
        exact next_looping loops (.shared (.session op)) reply
      | environment op => exact next_looping loops (.environment op) reply
      | cancel operation => exact next_looping loops (.shared (.cancel operation)) reply
      | allocateSession _ _ | lookup _ | unregister _ | takeAll | releaseAll _ | closeStream _ => cases performs
      | _ => rfl
    simp only [conduct, loops, stays, Option.isSome_some, if_true]
  · have step := allows.step reply
    refine .inr ⟨_, step, Prod.ext rfl ?_⟩
    generalize place.next op reply = next at step
    cases step <;> rfl

def loopOn : Place → Bool
  | .serving _ | .attending _ | .released _ | .unregistered _ | .closed _ _ _ => true
  | _ => false

theorem loopOn_looping (loops : place.looping = some session) : loopOn place = true := by
  cases place <;> first | rfl | cases loops

theorem loopOn_next {reply : op.Reply} {next : Place} (within : loopOn place = true) (step : place.Step op reply next) :
    loopOn next = true := by
  cases step <;> first | rfl | cases within

theorem ofLoop_conducts {program : Act α} {goal : α → Ψ → Prop} (loops : place.looping = some session)
    (lasting : Avoids lifecycle program) (follows : Follows inner goal program phase) :
    Follows (conduct inner) (fun value last => last.1 = place ∧ goal value last.2)
      (ServerProgram.ofLoop session program) (place, phase) := by
  induction program generalizing phase with
  | pure value => exact ⟨rfl, follows⟩
  | request op next ih =>
    have plain : kind op ≠ .lifecycle := by
      simpa only [(kinds_eq _).2.2, decide_eq_false_iff_not] using lasting.1
    have handles : Handles inner session phase (.ofLoop session op) := by
      refine ⟨?_, op, ?_, plain, follows.1⟩
      · cases op with
        | shared op => cases op <;> trivial
        | environment op => trivial
      · cases op with
        | shared op => cases op <;> rfl
        | environment op => rfl
    refine ⟨.inl ⟨session, loops, handles⟩, fun reply possible => ?_⟩
    have expected : inner.possible phase op (ServerOp.loopReply session op reply) := by
      have known := possible.2 (by rw [loops]; rfl)
      cases op with
      | shared op => cases op <;> exact known
      | environment op => exact known
    have moved : moves inner phase (.ofLoop session op) reply =
        inner.advance phase op (ServerOp.loopReply session op reply) := by
      cases op with
      | shared op => cases op <;> rfl
      | environment op => rfl
    have led : (conduct inner).advance (place, phase) (.ofLoop session op) reply =
        (place, inner.advance phase op (ServerOp.loopReply session op reply)) := by
      simp only [conduct, loops, Option.isSome_some, if_true, next_looping loops, moved]
    rw [led]
    exact ih _ (lasting.2 _ trivial) (follows.2 _ expected)

structure Emptying (with_ : Option Nat → List Stream → Place) : Prop where
  apart : ∀ operation streams, (with_ operation streams).looping = none
  cancels : ∀ operation streams, (with_ (some operation) streams).Allows (.cancel operation)
  cancelled : ∀ operation streams reply, (with_ (some operation) streams).next (.cancel operation) reply = with_ none streams
  closes : ∀ stream rest, (with_ none (stream :: rest)).Allows (.closeStream stream)
  closed : ∀ stream rest reply, (with_ none (stream :: rest)).next (.closeStream stream) reply = with_ none rest

theorem emptying_closed (session : Nat) : Emptying (.closed session) where
  apart _ _ := rfl
  cancels _ _ := ⟨nofun, fun _ => .cancelsOne⟩
  cancelled _ _ _ := rfl
  closes _ _ := ⟨nofun, fun _ => .shutsOne⟩
  closed _ _ _ := rfl

theorem emptying_swept (sessions left : List Nat) : Emptying (.swept sessions left) where
  apart _ _ := rfl
  cancels _ _ := ⟨nofun, fun _ => .cancelsNext⟩
  cancelled _ _ _ := rfl
  closes _ _ := ⟨nofun, fun _ => .shutsNext⟩
  closed _ _ _ := rfl

variable {with_ : Option Nat → List Stream → Place} {header : Header} (profile : Profile)

theorem closeStreams_conducts (emptying : Emptying with_) (streams : List Stream) (first : Option Err) :
    Follows (conduct inner) (fun _ last => last = (with_ none [], phase)) (ServerProgram.closeStreams streams first)
      (with_ none streams, phase) := by
  induction streams generalizing first with
  | nil => exact rfl
  | cons stream rest ih =>
    refine conduct_step (emptying.apart _ _) (emptying.closes stream rest) fun reply _ => ?_
    rw [emptying.closed]
    exact ih _

theorem close_conducts {before : Place} (tends : before.Allows (.session session .close)) (apart : before.looping = none)
    (emptying : Emptying with_)
    (closes : ∀ streams operation, before.next (.session session .close) (streams, operation) = with_ operation streams) :
    Follows (conduct inner) (fun _ last => last = (with_ none [], phase)) (ServerProgram.close session) (before, phase) := by
  refine conduct_step apart tends fun (taken : List Stream × Option Nat) _ => ?_
  obtain ⟨streams, operation⟩ := taken
  rw [closes]
  cases operation with
  | none => exact closeStreams_conducts emptying streams none
  | some operation =>
    refine conduct_step (emptying.apart _ _) (emptying.cancels operation streams) fun reply _ => ?_
    rw [emptying.cancelled]
    exact closeStreams_conducts emptying streams none

theorem removeSession_conducts (from_ : place = .serving session ∨ place = .leaving session) :
    Follows (conduct inner) (fun _ last => last = (.closed session none [], phase)) (ServerProgram.removeSession session)
      (place, phase) := by
  have rest : Follows (conduct inner) (fun _ last => last = (.closed session none [], phase))
      (ServerProgram.perform (.unregister session) >>= fun _ => ServerProgram.close session)
      (.released session, phase) :=
    conduct_step rfl ⟨nofun, fun _ => .unregisters⟩ fun _ _ =>
      close_conducts ⟨nofun, fun _ => .closesOne⟩ rfl (emptying_closed session) fun _ _ => rfl
  obtain rfl | rfl := from_
  · exact Follows.step (.inr ⟨nofun, fun _ => .endsServing⟩) fun _ _ => rest
  · exact Follows.step (.inr ⟨nofun, fun _ => .endsLeaving⟩) fun _ _ => rest

theorem closeEach_conducts (sessions all : List Nat) (first : Option Err) (among : sessions ⊆ all) :
    Follows (conduct inner) (fun _ last => last = (.swept all [] none [], phase)) (ServerProgram.closeEach sessions first)
      (.swept all sessions none [], phase) := by
  induction sessions generalizing first with
  | nil => exact rfl
  | cons session rest ih =>
    have member : session ∈ all := among List.mem_cons_self
    refine conduct_step rfl ⟨nofun, fun _ => .releases member⟩ fun _ _ => ?_
    refine Follows.bind (close_conducts ⟨nofun, fun _ => .closesNext member⟩ rfl (emptying_swept all rest) fun _ _ => rfl)
      fun _ last same => ?_
    rw [same]
    exact ih _ fun other inside => among (List.mem_cons_of_mem _ inside)

theorem closeAll_conducts {ends : Option Err → Ψ → Prop} :
    Follows (conduct inner) (Returns ends) ServerProgram.closeAll (.sweeping, phase) := by
  refine conduct_step rfl ⟨nofun, fun _ => .takesAll⟩ fun (all : List Nat) _ => ?_
  refine (closeEach_conducts all all none (List.Subset.refl all)).mono fun _ last same => ?_
  rw [same]
  trivial

theorem write_conducts {channel : Channel} {payload : Bytes} {next : Option Err → ServerProgram α}
    (legal : header.type.legalOn channel) (plain : header.length = 0) (apart : place.looping = none)
    (speaks : place.Allows (.environment (.send channel { header with length := UInt64.ofNat payload.length } payload)))
    (resume : ∀ reply, Follows (conduct inner) post (next reply) (place.next (.environment
      (.send channel { header with length := UInt64.ofNat payload.length } payload)) reply, phase)) :
    Follows (conduct inner) post (ServerProgram.write ⟨channel⟩ header payload >>= next) (place, phase) := by
  rw [ServerProgram.write, MessageWriter.write_eq legal (.inl plain)]
  exact conduct_step apart speaks fun reply _ => resume reply

theorem refuse_conducts {asked : Channel} {stream : Stream} {code : FatalErrorCode} {text : Bytes}
    {next : Option Err → ServerProgram α} (known : code ∈ fatalCodes)
    (resume : ∀ reply, Follows (conduct inner) post (next reply) (.refused none, phase)) :
    Follows (conduct inner) post
      (ServerProgram.write ⟨.synchronous⟩ { type := .fatalError, control := code } text >>= fun _ =>
        ServerProgram.perform (.closeStream stream) >>= next)
      (.fresh asked stream, phase) :=
  write_conducts rfl rfl rfl ⟨nofun, fun _ => .refuses rfl known rfl⟩ fun _ =>
    conduct_step rfl ⟨nofun, fun _ => .shutsRefused⟩ fun reply _ => resume reply

/-- An initialization fails with an error that has a code of its own, or it leads to the next
place and its response. -/
def Opens (asked : Channel) (stream : Stream) (type : MessageType) (leads : Nat → Place) (phase : Ψ)
    (result : Except Err (Nat × Header)) (last : Place × Ψ) : Prop :=
  match result with
  | .error err => (wireErrorFor err).fatalCode ∈ fatalCodes ∧ last = (.fresh asked stream, phase)
  | .ok (session, response) =>
    last = (leads session, phase) ∧ response.type = type ∧ response.control = 0 ∧ response.length = 0

theorem initializeRequest_conducts (subAddress : Bytes) (stream : Stream) (first : header.type = .initializeRequest) :
    Follows (conduct inner) (Opens .synchronous stream .initializeResponse .opened phase)
      (ServerProgram.initializeRequest profile header subAddress stream) (.fresh .synchronous stream, phase) := by
  refine Follows.ite (fun other => absurd first other) fun _ => Follows.ite (fun illegal => ?_) fun _ =>
    Follows.ite (fun _ => ⟨by decide, rfl⟩) fun _ => ?_
  · rw [first] at illegal
    exact absurd rfl illegal
  split
  next current =>
    have allows (version : SessionVersion) : (Place.fresh .synchronous stream).Allows (.allocateSession version stream) := by
      refine ⟨nofun, fun reply => ?_⟩
      cases reply with
      | error err => exact .allocatesNone
      | ok made => exact .allocates
    refine conduct_step rfl (allows _) fun (allocated : Except Err (Nat × UInt16)) answers => ?_
    cases allocated with
    | error err =>
      obtain rfl : err = Sentinel.maxClients := answers
      exact ⟨by decide, rfl⟩
    | ok made =>
      refine ⟨rfl, rfl, ?_, rfl⟩
      simp only [Config.preferOverlapBit, profile.no_overlap, Bool.false_eq_true, if_false]
  next => exact ⟨by decide, rfl⟩

theorem asyncInitialize_conducts (stream : Stream) (first : header.type = .asyncInitialize) :
    Follows (conduct inner) (Opens .asynchronous stream .asyncInitializeResponse .joined phase)
      (ServerProgram.asyncInitialize profile header stream) (.fresh .asynchronous stream, phase) := by
  refine Follows.ite (fun other => absurd first other) fun _ => Follows.ite (fun illegal => ?_) fun _ => ?_
  · rw [first] at illegal
    exact absurd rfl illegal
  have finds : (Place.fresh .asynchronous stream).Allows (.lookup header.parameter.toUInt16) := by
    refine ⟨nofun, fun reply => ?_⟩
    cases reply with
    | none => exact .findsNone
    | some session => exact .finds
  have attaches (session : Nat) : (Place.found session stream).Allows (.session session (.attachAsync stream)) := by
    refine ⟨nofun, fun reply => ?_⟩
    cases reply with
    | none => exact .attaches
    | some err => exact .attachesNone
  refine conduct_step rfl finds fun (named : Option Nat) _ => ?_
  cases named with
  | none => exact ⟨by decide, rfl⟩
  | some session =>
    refine conduct_step rfl (attaches session) fun (refused : Option Err) answers => ?_
    cases refused with
    | some err =>
      obtain rfl : err = Sentinel.invalidSession := answers
      exact ⟨by decide, rfl⟩
    | none => exact ⟨rfl, rfl, rfl, rfl⟩

end Walk

section Loops
variable {Ψ : Type} {profile : Profile} {inner : Discipline Op Op.Reply Ψ} {listens attends : List Turn → Ψ → Prop}
  {ends : Option Err → Ψ → Prop} {place : Place} {session : Nat} {phase : Ψ} {header : Header} {source rest : Source}

/-- A loop that keeps to its discipline message by message keeps to it to its end. -/
theorem runLoop_conducts {handle : Message → Act (Option Err)} {between : List Turn → Ψ → Prop}
    (loops : place.looping = some session) (lasting : ∀ message, Avoids lifecycle (handle message))
    (handles : ∀ message rest phase, between (.message message :: rest) phase →
      Follows inner (fun result last => result.elim (between rest last) fun err => ends (some err) last)
      (handle message) phase)
    (ending : ∀ turns phase, between turns phase → ∀ result, ends result phase)
    (waits : ∀ turns phase, between turns phase → inner.allowed phase (.environment .exhausted)) (turns : List Turn)
    (begins : between turns phase) :
    Follows (conduct inner) (fun result last => last.1 = place ∧ ends result last.2)
      (ServerProgram.runLoop (ServerProgram.takeTurn fun message => .ofLoop session (handle message)) turns)
      (place, phase) := by
  induction turns generalizing phase with
  | nil =>
    have waiting : Handles inner session phase (.environment .exhausted) :=
      ⟨trivial, _, rfl, Kind.noConfusion, waits _ _ begins⟩
    exact ⟨.inl ⟨session, loops, waiting⟩, fun reply => reply.elim⟩
  | cons turn rest ih =>
    cases turn with
    | ending err => exact ⟨rfl, ending _ _ begins err⟩
    | message message =>
      have once := ofLoop_conducts loops (lasting message) (handles message rest phase begins)
      rw [ServerProgram.runLoop, ServerProgram.takeTurn, bind_assoc]
      refine Follows.bind once fun result last done => ?_
      obtain ⟨stays, goes⟩ := done
      obtain ⟨_, last⟩ := last
      cases stays
      cases result with
      | none => exact ih goes
      | some err => exact ⟨rfl, goes⟩

theorem opening_sync {limit : UInt64} {subAddress : Except Err Bytes}
    (first : opening limit source = .sync header subAddress rest) : header.type = .initializeRequest := by
  unfold opening at first
  split at first
  next => cases first
  next found _ _ =>
    split at first
    next typed =>
      split at first
      next => cases first
      next => cases first; exact typed
    next => split at first <;> cases first

theorem opening_async {limit : UInt64} (first : opening limit source = .async header rest) :
    header.type = .asyncInitialize := by
  unfold opening at first
  split at first
  next => cases first
  next =>
    split at first
    next => split at first <;> cases first
    next =>
      split at first
      next typed => cases first; exact typed
      next => cases first

variable (rules : Rules profile inner listens attends ends)
include rules

theorem runSync_conducts (fuel : Nat) (turns : List Turn) (begins : listens turns phase) :
    Follows (conduct inner) (fun result last => last.1 = .serving session ∧ ends result last.2)
      (ServerProgram.runSync profile.toConfig session fuel turns) (.equipped session, phase) := by
  refine conduct_step rfl ⟨nofun, fun _ => .sizes⟩ fun _ _ => conduct_step rfl ⟨nofun, fun _ => .serves⟩ fun _ _ => ?_
  exact runLoop_conducts rfl (fun message => handleSync_lasting _ message fuel)
    (fun message rest phase => rules.sync message rest phase fuel) (fun turns phase now => rules.ending turns phase (.inl now))
    (fun turns phase now => rules.waits turns phase (.inl now)) turns begins

theorem runAsync_conducts (fuel : Nat) (turns : List Turn) (begins : attends turns phase) :
    Follows (conduct inner) (fun result last => last.1 = .attending session ∧ ends result last.2)
      (ServerProgram.runAsync profile.toConfig session fuel turns) (.furnished session, phase) := by
  refine conduct_step rfl ⟨nofun, fun _ => .attends⟩ fun _ _ => ?_
  exact runLoop_conducts rfl (fun message => handleAsync_lasting _ message fuel)
    (fun message rest phase => rules.async message rest phase fuel) (fun turns phase now => rules.ending turns phase (.inr now))
    (fun turns phase now => rules.waits turns phase (.inr now)) turns begins

theorem serveSyncChannel_conducts (subAddress : Except Err Bytes) (stream : Stream) (fuel : Nat) (turns : List Turn)
    (first : header.type = .initializeRequest) (begins : listens turns phase) :
    Follows (conduct inner) (Returns ends) (ServerProgram.serveSyncChannel profile header subAddress stream fuel turns)
      (.fresh .synchronous stream, phase) := by
  cases subAddress with
  | error err => exact refuse_conducts (by decide) fun _ => Option.some_ne_none err
  | ok subAddress =>
    refine Follows.bind (initializeRequest_conducts profile subAddress stream first) fun result last opens => ?_
    cases result with
    | error err =>
      obtain ⟨known, rfl⟩ := opens
      refine refuse_conducts known fun _ => ?_
      have counted : Follows (conduct inner) (Returns ends)
          (ServerProgram.perform (.count .fatalErrors) >>= fun _ => Pure.pure (some err)) (.refused none, phase) :=
        conduct_step rfl ⟨nofun, fun _ => .countsRefused⟩ fun _ _ => Option.some_ne_none err
      exact Follows.ite (fun _ => conduct_step rfl ⟨nofun, fun _ => .countsRefused⟩ fun _ _ => counted) fun _ => counted
    | ok made =>
      obtain ⟨session, response⟩ := made
      obtain ⟨rfl, typed, control, plain⟩ := opens
      have allows : (Place.opened session).Allows (.environment (.send .synchronous { response with length := 0 } [])) := by
        refine ⟨nofun, fun reply => ?_⟩
        cases reply with
        | none => exact .greets ⟨typed, control, rfl⟩
        | some err => exact .greetsNone ⟨typed, control, rfl⟩
      refine write_conducts (by rw [typed]; rfl) plain rfl allows fun failed => ?_
      cases failed with
      | some err =>
        refine Follows.bind (removeSession_conducts (.inr rfl)) fun _ last same => ?_
        rw [same]
        exact rules.ending turns phase (.inl begins) (some err)
      | none =>
        refine conduct_step rfl ⟨nofun, fun _ => .countsGreeted⟩ fun _ _ => ?_
        refine conduct_step rfl ⟨nofun, fun _ => .equips⟩ fun _ _ => ?_
        refine Follows.bind (runSync_conducts rules fuel turns begins) fun result last done => ?_
        obtain ⟨stays, ended⟩ := done
        obtain ⟨_, last⟩ := last
        cases stays
        refine Follows.bind (removeSession_conducts (.inl rfl)) fun _ _ same => ?_
        rw [same]
        exact ended

theorem serveAsyncChannel_conducts (stream : Stream) (fuel : Nat) (turns : List Turn)
    (first : header.type = .asyncInitialize) (begins : attends turns phase) :
    Follows (conduct inner) (Returns ends) (ServerProgram.serveAsyncChannel profile header stream fuel turns)
      (.fresh .asynchronous stream, phase) := by
  refine Follows.bind (asyncInitialize_conducts profile stream first) fun result last opens => ?_
  cases result with
  | error err =>
    obtain ⟨known, rfl⟩ := opens
    exact refuse_conducts known fun _ => conduct_step rfl ⟨nofun, fun _ => .countsRefused⟩ fun _ _ => Option.some_ne_none err
  | ok made =>
    obtain ⟨session, response⟩ := made
    obtain ⟨rfl, typed, control, plain⟩ := opens
    have allows : (Place.joined session).Allows (.environment (.send .asynchronous { response with length := 0 } [])) := by
      refine ⟨nofun, fun reply => ?_⟩
      cases reply with
      | none => exact .welcomes ⟨typed, control, rfl⟩
      | some err => exact .welcomesNone ⟨typed, control, rfl⟩
    refine write_conducts (by rw [typed]; rfl) plain rfl allows fun failed => ?_
    cases failed with
    | some err => exact Option.some_ne_none err
    | none =>
      refine conduct_step rfl ⟨nofun, fun _ => .furnishes⟩ fun _ _ => ?_
      refine (runAsync_conducts rules fuel turns begins).mono fun result last done => ?_
      obtain ⟨stays, ended⟩ := done
      obtain ⟨_, last⟩ := last
      cases stays
      exact ended

theorem serve_conducts (source : Source) (stream : Stream) (fuel : Nat)
    (buffers : List (ReadBuffer profile.maxRxPayload)) (closing : List Turn)
    (sync : ∀ header subAddress rest, opening profile.maxRxPayload source = .sync header subAddress rest →
      listens (readerTurns buffers rest closing) phase)
    (async : ∀ header rest, opening profile.maxRxPayload source = .async header rest →
      attends (readerTurns buffers rest closing) phase) :
    Follows (conduct inner) (Returns ends) (ServerProgram.serve profile source stream fuel buffers closing)
      (.fresh (openingChannel (opening profile.maxRxPayload source)) stream, phase) := by
  unfold ServerProgram.serve
  cases first : opening profile.maxRxPayload source with
  | failed err => exact conduct_step rfl ⟨nofun, fun _ => .shutsFresh⟩ fun _ _ => Option.some_ne_none err
  | sync header subAddress rest =>
    exact serveSyncChannel_conducts rules subAddress stream fuel _ (opening_sync first) (sync header subAddress rest first)
  | async header rest =>
    exact serveAsyncChannel_conducts rules stream fuel _ (opening_async first) (async header rest first)
  | refused =>
    refine refuse_conducts (by decide) fun _ => ?_
    exact conduct_step rfl ⟨nofun, fun _ => .countsRefused⟩ fun _ _ => Option.some_ne_none _
  | panics => exact ⟨.inr ⟨fun _ => ⟨_, _, rfl⟩, fun reply => reply.elim⟩, fun reply => reply.elim⟩

end Loops

section Runs
variable {σ Ψ : Type} {profile : Profile} {policy : ResponsePolicy σ} {inner : Discipline Op Op.Reply Ψ}
  {listens attends : List Turn → Ψ → Prop} {ends : Option Err → Ψ → Prop}
  {account : Registry σ → List (Call profile.maxRxPayload × (Place × Ψ)) → Prop}
  {phase : Call profile.maxRxPayload → Ψ}

def Call.place {limit : UInt64} : Call limit → Place
  | .serve source stream _ _ _ => .fresh (openingChannel (opening limit source)) stream
  | .closeAll => .sweeping

def begin {limit : UInt64} (phase : Call limit → Ψ) (call : Call limit) : Place × Ψ := (call.place, phase call)

/-- The phase that a call begins with is one before the messages of its connection. -/
structure Prepared (profile : Profile) (listens attends : List Turn → Ψ → Prop) (phase : Call profile.maxRxPayload → Ψ) :
    Prop where
  sync : ∀ source stream fuel buffers closing header subAddress rest,
    opening profile.maxRxPayload source = .sync header subAddress rest →
    listens (readerTurns buffers rest closing) (phase (.serve source stream fuel buffers closing))
  async : ∀ source stream fuel buffers closing header rest,
    opening profile.maxRxPayload source = .async header rest →
    attends (readerTurns buffers rest closing) (phase (.serve source stream fuel buffers closing))

theorem call_conducts (rules : Rules profile inner listens attends ends)
    (prepared : Prepared profile listens attends phase) (call : Call profile.maxRxPayload) :
    Follows (conduct inner) (Returns ends) (call.program profile) (begin phase call) := by
  cases call with
  | serve source stream fuel buffers closing =>
    exact serve_conducts rules source stream fuel buffers closing
      (fun header subAddress rest => prepared.sync source stream fuel buffers closing header subAddress rest)
      fun header rest => prepared.async source stream fuel buffers closing header rest
  | closeAll => exact closeAll_conducts

theorem apply_truthful {op : ServerOp} {outside : Outside} {reply : op.Reply} {before after : Registry σ}
    (applied : op.apply profile policy outside before = some (reply, after)) : truthful op reply := by
  cases op with
  | allocateSession version stream =>
    obtain rfl := congrArg Prod.fst (Option.some_inj.mp applied)
    unfold Registry.allocateSession
    repeat' split
    all_goals first | exact rfl | trivial
  | session number op =>
    cases op with
    | attachAsync stream =>
      obtain ⟨found, -, same⟩ := Option.map_eq_some_iff.mp applied
      cases same
      simp only [SessionOp.apply, Session.attachAsync]
      repeat' split
      all_goals first | exact rfl | trivial
    | _ => trivial
  | _ => trivial

section Sessions
variable {op : ServerOp} {outside : Outside} {reply : op.Reply} {before after : Registry σ} {number : Nat}

theorem session_kept {fits : Session σ → Prop} (applied : op.apply profile policy outside before = some (reply, after))
    (keeps : ∀ inner session, op = .session number inner → fits session → fits (inner.apply policy session).2)
    (held : ∃ session, before.made[number]? = some session ∧ fits session) :
    ∃ session, after.made[number]? = some session ∧ fits session := by
  obtain ⟨session, standing, right⟩ := held
  have bound := (List.getElem?_eq_some_iff.mp standing).1
  rcases apply_cases applied with ⟨same, -⟩ | ⟨other, inner, found, rfl, there, made, -⟩ | ⟨_, _, _, -, made, -⟩
  · exact ⟨session, same ▸ standing, right⟩
  · by_cases own : other = number
    · subst own
      obtain rfl : session = found := Option.some.inj (standing.symm.trans there)
      exact ⟨_, by rw [made, List.getElem?_set_self bound], keeps inner session rfl right⟩
    · exact ⟨session, by rw [made, List.getElem?_set_ne own, standing], right⟩
  · exact ⟨session, by rw [made, List.getElem?_append_left bound, standing], right⟩

theorem session_back {session : Session σ} (applied : op.apply profile policy outside before = some (reply, after))
    (held : after.made[number]? = some session) :
    before.made[number]? = some session ∨
      (∃ inner found, op = .session number inner ∧ before.made[number]? = some found ∧
        session = (inner.apply policy found).2) ∨
      ∃ version stream id, op = .allocateSession version stream ∧ number = before.made.length ∧
        after.made ≠ before.made ∧ session = .new profile policy id version.1 version.2 stream := by
  rcases apply_cases applied with ⟨same, -⟩ | ⟨other, inner, found, rfl, standing, made, -⟩ |
    ⟨version, stream, id, rfl, made, -⟩
  · exact .inl (same ▸ held)
  · rw [made] at held
    by_cases own : other = number
    · subst own
      rw [List.getElem?_set_self (List.getElem?_eq_some_iff.mp standing).1, Option.some_inj] at held
      exact .inr (.inl ⟨inner, found, rfl, standing, held.symm⟩)
    · rw [List.getElem?_set_ne own] at held
      exact .inl held
  · have grown : after.made ≠ before.made := by
      rw [made]
      simp
    rw [made, List.getElem?_append] at held
    split at held
    next => exact .inl held
    next beyond =>
      have bound := (List.getElem?_eq_some_iff.mp held).1
      rw [List.length_singleton] at bound
      have new := List.mem_singleton.mp (List.mem_of_getElem? held)
      exact .inr (.inr ⟨version, stream, id, rfl, by omega, grown, new⟩)

end Sessions

/-- What the calls of a server keep to, whatever the order of their steps. -/
theorem always_conducted (rules : Rules profile inner listens attends ends)
    (prepared : Prepared profile listens attends phase) (opens : account {} [])
    (begins : ∀ registry phases call, account registry phases → account registry (phases ++ [(call, begin phase call)]))
    (advances : ∀ registry phases number call place last op outside reply after, account registry phases →
      phases[number]? = some (call, (place, last)) → (conduct inner).allowed (place, last) op →
      op.apply profile policy outside registry = some (reply, after) →
      (place.looping.isSome → expects inner last op reply) ∧
      account after (phases.set number (call, (conduct inner).advance (place, last) op reply)))
    (moves : List (Move (Call profile.maxRxPayload) Outside)) :
    Transition.Always (Calls.step policy) (Chronicle.Lawful (conduct inner) (Returns ends) (begin phase) account) moves
      { shared := {} } := by
  refine Chronicle.always_lawful (call_conducts rules prepared) opens begins ?_ moves
  intro registry phases number call phase op outside reply after right listed allowed applied
  obtain ⟨expected, kept⟩ :=
    advances registry phases number call phase.1 phase.2 op outside reply after right listed allowed applied
  exact ⟨⟨apply_truthful applied, expected⟩, kept⟩

abbrev Entry (profile : Profile) (Ψ : Type) : Type :=
  Call profile.maxRxPayload × ((Place × Ψ) × List (Performed ServerOp.Reply))

namespace Entry

abbrev place (entry : Entry profile Ψ) : Place := entry.2.1.1

abbrev past (entry : Entry profile Ψ) : List (Performed ServerOp.Reply) := entry.2.2

def after (inner : Discipline Op Op.Reply Ψ) (entry : Entry profile Ψ) (op : ServerOp) (reply : op.Reply) :
    Entry profile Ψ := (entry.1, ((conduct inner).advance entry.2.1 op reply, entry.past ++ [⟨op, reply⟩]))

end Entry

abbrev Recorded (inner : Discipline Op Op.Reply Ψ) (ends : Option Err → Ψ → Prop) (phase : Call profile.maxRxPayload → Ψ)
    (account : Registry σ → List (Entry profile Ψ) → Prop) (calls : Calls profile σ) : Prop :=
  calls.Lawful ((conduct inner).both Discipline.recorder) (fun result last => Returns ends result last.1)
    (fun call => (begin phase call, [])) account

theorem always_recorded {account : Registry σ → List (Entry profile Ψ) → Prop}
    (rules : Rules profile inner listens attends ends) (prepared : Prepared profile listens attends phase)
    (opens : account {} [])
    (begins : ∀ registry phases call, account registry phases →
      account registry (phases ++ [(call, (begin phase call, []))]))
    (advances : ∀ registry phases number entry op outside reply after, account registry phases →
      phases[number]? = some entry → (conduct inner).allowed entry.2.1 op →
      op.apply profile policy outside registry = some (reply, after) →
      (entry.place.looping.isSome → expects inner entry.2.1.2 op reply) ∧
      account after (phases.set number (entry.after inner op reply)))
    (moves : List (Move (Call profile.maxRxPayload) Outside)) :
    Transition.Always (Calls.step policy) (Recorded inner ends phase account) moves { shared := {} } := by
  have follows (call : Call profile.maxRxPayload) :=
    ((call_conducts rules prepared call).both (Discipline.heeds_recorder _ [])).mono fun _ _ => And.left
  refine Chronicle.always_lawful follows opens begins ?_ moves
  rintro registry phases number call ⟨phase, past⟩ op outside reply after right listed ⟨allowed, -⟩ applied
  obtain ⟨expected, kept⟩ :=
    advances registry phases number (call, (phase, past)) op outside reply after right listed allowed applied
  exact ⟨⟨⟨apply_truthful applied, expected⟩, trivial⟩, kept⟩

theorem phase_recorded (thread : Thread (Call profile.maxRxPayload) ServerOp.Reply (Option Err)) :
    thread.phase ((conduct inner).both Discipline.recorder) (fun call => (begin phase call, [])) =
      (thread.phase (conduct inner) (begin phase), thread.past) := by
  simp only [Thread.phase, Discipline.after_both, Discipline.after_recorder, List.nil_append]

theorem mem_entries {calls : Calls profile σ} {entry : Entry profile Ψ} :
    entry ∈ calls.phases ((conduct inner).both Discipline.recorder) (fun call => (begin phase call, [])) ↔
      ∃ thread ∈ calls.threads, (thread.task, (thread.phase (conduct inner) (begin phase), thread.past)) = entry := by
  simp only [Chronicle.phases, List.mem_map, phase_recorded]

end Runs

section Free

def free : Discipline Op Op.Reply Unit where
  allowed _ _ := True
  advance _ _ _ := ()

theorem follows_free {α : Type} (program : Act α) {post : α → Unit → Prop} (met : ∀ value, post value ()) :
    Follows free post program () := by
  induction program with
  | pure value => exact met value
  | request op next ih => exact ⟨trivial, fun reply _ => ih reply⟩

theorem free_rules (profile : Profile) :
    Rules profile free (fun _ _ => True) (fun _ _ => True) fun _ _ => True where
  sync message rest phase fuel _ := follows_free _ fun result => by cases result <;> trivial
  async message rest phase fuel _ := follows_free _ fun result => by cases result <;> trivial
  ending _ _ _ _ := trivial
  waits _ _ _ := trivial

theorem free_prepared (profile : Profile) : Prepared profile (fun _ _ => True) (fun _ _ => True) fun _ => () where
  sync _ _ _ _ _ _ _ _ _ := trivial
  async _ _ _ _ _ _ _ _ := trivial

end Free

end Hislip.Proofs.Serving
