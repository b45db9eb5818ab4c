import Hislip.Proofs.LastWord
import Hislip.Proofs.LockLifetime
import Hislip.Proofs.Readiness
import Hislip.Proofs.Streams

/-! How a session ends. The call that opened it takes the whole session down before it
returns; the call that joined it just returns, after a FatalError or otherwise, and leaves
everything in place. -/

namespace Hislip.Proofs.SessionEnd
open Hislip.Server Hislip.Threads Transition Program Footprint Serving
open LockLifetime (System Current Holders)
open Lifecycle (Fits)
open Occupancy (opens joins holds opener joiner sweeps sweeps_next Opened Joined opener_iff joiner_iff)
open Streams (attached given regained pending placeOf served allShut)
open LastWord (cleans grave Doomed doomed_fatal Fails Warned always_warned reply_nonempty)
open Readiness (obliging)

variable {σ : Type} {profile : Profile}

def handed (number : Nat) (stream : Stream) (event : Performed ServerOp.Reply) : Prop :=
  (opens event.operation event.reply = some number ∨ joins event.operation event.reply = some number) ∧
    stream ∈ given event.operation event.reply

/-- Nothing is left of the session. Its locks are those under its identifier, unless a later
session has that one. -/
structure TornDown (number : Nat) (calls : Calls profile σ) : Prop where
  unregistered : ∀ id, calls.shared.sessions.lookup id ≠ some number
  closed : ∃ session, calls.shared.made[number]? = some session ∧ session.state = .closed
  streams : ∀ stream, calls.Did (handed number stream) → calls.Did fun event => event.operation = .closeStream stream
  unlocked : ∀ id, Current (System.identifiers calls) number id → calls.shared.locks.held id = false

/-- A FatalError that its stream took. -/
def fatal : (op : ServerOp) → op.Reply → Prop
  | .environment (.send _ header _), reply => header.type = .fatalError ∧ reply = none
  | _, _ => False

theorem fatal_written {op : ServerOp} {reply : op.Reply} (bad : fatal op reply) : LastWord.fatal op = true := by
  unfold fatal at bad
  split at bad
  next => exact decide_eq_true bad.1
  next => cases bad

/-- A session ends with the return of either of its calls, and after a FatalError a call does
nothing more but clean up. -/
structure Ends (calls : Calls profile σ) : Prop where
  tornDown : ∀ thread ∈ calls.threads, ∀ number, Opened thread number ∨ Joined thread number →
    thread.returned = true → TornDown number calls
  fatal : ∀ thread ∈ calls.threads, ∀ number, Opened thread number ∨ Joined thread number →
    (∃ event ∈ thread.past, fatal event.operation event.reply) → ∀ op, thread.rest.head = some op → cleans op = true

/-- The call of an asynchronous channel has returned only after that of the synchronous one. -/
def InOrder (calls : Calls profile σ) : Prop :=
  ∀ joiner ∈ calls.threads, joiner.returned = true → ∀ event ∈ joiner.past,
    ∀ number ∈ joins event.operation event.reply, ∀ opener ∈ calls.threads, Opened opener number → opener.returned = true

/-- Every call serves a connection of its own, and the host closes no sessions. -/
def Regular (calls : Calls profile σ) : Move (Call profile.maxRxPayload) Outside → Prop
  | .start (.serve _ stream _ _ _) => stream ∉ served calls
  | .start .closeAll => False
  | .advance _ _ => True

section Places
variable {Ψ : Type} {inner : Discipline Op Op.Reply Ψ} {place : Place} {phase : Ψ} {op : ServerOp} {number : Nat}
  {reply : op.Reply}

def shutting : Place → Bool
  | .closed _ _ _ => true
  | _ => false

def released : Place → Option Nat
  | .released session | .unregistered session | .closed session _ _ => some session
  | _ => none

theorem close_place (allowed : (conduct inner).allowed (place, phase) (.session number .close))
    (reply : (ServerOp.session number .close).Reply) (calm : sweeps place = false) :
    place = .unregistered number ∧ place.next (.session number .close) reply = .closed number reply.2 reply.1 := by
  rcases advance_cases allowed reply with ⟨_, -, ⟨-, _, performs, plain, -⟩, -⟩ | ⟨next, step, -⟩
  · cases performs
    exact absurd rfl plain
  · cases step with
    | closesOne => exact ⟨rfl, rfl⟩
    | closesNext => cases calm

theorem opens_place (opened : opens op reply = some number) : place.next op reply = .opened number := by
  cases op with
  | allocateSession version stream =>
    cases reply with
    | error err => cases opened
    | ok made => exact congrArg Place.opened (Option.some.inj opened)
  | _ => cases opened

theorem shutting_next (allowed : (conduct inner).allowed (place, phase) op) (reply : op.Reply) (calm :
      sweeps place = false) :
    shutting (place.next op reply) = true ↔ shutting place = true ∨ ∃ number, op = .session number .close := by
  rcases advance_cases allowed reply with ⟨_, loops, ⟨-, _, performs, plain, -⟩, same⟩ | ⟨next, step, same⟩
  · rw [show place.next op reply = place from congrArg Prod.fst same]
    refine (or_iff_left ?_).symm
    rintro ⟨number, rfl⟩
    cases performs
    exact absurd rfl plain
  · rw [show place.next op reply = next from congrArg Prod.fst same]
    cases step with
    | closesOne => exact iff_of_true rfl (.inr ⟨_, rfl⟩)
    | cancelsOne | shutsOne => exact iff_of_true rfl (.inl rfl)
    | closesNext => cases calm
    | _ => exact iff_of_false Bool.noConfusion (by rintro (⟨⟨⟩⟩ | ⟨_, ⟨⟩⟩))

theorem closed_back {operation : Option Nat} {streams : List Stream}
    (allowed : (conduct inner).allowed (place, phase) op)
    (now : place.next op reply = .closed number operation streams) :
    (op = .session number .close ∧ place = .unregistered number ∧ regained op reply = streams) ∨
      ∃ earlier more, place = .closed number earlier more ∧ (operation ≠ none → earlier ≠ none ∧ streams = more) ∧
        streams ⊆ more := by
  rcases advance_cases allowed reply with ⟨_, loops, -, same⟩ | ⟨next, step, same⟩
  · rw [show place.next op reply = place from congrArg Prod.fst same] at now
    subst now
    cases loops
  · rw [show place.next op reply = next from congrArg Prod.fst same] at now
    subst now
    cases step with
    | closesOne => exact .inl ⟨rfl, rfl, rfl⟩
    | cancelsOne => exact .inr ⟨_, _, rfl, fun some => absurd rfl some, List.Subset.refl _⟩
    | shutsOne => exact .inr ⟨_, _, rfl, fun some => absurd rfl some, List.subset_cons_self _ _⟩

theorem closed_next {operation : Option Nat} {streams : List Stream} {stream : Stream}
    (allowed : (conduct inner).allowed (.closed number operation streams, phase) op) (reply : op.Reply)
    (member : stream ∈ streams) :
    (∃ later rest, (Place.closed number operation streams).next op reply = .closed number later rest ∧ stream ∈ rest) ∨
      op = .closeStream stream := by
  rcases advance_cases allowed reply with ⟨_, loops, -, -⟩ | ⟨next, step, same⟩
  · cases loops
  · rw [show (Place.closed number operation streams).next op reply = next from congrArg Prod.fst same]
    cases step with
    | cancelsOne => exact .inl ⟨_, _, rfl, member⟩
    | shutsOne =>
      rcases List.mem_cons.mp member with rfl | inside
      · exact .inr rfl
      · exact .inl ⟨_, _, rfl, inside⟩

theorem released_next (allowed : (conduct inner).allowed (place, phase) op)
    (now : released (place.next op reply) = some number) : released place = some number ∨ op = .releaseAll number := by
  rcases advance_cases allowed reply with ⟨_, -, -, same⟩ | ⟨next, step, same⟩
  · rw [show place.next op reply = place from congrArg Prod.fst same] at now
    exact .inl now
  · rw [show place.next op reply = next from congrArg Prod.fst same] at now
    cases step with
    | endsServing | endsLeaving => exact .inr (by cases now; rfl)
    | unregisters | closesOne | cancelsOne | shutsOne => exact .inl now
    | _ => cases now

theorem closed_returned {post : Option Err → Place × Ψ → Prop} {rest : ServerProgram (Option Err)}
    (follows : Follows (conduct inner) post rest (.closed number none [], phase)) : ∃ result, rest = .pure result := by
  cases rest with
  | pure result => exact ⟨result, rfl⟩
  | request op next =>
    rcases follows.1 with ⟨_, loops, -⟩ | allows
    · cases loops
    · obtain ⟨reply⟩ := reply_nonempty fun waits => by
        obtain ⟨_, _, impossible⟩ := allows.waits waits
        cases impossible
      have step := allows.step reply
      generalize (Place.closed number none []).next op reply = next at step
      cases step

end Places

section Sessions
variable {policy : ResponsePolicy σ} {outside : Outside} {op : ServerOp} {reply : op.Reply} {before after : Registry σ}
  {number : Nat} {earlier session : Session σ} {stream : Stream}

theorem closed_apply (applied : op.apply profile policy outside before = some (reply, after))
    (held : before.made[number]? = some earlier) (found : after.made[number]? = some session) :
    session.state = .closed ↔ earlier.state = .closed ∨ op = .session number .close := by
  constructor
  · intro closed
    rcases (LockLifetime.apply_moves applied).closed number session found closed with now | ⟨same, there, already⟩
    · exact .inr now
    · obtain rfl := Option.some.inj (held.symm.trans there)
      exact .inl already
  · rintro (already | rfl)
    · have keeps : ∀ inner (session : Session σ), op = .session number inner → session.state = .closed →
          (inner.apply policy session).2.state = .closed := by
        intro inner session _ closed
        have progress := Lifecycle.apply_progress policy inner session
        rw [closed] at progress
        rcases progress with same | same | ⟨impossible, -⟩ | ⟨impossible, -⟩ | ⟨impossible, -⟩
        · exact same
        · exact same
        all_goals cases impossible
      obtain ⟨still, there, closed⟩ := session_kept applied keeps ⟨earlier, held, already⟩
      obtain rfl := Option.some.inj (found.symm.trans there)
      exact closed
    · exact Streams.close_closes applied found

theorem opens_new (applied : op.apply profile policy outside before = some (reply, after))
    (opened : opens op reply = some number) (found : after.made[number]? = some session) :
    ∃ version own id, op = .allocateSession version own ∧ session = .new profile policy id version.1 version.2 own := by
  obtain ⟨rfl, -⟩ := Occupancy.opens_last applied opened
  rcases session_back applied found with old | ⟨_, _, rfl, -⟩ | ⟨version, own, id, same, -, -, new⟩
  · exact absurd (List.getElem?_eq_some_iff.mp old).1 (Nat.lt_irrefl _)
  · cases opened
  · exact ⟨version, own, id, same, new⟩

theorem given_joins {inner : SessionOp} {reply : (ServerOp.session number inner).Reply}
    (member : stream ∈ given (.session number inner) reply) : joins (.session number inner) reply = some number := by
  cases inner with
  | attachAsync own =>
    cases reply with
    | none => rfl
    | some err => cases member
  | _ => cases member

theorem close_regains {reply : (ServerOp.session number .close).Reply}
    (applied : (ServerOp.session number .close).apply profile policy outside before = some (reply, after)) :
    ∃ session, before.made[number]? = some session ∧
      regained (.session number .close) reply = session.sync.toList ++ session.async.toList := by
  obtain ⟨session, held, same⟩ := Option.map_eq_some_iff.mp applied
  obtain rfl := congrArg Prod.fst same
  exact ⟨session, held, rfl⟩

theorem session_flow {inner : SessionOp} {reply : (ServerOp.session number inner).Reply}
    (applied : (ServerOp.session number inner).apply profile policy outside before = some (reply, after))
    (held : before.made[number]? = some earlier) :
    stream ∈ attached (inner.apply policy earlier).2 ∨ stream ∈ regained (.session number inner) reply ↔
      stream ∈ attached earlier ∨ stream ∈ given (.session number inner) reply := by
  obtain ⟨found, there, same⟩ := Option.map_eq_some_iff.mp applied
  obtain rfl := Option.some.inj (held.symm.trans there)
  cases same
  have flow := congrArg (stream ∈ ·) (Streams.attached_apply policy number inner earlier)
  simpa only [Multiset.mem_add, Multiset.mem_coe, eq_iff_iff] using flow

section
variable (applied : op.apply profile policy outside before = some (reply, after))
include applied

theorem attached_back (found : after.made[number]? = some session) (member : stream ∈ attached session) :
    (∃ earlier, before.made[number]? = some earlier ∧ stream ∈ attached earlier) ∨ handed number stream ⟨op, reply⟩ := by
  rcases session_back applied found with old | ⟨inner, held, rfl, standing, rfl⟩ | ⟨version, own, id, rfl, rfl, grown, rfl⟩
  · exact .inl ⟨session, old, member⟩
  · rcases (session_flow applied standing).mp (.inl member) with earlier | new
    · exact .inl ⟨held, standing, earlier⟩
    · exact .inr ⟨.inr (given_joins new), new⟩
  · have opened := Occupancy.opens_made applied grown
    refine .inr ⟨.inl opened, ?_⟩
    cases reply with
    | error err => cases opened
    | ok made => simpa [attached, Session.new, given] using member

theorem attached_kept (held : before.made[number]? = some earlier) (member : stream ∈ attached earlier) :
    (∃ session, after.made[number]? = some session ∧ stream ∈ attached session) ∨
      op = .session number .close ∧ stream ∈ regained op reply := by
  have bound := (List.getElem?_eq_some_iff.mp held).1
  rcases apply_cases applied with ⟨same, -⟩ | ⟨other, inner, found, rfl, there, made, -⟩ | ⟨_, _, _, -, made, -⟩
  · exact .inl ⟨earlier, same ▸ held, member⟩
  · by_cases own : other = number
    · subst own
      obtain rfl := Option.some.inj (held.symm.trans there)
      rcases (session_flow applied held).mpr (.inl member) with still | back
      · exact .inl ⟨_, by rw [made, List.getElem?_set_self bound], still⟩
      · refine .inr ⟨?_, back⟩
        cases inner with
        | close => rfl
        | _ => cases back
    · exact .inl ⟨earlier, by rw [made, List.getElem?_set_ne own, held], member⟩
  · exact .inl ⟨earlier, by rw [made, List.getElem?_append_left bound, held], member⟩

theorem handed_attached (hands : handed number stream ⟨op, reply⟩) :
    ∃ session, after.made[number]? = some session ∧ stream ∈ attached session := by
  obtain ⟨way, member⟩ := hands
  cases op with
  | allocateSession version own =>
    cases reply with
    | error err => cases member
    | ok made =>
      have opened := way.resolve_right (by rintro ⟨⟩)
      have found := List.getElem?_eq_getElem (Occupancy.opens_last applied opened).2
      obtain ⟨_, _, _, same, new⟩ := opens_new applied opened found
      cases same
      exact ⟨_, found, by rw [new]; simpa [attached, Session.new, given] using member⟩
  | session other inner =>
    obtain rfl : other = number := Option.some.inj ((given_joins member).symm.trans (way.resolve_left (by rintro ⟨⟩)))
    obtain ⟨found, there, same⟩ := Option.map_eq_some_iff.mp applied
    have bound := (List.getElem?_eq_some_iff.mp there).1
    refine ⟨_, ?_, ((session_flow applied there).mpr (.inr member)).resolve_right fun back => ?_⟩
    · cases same
      exact List.getElem?_set_self bound
    · cases inner with
      | close => cases member
      | _ => cases back
  | _ => cases member

end

theorem fits_sync (fits : Fits session) (standing : session.state ≠ .closed) : session.sync ≠ none := by
  unfold Fits at fits
  split at fits
  next => exact fits.1
  next => exact fits.1
  next => exact fits.1
  next closed => exact absurd closed standing

end Sessions

section History
variable {policy : ResponsePolicy σ} {calls later : Calls profile σ}

/-- What is true of a run in which the host closes no sessions. A session is closed by the
call that opened it, and each of its streams is with it, or with that call, or closed. -/
structure History (calls : Calls profile σ) : Prop where
  calm : ∀ thread ∈ calls.threads, sweeps (placeOf thread) = false
  distinct : (served calls).Nodup
  opened : ∀ number < calls.shared.made.length, ∃ thread ∈ calls.threads, opener (placeOf thread) = some number
  state : ∀ thread ∈ calls.threads, ∀ number, opener (placeOf thread) = some number →
    ∀ session, calls.shared.made[number]? = some session → (session.state = .closed ↔ shutting (placeOf thread) = true)
  brought : ∀ (number : Nat) session, calls.shared.made[number]? = some session → ∀ stream ∈ attached session,
    calls.Did (handed number stream)
  taken : ∀ thread ∈ calls.threads, ∀ number operation streams, placeOf thread = .closed number operation streams →
    (operation ≠ none → streams ≠ []) ∧ ∀ stream ∈ streams, calls.Did (handed number stream)
  kept : ∀ number stream, calls.Did (handed number stream) →
    (∃ session, calls.shared.made[number]? = some session ∧ stream ∈ attached session) ∨
      (∃ thread ∈ calls.threads, ∃ operation streams, placeOf thread = .closed number operation streams ∧ stream ∈ streams) ∨
        calls.Did fun event => event.operation = .closeStream stream

theorem history_empty : History ({ shared := {} } : Calls profile σ) where
  calm _ := nofun
  distinct := List.nodup_nil
  opened _ := nofun
  state _ := nofun
  brought _ _ := nofun
  taken _ := nofun
  kept := by
    rintro _ _ ⟨_, ⟨⟩, _⟩

theorem History.start (history : History calls) {call : Call profile.maxRxPayload} (regular : Regular calls (.start call))
    (threads : later.threads = calls.threads ++ [{ task := call, rest := call.program profile }])
    (shared : later.shared = calls.shared) (did : ∀ what, later.Did what ↔ calls.Did what) : History later := by
  cases call with
  | closeAll => cases regular
  | serve source stream fuel buffers closing =>
    refine ⟨?_, ?_, ?_, ?_, ?_, ?_, ?_⟩
    · rw [threads]
      exact forall_concat history.calm rfl
    · rw [served, threads, List.flatMap_append, List.flatMap_singleton]
      exact List.nodup_append'.mpr ⟨history.distinct, List.nodup_singleton _, List.disjoint_singleton.mpr regular⟩
    · rw [threads, shared]
      exact fun number bound => exists_concat (history.opened number bound) _
    · rw [threads, shared]
      exact forall_concat history.state fun number => by rintro ⟨⟩
    · simp only [shared, did]
      exact history.brought
    · simp only [threads, did]
      exact forall_concat history.taken fun number operation streams => by rintro ⟨⟩
    · simp only [threads, shared, did]
      intro number stream hands
      exact (history.kept number stream hands).imp_right (Or.imp_left fun one => exists_concat one _)

section Performing
variable {index : Nat} {op : ServerOp} {reply : op.Reply} {outside : Outside} {task : Call profile.maxRxPayload}
  {past : List (Performed ServerOp.Reply)} {next : op.Reply → ServerProgram (Option Err)}

theorem placeOf_next : @placeOf profile ⟨task, past ++ [⟨op, reply⟩], next reply⟩ =
    (@placeOf profile ⟨task, past, .request op next⟩).next op reply := by
  simp only [placeOf, Thread.phase, Discipline.after_append]
  rfl

theorem allowed_of (accounted : Occupancy.Accounted calls)
    (running : calls.threads[index]? = some ⟨task, past, .request op next⟩) :
    (conduct free).allowed (@placeOf profile ⟨task, past, .request op next⟩, ()) op :=
  (accounted.threads _ (List.mem_of_getElem? running)).follows.1

theorem opener_sole (accounted : Occupancy.Accounted calls) {first second : Nat}
    {one two : Thread (Call profile.maxRxPayload) ServerOp.Reply (Option Err)} (left : calls.threads[first]? = some one)
    (right : calls.threads[second]? = some two) {number : Nat} (opened : opener (placeOf one) = some number)
    (also : opener (placeOf two) = some number) : first = second :=
  accounted.account.openers first second _ _ number (Occupancy.phases_getElem left) (Occupancy.phases_getElem right)
    opened also

theorem History.brought_next (history : History calls)
    (applied : op.apply profile policy outside calls.shared = some (reply, later.shared))
    (did : ∀ what, later.Did what ↔ what ⟨op, reply⟩ ∨ calls.Did what) :
    ∀ (number : Nat) session, later.shared.made[number]? = some session → ∀ stream ∈ attached session,
      later.Did (handed number stream) := by
  intro number session found stream member
  rw [did]
  rcases attached_back applied found member with ⟨earlier, held, inside⟩ | now
  · exact .inr (history.brought number earlier held stream inside)
  · exact .inl now

section Next
variable (history : History calls) (accounted : Occupancy.Accounted calls)
  (running : calls.threads[index]? = some ⟨task, past, .request op next⟩)
  (applied : op.apply profile policy outside calls.shared = some (reply, later.shared))
  (threads : later.threads = calls.threads.set index ⟨task, past ++ [⟨op, reply⟩], next reply⟩)
include history accounted running applied threads

theorem History.state_next :
    ∀ thread ∈ later.threads, ∀ number, opener (placeOf thread) = some number →
      ∀ session, later.shared.made[number]? = some session →
        (session.state = .closed ↔ shutting (placeOf thread) = true) := by
  have allowed := allowed_of accounted running
  have here := List.mem_of_getElem? running
  have calm := history.calm _ here
  have standing : ∀ thread ∈ calls.threads, ∀ number, opener (placeOf thread) = some number →
      ∃ earlier, calls.shared.made[number]? = some earlier := fun thread member number opened =>
    ⟨_, List.getElem?_eq_getElem (accounted.account.opened _ (List.mem_map_of_mem member) number opened)⟩
  intro thread member number opened session found
  rw [threads] at member
  rcases mem_set_cases member with rfl | ⟨other, apart, held⟩
  · rw [placeOf_next] at opened ⊢
    rcases Option.or_eq_some_iff.mp ((Occupancy.next_steps allowed reply).opener.symm.trans opened) with new | ⟨-, own⟩
    · obtain ⟨_, _, _, -, rfl⟩ := opens_new applied new found
      rw [opens_place new]
      exact iff_of_false State.noConfusion Bool.noConfusion
    · obtain ⟨earlier, before⟩ := standing _ here number own
      rw [closed_apply applied before found, history.state _ here number own earlier before, shutting_next allowed reply calm]
      refine or_congr_right ⟨fun closes => ⟨number, closes⟩, ?_⟩
      rintro ⟨closed, rfl⟩
      rw [(close_place allowed reply calm).1] at own
      cases own
      rfl
  · have present := List.mem_of_getElem? held
    obtain ⟨earlier, before⟩ := standing thread present number opened
    rw [closed_apply applied before found, history.state thread present number opened earlier before]
    refine or_iff_left ?_
    rintro rfl
    have unregistered := (close_place allowed reply calm).1
    exact apart (opener_sole accounted held running opened (by rw [unregistered]; rfl))

theorem History.opened_next :
    ∀ number < later.shared.made.length, ∃ thread ∈ later.threads, opener (placeOf thread) = some number := by
  have allowed := allowed_of accounted running
  have steps := (Occupancy.next_steps allowed reply).opener
  intro number bound
  rw [threads]
  by_cases old : number < calls.shared.made.length
  · refine exists_set running (history.opened number old) (fun _ still => still) fun own => ?_
    rw [placeOf_next]
    refine steps.trans (Occupancy.or_kept (fun other opened => ?_) own)
    obtain ⟨stream, same⟩ := Occupancy.opens_fresh allowed opened
    rw [same]
    rfl
  · refine exists_set_new running ?_
    rcases session_back applied (List.getElem?_eq_getElem bound) with before | ⟨_, _, -, before, -⟩ |
      ⟨version, stream, id, rfl, rfl, grown, -⟩
    · exact absurd (List.getElem?_eq_some_iff.mp before).1 old
    · exact absurd (List.getElem?_eq_some_iff.mp before).1 old
    · rw [placeOf_next, opens_place (Occupancy.opens_made applied grown)]
      rfl

variable (did : ∀ what, later.Did what ↔ what ⟨op, reply⟩ ∨ calls.Did what)
include did

theorem History.taken_next (fits : ∀ session ∈ calls.shared.made, Fits session) :
    ∀ thread ∈ later.threads, ∀ number operation streams, placeOf thread = .closed number operation streams →
      (operation ≠ none → streams ≠ []) ∧ ∀ stream ∈ streams, later.Did (handed number stream) := by
  have here := List.mem_of_getElem? running
  simp only [did]
  rw [threads]
  refine forall_set history.taken (fun thread fits number operation streams closed => ?_)
    fun number operation streams closed => ?_
  · exact (fits number operation streams closed).imp_right fun all stream member => .inr (all stream member)
  · rw [placeOf_next] at closed
    rcases closed_back (allowed_of accounted running) closed with ⟨rfl, unregistered, rfl⟩ | ⟨earlier, more, before, same, fewer⟩
    · -- The session was not closed before, so it had its streams.
      obtain ⟨session, held, same⟩ := close_regains applied
      have standing : session.state ≠ .closed := by
        rw [Ne, history.state _ here number (by rw [unregistered]; rfl) session held, unregistered]
        exact Bool.noConfusion
      rw [same]
      refine ⟨fun _ empty => ?_, fun stream member => .inr (history.brought number session held stream ?_)⟩
      · refine fits_sync (fits session (List.mem_of_getElem? held)) standing ?_
        exact Option.toList_eq_nil_iff.mp (List.append_eq_nil_iff.mp empty).1
      · rw [attached, Multiset.coe_add]
        exact member
    · obtain ⟨nonempty, all⟩ := history.taken _ here number earlier more before
      refine ⟨fun some => ?_, fun stream member => .inr (all stream (fewer member))⟩
      obtain ⟨already, rfl⟩ := same some
      exact nonempty already

theorem History.kept_next :
    ∀ number stream, later.Did (handed number stream) →
      (∃ session, later.shared.made[number]? = some session ∧ stream ∈ attached session) ∨
        (∃ thread ∈ later.threads, ∃ operation streams, placeOf thread = .closed number operation streams ∧
          stream ∈ streams) ∨ later.Did fun event => event.operation = .closeStream stream := by
  have allowed := allowed_of accounted running
  intro number stream hands
  rw [threads, did]
  rcases (did _).mp hands with now | before
  · exact .inl (handed_attached applied now)
  rcases history.kept number stream before with ⟨session, held, member⟩ | ⟨thread, present, operation, streams, closed, member⟩ |
    shut
  · rcases attached_kept applied held member with still | ⟨rfl, back⟩
    · exact .inl still
    · refine .inr (.inl (exists_set_new running ⟨reply.2, reply.1, ?_, back⟩))
      rw [placeOf_next]
      exact (close_place allowed reply (history.calm _ (List.mem_of_getElem? running))).2
  · rcases mem_set_of_mem running ⟨task, past ++ [⟨op, reply⟩], next reply⟩ present with rfl | kept
    · rw [closed] at allowed
      rcases closed_next allowed reply member with ⟨after, rest, same, inside⟩ | rfl
      · refine .inr (.inl (exists_set_new running ⟨after, rest, ?_, inside⟩))
        rw [placeOf_next, closed, same]
      · exact .inr (.inr (.inl rfl))
    · exact .inr (.inl ⟨thread, kept, operation, streams, closed, member⟩)
  · exact .inr (.inr (.inr shut))

end Next

end Performing

theorem History.step (history : History calls) (accounted : Occupancy.Accounted calls)
    (fits : ∀ session ∈ calls.shared.made, Fits session) {move : Move (Call profile.maxRxPayload) Outside}
    (regular : Regular calls move) (moved : calls.step policy move = some later) : History later := by
  rcases Chronicle.step_cases moved with ⟨call, rfl, threads, shared, did⟩ |
    ⟨index, outside, task, past, op, next, reply, rfl, running, applied, threads, did⟩
  · exact history.start regular threads shared did
  · refine ⟨?_, ?_, history.opened_next accounted running applied threads,
      history.state_next accounted running applied threads, history.brought_next applied did,
      history.taken_next accounted running applied threads did fits,
      history.kept_next accounted running applied threads did⟩
    · rw [threads]
      refine forall_set history.calm (fun _ calm => calm) ?_
      rw [placeOf_next]
      exact (sweeps_next (allowed_of accounted running) reply).trans (history.calm _ (List.mem_of_getElem? running))
    · have here : (calls.threads.map (·.task))[index]? = some task := by
        rw [List.getElem?_map, running]
        rfl
      obtain ⟨bound, same⟩ := List.getElem?_eq_some_iff.mp here
      have tasks : later.threads.map (·.task) = calls.threads.map (·.task) := by
        rw [threads, List.map_set, ← same, List.set_getElem_self]
      rw [served, ← List.flatMap_map, tasks, List.flatMap_map]
      exact history.distinct

end History

section Ending
variable {policy : ResponsePolicy σ} {calls : Calls profile σ}
  {thread : Thread (Call profile.maxRxPayload) ServerOp.Reply (Option Err)} {number : Nat}

/-- A call that opened a session and has returned has seen to all of its teardown. -/
theorem returned_place (accounted : Occupancy.Accounted calls) (member : thread ∈ calls.threads)
    (opened : Opened thread number) (returned : thread.returned = true) : placeOf thread = .closed number none [] := by
  have abides := accounted.threads thread member
  have own : opener (placeOf thread) = some number := (opener_iff abides.kept).mpr opened
  obtain ⟨result, returns⟩ := abides.ended returned
  have returns : Returns (fun _ _ => True) result (placeOf thread, ()) := returns
  rcases returns_cases returns with ⟨same | ⟨session, same⟩, -⟩ | ⟨⟨session, same | same⟩, -⟩ | ⟨sessions, same⟩
  · rw [same] at own
    cases own
  · rw [same] at own
    cases own
  · rw [same] at own ⊢
    cases own
    rfl
  · rw [same] at own
    cases own
  · rw [same] at own
    cases own

theorem closed_released (accounted : Occupancy.Accounted calls) (member : thread ∈ calls.threads)
    (closed : placeOf thread = .closed number none []) : number ∈ System.released calls := by
  rw [System.mem_released]
  have now : released (placeOf thread) = some number := by rw [closed]; rfl
  rcases (accounted.threads thread member).kept.gained (fun phase => released phase.1 = some number)
    (fun op _ => op = .releaseAll number) (fun _ _ _ allowed => released_next allowed) now with start | ⟨event, performed, releases⟩
  · cases place : thread.task <;> rw [place] at start <;> cases start
  · exact ⟨thread, member, event, performed, releases⟩

theorem closed_tornDown (accounted : Occupancy.Accounted calls) (fits : ∀ session ∈ calls.shared.made, Fits session)
    (history : History calls) (holders : Holders calls.shared (System.released calls)) (member : thread ∈ calls.threads)
    (closed : placeOf thread = .closed number none []) : TornDown number calls := by
  obtain ⟨index, held⟩ := List.getElem?_of_mem member
  have own : opener (placeOf thread) = some number := by rw [closed]; rfl
  have bound := accounted.account.opened _ (List.mem_map_of_mem member) number own
  have found := List.getElem?_eq_getElem bound
  have state := (history.state thread member number own _ found).mpr (by rw [closed]; rfl)
  refine ⟨fun id registered => ?_, ⟨_, found, state⟩, fun stream hands => ?_, fun id current => ?_⟩
  · obtain ⟨entry, listed, holding⟩ := accounted.account.held id number registered
    obtain ⟨other, present, rfl⟩ := List.mem_map.mp listed
    obtain ⟨second, there⟩ := List.getElem?_of_mem present
    obtain rfl := opener_sole accounted held there own (Occupancy.opener_of_holds holding)
    obtain rfl := Option.some.inj (held.symm.trans there)
    have holding : holds (placeOf thread) = some number := holding
    rw [closed] at holding
    cases holding
  · rcases history.kept number stream hands with ⟨session, there, inside⟩ | ⟨other, present, operation, streams, place, inside⟩ |
      shut
    · obtain rfl := Option.some.inj (found.symm.trans there)
      rw [Streams.detached (fits _ (List.mem_of_getElem? found)) state] at inside
      cases inside
    · obtain ⟨second, there⟩ := List.getElem?_of_mem present
      obtain rfl := opener_sole accounted held there own (by rw [place]; rfl)
      obtain rfl := Option.some.inj (held.symm.trans there)
      rw [closed] at place
      cases place
      cases inside
    · exact shut
  · by_contra locked
    obtain ⟨live, -, latest, free⟩ := holders.live id (by simpa using locked)
    exact free (latest.unique current ▸ closed_released accounted member closed)

theorem pending_unshut (recorded : Recorded free (fun _ _ => True) (fun _ => ()) Streams.Account calls)
    (history : History calls) (member : thread ∈ calls.threads) {stream : Stream} (waits :
      stream ∈ pending (placeOf thread)) :
    ¬ calls.Did fun event => event.operation = .closeStream stream := by
  rintro ⟨other, present, event, performed, closes⟩
  have shut : stream ∈ allShut calls := by
    refine List.mem_flatMap.mpr ⟨other, present, List.mem_flatMap.mpr ⟨event, performed, ?_⟩⟩
    rw [closes]
    exact List.mem_singleton_self stream
  have distinct := Multiset.coe_nodup.mpr history.distinct
  rw [← Streams.recorded_balance recorded, ← Streams.coe_flatMap, Multiset.nodup_add] at distinct
  refine Multiset.disjoint_left.mp distinct.2.2 ?_ (Multiset.mem_coe.mpr shut)
  exact Multiset.mem_add.mpr (.inr (Multiset.mem_coe.mpr (List.mem_flatMap.mpr ⟨thread, member, waits⟩)))

theorem tornDown_returned (accounted : Occupancy.Accounted calls)
    (recorded : Recorded free (fun _ _ => True) (fun _ => ()) Streams.Account calls) (history : History calls)
    (torn : TornDown number calls) (member : thread ∈ calls.threads) (opened : Opened thread number) :
    thread.returned = true := by
  have abides := accounted.threads thread member
  have own : opener (placeOf thread) = some number := (opener_iff abides.kept).mpr opened
  obtain ⟨session, found, closed⟩ := torn.closed
  have shut := (history.state thread member number own session found).mp closed
  have follows : Follows (conduct free) (Returns fun _ _ => True) thread.rest (placeOf thread, ()) := abides.follows
  cases place : placeOf thread with
  | closed other operation streams =>
    rw [place] at own follows
    cases own
    obtain ⟨nonempty, brought⟩ := history.taken thread member number operation streams place
    have empty : streams = [] := List.eq_nil_iff_forall_not_mem.mpr fun stream waits =>
      pending_unshut recorded history member (by rw [place]; exact waits) (torn.streams stream (brought stream waits))
    obtain rfl : operation = none := by
      by_contra some
      exact nonempty some empty
    rw [empty] at follows
    obtain ⟨result, rest⟩ := closed_returned follows
    rw [Thread.returned, rest]
  | _ =>
    rw [place] at shut
    cases shut

/-- After a FatalError the call of a session does nothing more but clean up. -/
theorem fatal_cleans (warned : Warned calls) (member : thread ∈ calls.threads)
    (serves : Opened thread number ∨ Joined thread number)
    (bad : ∃ event ∈ thread.past, fatal event.operation event.reply) {op : ServerOp} (head : thread.rest.head = some op) :
    cleans op = true := by
  obtain ⟨kept, follows⟩ := warned.threads thread member
  have doomed : Doomed (thread.phase (conduct grave) (begin fun _ => false)) :=
    kept.lasting Doomed fatal (fun _ _ _ allowed bad => doomed_fatal allowed (fatal_written bad))
      (fun _ _ reply allowed doomed => doomed.next reply allowed) (.inr bad)
  have engaged : ∀ stream, (thread.phase (conduct grave) (begin fun _ => false)).1 ≠ .refused stream := by
    intro stream refused
    have refused : ((conduct grave).after (begin (fun _ => false) thread.task) thread.past).1 = .refused stream := refused
    rcases serves with opened | joined
    · have own := (opener_iff kept).mpr opened
      rw [refused] at own
      cases own
    · have own := (joiner_iff kept).mpr joined
      rw [refused] at own
      cases own
  cases rest : thread.rest with
  | pure value =>
    rw [rest] at head
    cases head
  | request performed next =>
    rw [rest] at head follows
    cases head
    exact (doomed.cleans follows.1).resolve_right fun ⟨⟨stream, refused⟩, _⟩ => engaged stream refused

/-- All that is known of a run, whatever the order in which its calls return. -/
structure Sound (calls : Calls profile σ) : Prop where
  accounted : Occupancy.Accounted calls
  recorded : Recorded free (fun _ _ => True) (fun _ => ()) Streams.Account calls
  warned : Warned calls
  history : History calls
  holders : Holders calls.shared (System.released calls)

theorem always_sound {moves : List (Move (Call profile.maxRxPayload) Outside)}
    (regular : Throughout (Calls.step policy) Regular moves ({ shared := {} } : Calls profile σ))
    (lives : Throughout (Calls.step policy) System.GrantsToLive moves ({ shared := {} } : Calls profile σ)) :
    Always (Calls.step policy) Sound moves ({ shared := {} } : Calls profile σ) := by
  have accounts := (Occupancy.always_accounted policy moves).and (Streams.always_accounted policy moves)
  have histories := accounts.strengthen regular (fun _ _ _ known history regular moved =>
    history.step known.1 known.2.account.fits regular moved) history_empty
  have holders : Always (Calls.step policy) (fun calls => Holders calls.shared (System.released calls)) moves
      ({ shared := {} } : Calls profile σ) :=
    always_of_invariant (fun _ held => held) (fun _ _ _ held lives moved => held.step lives moved)
      LockLifetime.holders_empty lives
  refine (((accounts.and (always_warned policy moves)).and histories).and holders).mono fun calls known => ?_
  obtain ⟨⟨⟨⟨accounted, recorded⟩, warned⟩, history⟩, holders⟩ := known
  exact ⟨accounted, recorded, warned, history, holders⟩

theorem Sound.opener (sound : Sound calls) (member : thread ∈ calls.threads) (joined : Joined thread number) :
    ∃ opener ∈ calls.threads, Opened opener number := by
  have own := (joiner_iff (sound.accounted.threads thread member).kept).mpr joined
  obtain ⟨session, held, -⟩ := sound.accounted.account.joined _ (List.mem_map_of_mem member) number own
  obtain ⟨other, present, opened⟩ := sound.history.opened number (List.getElem?_eq_some_iff.mp held).1
  exact ⟨other, present, (opener_iff (sound.accounted.threads other present).kept).mp opened⟩

theorem Sound.ends_iff (sound : Sound calls) : Ends calls ↔ InOrder calls := by
  constructor
  · intro ends joiner present returned event performed number joins opener member opened
    have torn := ends.tornDown joiner present number (.inr ⟨event, performed, joins⟩) returned
    exact tornDown_returned sound.accounted sound.recorded sound.history torn member opened
  · intro ordered
    have opener_ends : ∀ opener ∈ calls.threads, ∀ number, Opened opener number → opener.returned = true →
        TornDown number calls := fun opener member number opened returned =>
      closed_tornDown sound.accounted sound.recorded.account.fits sound.history sound.holders member
        (returned_place sound.accounted member opened returned)
    refine ⟨fun thread member number serves returned => ?_, fun thread member number serves bad op head =>
      fatal_cleans sound.warned member serves bad head⟩
    rcases serves with opened | joined
    · exact opener_ends thread member number opened returned
    · obtain ⟨opener, present, opened⟩ := sound.opener member joined
      obtain ⟨event, performed, joins⟩ := joined
      exact opener_ends opener present number opened (ordered thread member returned event performed number joins opener
        present opened)

end Ending

instance (calls : Calls profile σ) : Decidable (InOrder calls) := by
  unfold InOrder Opened
  infer_instance

instance (calls : Calls profile σ) : (move : Move (Call profile.maxRxPayload) Outside) → Decidable (Regular calls move)
  | .start (.serve _ stream _ _ _) => inferInstanceAs (Decidable (stream ∉ served calls))
  | .start .closeAll => isFalse id
  | .advance _ _ => isTrue trivial

/-- A client opens its synchronous channel, and joins its session with the asynchronous one.
Then the loops find the turns. -/
def connecting (turns : List Turn) : Call Profile.standard.maxRxPayload :=
  .serve [({ type := .initializeRequest, parameter := 0x01000000 } : Header).wire] 0 0 [] turns

def joining (turns : List Turn) : Call Profile.standard.maxRxPayload :=
  .serve [({ type := .asyncInitialize, parameter := 1 } : Header).wire] 1 0 [] turns

/-- The client is granted the exclusive lock and its synchronous channel ends, before it is told
about the lock and its asynchronous channel ends. -/
def syncFirst : List (Move (Call Profile.standard.maxRxPayload) Outside) :=
  .start (connecting [.ending none]) :: List.replicate 6 (.advance 0 obliging) ++
    .start (joining [.message { header := { type := .asyncLock, control := 1 } }, .ending none]) ::
      List.replicate 12 (.advance 1 obliging) ++
    List.replicate 5 (.advance 0 obliging) ++ [.advance 1 obliging]

/-- As long as no lock is granted to a session whose locks have been released, sessions end
as they should exactly when no asynchronous channel is left before the synchronous one. -/
theorem ends_iff_inOrder (profile : Profile) (policy : ResponsePolicy σ)
    (moves : List (Move (Call profile.maxRxPayload) Outside))
    (regular : Throughout (Calls.step policy) Regular moves ({ shared := {} } : Calls profile σ))
    (lives : Throughout (Calls.step policy) System.GrantsToLive moves ({ shared := {} } : Calls profile σ)) :
    Always (Calls.step policy) Ends moves ({ shared := {} } : Calls profile σ) ↔
      Always (Calls.step policy) InOrder moves ({ shared := {} } : Calls profile σ) :=
  (always_sound regular lives).congr fun _ sound => sound.ends_iff

theorem ends_sync_first :
    Throughout (Calls.step alwaysReadPolicy) Regular syncFirst ({ shared := {} } : Calls .standard Unit) ∧
      Throughout (Calls.step alwaysReadPolicy) System.GrantsToLive syncFirst ({ shared := {} } : Calls .standard Unit) ∧
      ∃ calls, finish (Calls.step alwaysReadPolicy) syncFirst ({ shared := {} } : Calls .standard Unit) = some calls ∧
        calls.threads.map (·.returned) = [true, true] ∧ Ends calls := by
  have regular : Throughout (Calls.step alwaysReadPolicy) Regular syncFirst
      ({ shared := {} } : Calls .standard Unit) := by decide +kernel
  have lives : Throughout (Calls.step alwaysReadPolicy) System.GrantsToLive syncFirst
      ({ shared := {} } : Calls .standard Unit) := by decide +kernel
  have ordered : Always (Calls.step alwaysReadPolicy) InOrder syncFirst
      ({ shared := {} } : Calls .standard Unit) := by decide +kernel
  exact ⟨regular, lives, _, rfl, rfl,
    ((ends_iff_inOrder .standard alwaysReadPolicy syncFirst regular lives).mpr ordered).finish rfl⟩

/-- A second initialization on the asynchronous channel is answered by a FatalError, its call
returns, and nothing happens to the session. -/
theorem fatal_leaves_session : ∃ calls, finish (Calls.step alwaysReadPolicy)
      (.start (connecting []) :: List.replicate 6 (.advance 0 obliging) ++
        .start (joining [.message { header := { type := .asyncInitialize, parameter := 1 } }]) ::
          List.replicate 9 (.advance 1 obliging)) ({ shared := {} } : Calls .standard Unit) = some calls ∧
    calls.threads.map (·.returned) = [false, true] ∧
    (∃ thread ∈ calls.threads, Joined thread 0 ∧ ∃ event ∈ thread.past, fatal event.operation event.reply) ∧
    calls.shared.sessions.lookup 1 = some 0 ∧ calls.shared.made.map (·.state) = [.ready] ∧ allShut calls = [] ∧
    ¬ Ends calls := by
  refine ⟨_, rfl, rfl, ⟨_, List.mem_of_getElem? (i := 1) rfl, ⟨_, List.mem_of_getElem? (i := 1) rfl, rfl⟩,
    _, List.mem_of_getElem? (i := 8) rfl, rfl, rfl⟩, rfl, rfl, rfl, fun ends => ?_⟩
  have torn := ends.tornDown _ (List.mem_of_getElem? (i := 1) rfl) 0
    (.inr ⟨_, List.mem_of_getElem? (i := 1) rfl, rfl⟩) rfl
  exact torn.unregistered 1 rfl

end Hislip.Proofs.SessionEnd
