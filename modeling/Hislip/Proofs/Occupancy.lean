import Hislip.Proofs.Handshake
import Hislip.Proofs.Lifecycle
import Hislip.Proofs.Serving

/-! Which calls a session belongs to. A registered session is held by the call that opened
it, which has not returned; and besides that call only the one that joined it works on it. -/

namespace Hislip.Proofs.Occupancy
open Hislip.Server Hislip.Threads Transition Program Footprint Serving
open Lifecycle (apply_progress allocateID_fresh)
open Handshake (Named)

def opens : (op : ServerOp) → op.Reply → Option Nat
  | .allocateSession _ _, .ok (session, _) => some session
  | _, _ => none

def joins : (op : ServerOp) → op.Reply → Option Nat
  | .session session (.attachAsync _), none => some session
  | _, _ => none

/-- The sessions that the operation takes from the registry to close them. -/
def takes : (op : ServerOp) → op.Reply → Option (List Nat)
  | .takeAll, all => some all
  | _, _ => none

section Places

/-- The session that the call has opened and not yet unregistered. -/
def holds : Place → Option Nat
  | .opened session | .greeted session | .equipped session | .serving session | .leaving session
  | .released session => some session
  | _ => none

def opener : Place → Option Nat
  | .unregistered session | .closed session _ _ => some session
  | place => holds place

def joiner : Place → Option Nat
  | .joined session | .stranded session | .welcomed session | .furnished session | .attending session => some session
  | _ => none

def sweeper : Place → Option (List Nat)
  | .swept all _ _ _ => some all
  | _ => none

def sweeps : Place → Bool
  | .sweeping | .swept _ _ _ _ => true
  | _ => false

variable {Ψ : Type} {inner : Discipline Op Op.Reply Ψ} {place : Place} {phase : Ψ} {op : ServerOp} {reply : op.Reply}
  {session : Nat}

theorem sweeps_next (allowed : (conduct inner).allowed (place, phase) op) (reply : op.Reply) :
    sweeps (place.next op reply) = sweeps place := by
  rcases advance_cases allowed reply with ⟨_, -, -, same⟩ | ⟨next, step, same⟩
  · rw [show place.next op reply = place from congrArg Prod.fst same]
  · rw [show place.next op reply = next from congrArg Prod.fst same]
    cases step <;> rfl

/-- What the step of a call does to the sessions that it has opened, joined or taken. -/
structure Steps (place next : Place) (op : ServerOp) (reply : op.Reply) : Prop where
  opener : opener next = (opens op reply).or (opener place)
  joiner : joiner next = (joins op reply).or (joiner place)
  sweeper : sweeper next = (takes op reply).or (sweeper place)
  holds : holds next = (opens op reply).or (holds place) ∨
    ∃ session, op = .unregister session ∧ place = .released session

theorem loop_none (handles : Handles inner session phase op) (reply : op.Reply) :
    opens op reply = none ∧ joins op reply = none ∧ takes op reply = none := by
  obtain ⟨-, loop, performs, plain, -⟩ := handles
  cases op with
  | session number op =>
    cases performs
    cases op with
    | attachAsync stream => exact absurd rfl plain
    | _ => exact ⟨rfl, rfl, rfl⟩
  | allocateSession _ _ | takeAll => cases performs
  | _ => exact ⟨rfl, rfl, rfl⟩

theorem next_steps (allowed : (conduct inner).allowed (place, phase) op) (reply : op.Reply) :
    Steps place (place.next op reply) op reply := by
  rcases advance_cases allowed reply with ⟨session, -, handles, same⟩ | ⟨next, step, same⟩
  · obtain ⟨opening, joining, taking⟩ := loop_none handles reply
    rw [show place.next op reply = place from congrArg Prod.fst same]
    refine ⟨?_, ?_, ?_, .inl ?_⟩
    · rw [opening, Option.none_or]
    · rw [joining, Option.none_or]
    · rw [taking, Option.none_or]
    · rw [opening, Option.none_or]
  · rw [show place.next op reply = next from congrArg Prod.fst same]
    cases step with
    | unregisters => exact ⟨rfl, rfl, rfl, .inr ⟨_, rfl, rfl⟩⟩
    | _ => exact ⟨rfl, rfl, rfl, .inl rfl⟩

theorem or_kept {ρ : Type} {gets had : Option ρ} {value : ρ} (fresh : ∀ other, gets = some other → had = none)
    (has : had = some value) : gets.or had = some value := by
  cases new : gets with
  | none => exact has
  | some other =>
    rw [fresh other new] at has
    cases has

theorem place_bare {limit : UInt64} (call : Call limit) :
    opener call.place = none ∧ joiner call.place = none ∧ sweeper call.place = none ∧ holds call.place = none := by
  cases call <;> exact ⟨rfl, rfl, rfl, rfl⟩

theorem opens_fresh (allowed : (conduct inner).allowed (place, phase) op) (opened : opens op reply = some session) :
    ∃ stream, place = .fresh .synchronous stream := by
  rcases advance_cases allowed reply with ⟨_, -, handles, -⟩ | ⟨next, step, -⟩
  · rw [(loop_none handles reply).1] at opened
    cases opened
  · cases step with
    | allocates => exact ⟨_, rfl⟩
    | _ => cases opened

theorem joins_fresh (allowed : (conduct inner).allowed (place, phase) op) (joined : joins op reply = some session) :
    joiner place = none := by
  rcases advance_cases allowed reply with ⟨_, -, handles, -⟩ | ⟨next, step, -⟩
  · rw [(loop_none handles reply).2.1] at joined
    cases joined
  · cases step with
    | attaches => rfl
    | _ => cases joined

theorem takes_fresh {all : List Nat} (allowed : (conduct inner).allowed (place, phase) op)
    (taken : takes op reply = some all) : sweeper place = none := by
  rcases advance_cases allowed reply with ⟨_, -, handles, -⟩ | ⟨next, step, -⟩
  · rw [(loop_none handles reply).2.2] at taken
    cases taken
  · cases step with
    | takesAll => rfl
    | _ => cases taken

end Places

section Registry
variable {σ : Type} {profile : Profile} {policy : ResponsePolicy σ} {outside : Outside} {op : ServerOp}
  {reply : op.Reply} {before after : Registry σ} {number : Nat}

def Paired (registry : Registry σ) (number : Nat) : Prop :=
  ∃ session, registry.made[number]? = some session ∧ session.state ≠ .pairing

theorem made_grows (applied : op.apply profile policy outside before = some (reply, after)) :
    before.made.length ≤ after.made.length := by
  rcases apply_cases applied with ⟨same, -⟩ | ⟨_, _, _, -, -, made, -⟩ | ⟨_, _, _, -, made, -⟩
  · rw [same]
  · rw [made, List.length_set]
  · rw [made, List.length_append]
    omega

theorem Paired.apply (paired : Paired before number)
    (applied : op.apply profile policy outside before = some (reply, after)) : Paired after number :=
  session_kept applied (fun inner session _ past pairing => past ((apply_progress policy inner session).pairing pairing))
    paired

theorem opens_last (applied : op.apply profile policy outside before = some (reply, after))
    (opened : opens op reply = some number) : number = before.made.length ∧ number < after.made.length := by
  cases op with
  | allocateSession version stream =>
    cases reply with
    | error err => cases opened
    | ok made =>
      cases opened
      simp only [ServerOp.apply, Registry.allocateSession, Option.some.injEq] at applied
      split at applied
      next => cases applied
      next =>
        split at applied
        next => cases applied
        next =>
          cases applied
          exact ⟨rfl, by simp⟩
  | _ => cases opened

theorem opens_made {version : SessionVersion} {stream : Stream} {reply : (ServerOp.allocateSession version stream).Reply}
    (applied : (ServerOp.allocateSession version stream).apply profile policy outside before = some (reply, after))
    (made : after.made ≠ before.made) : opens (.allocateSession version stream) reply = some before.made.length := by
  simp only [ServerOp.apply, Registry.allocateSession, Option.some.injEq] at applied
  split at applied
  next =>
    cases applied
    exact absurd rfl made
  next =>
    split at applied
    next =>
      cases applied
      exact absurd rfl made
    next =>
      cases applied
      rfl

theorem joins_pairing (applied : op.apply profile policy outside before = some (reply, after))
    (joined : joins op reply = some number) : ¬ Paired before number ∧ Paired after number := by
  cases op with
  | session session op =>
    cases op with
    | attachAsync stream =>
      cases reply with
      | some err => cases joined
      | none =>
        cases joined
        obtain ⟨found, held, same⟩ := Option.map_eq_some_iff.mp applied
        have bound := (List.getElem?_eq_some_iff.mp held).1
        simp only [SessionOp.apply, Session.attachAsync] at same
        split at same
        next => cases same
        next pairing =>
          split at same
          next => cases same
          next =>
            cases same
            refine ⟨fun paired => ?_, _, List.getElem?_set_self bound, State.noConfusion⟩
            obtain ⟨session, standing, past⟩ := paired
            obtain rfl : session = found := Option.some.inj (standing.symm.trans held)
            exact pairing past
    | _ => cases joined
  | _ => cases joined

theorem unregister_gone (named : Named before)
    (applied : (ServerOp.unregister number).apply profile policy outside before = some ((), after)) (id : UInt16) :
    after.sessions.lookup id ≠ some number := by
  obtain ⟨session, held, same⟩ := Option.map_eq_some_iff.mp applied
  cases same
  intro found
  by_cases own : id = session.id
  · rw [own, AList.lookup_erase] at found
    cases found
  · rw [AList.lookup_erase_ne own] at found
    obtain ⟨other, standing, rfl⟩ := named id number found
    exact own (congrArg Session.id (Option.some.inj (standing.symm.trans held)))

end Registry

section Accounts
variable {σ : Type} {profile : Profile} {policy : ResponsePolicy σ} {registry : Registry σ}
  {phases : List (Call profile.maxRxPayload × (Place × Unit))} {call : Call profile.maxRxPayload} {after : Registry σ}
  {outside : Outside}

structure Account (registry : Registry σ) (phases : List (Call profile.maxRxPayload × (Place × Unit))) : Prop where
  named : Named registry
  held : ∀ id number, registry.sessions.lookup id = some number → ∃ entry ∈ phases, holds entry.2.1 = some number
  opened : ∀ entry ∈ phases, ∀ number, opener entry.2.1 = some number → number < registry.made.length
  joined : ∀ entry ∈ phases, ∀ number, joiner entry.2.1 = some number → Paired registry number
  openers : Sole (fun entry => opener entry.2.1) phases
  joiners : Sole (fun entry => joiner entry.2.1) phases

theorem Account.start (account : Account registry phases) (call : Call profile.maxRxPayload) :
    Account registry (phases ++ [(call, begin (fun _ => ()) call)]) := by
  obtain ⟨unopened, unjoined, -, -⟩ := place_bare call
  refine ⟨account.named, fun id number found => exists_concat (account.held id number found) _,
    forall_concat account.opened fun number opened => ?_, forall_concat account.joined fun number joined => ?_,
    account.openers.concat unopened, account.joiners.concat unjoined⟩
  · cases unopened.symm.trans opened
  · cases unjoined.symm.trans joined

theorem Account.held_next (account : Account registry phases) {number : Nat} {place : Place} {op : ServerOp}
    {reply : op.Reply} (listed : phases[number]? = some (call, (place, ())))
    (allowed : (conduct free).allowed (place, ()) op)
    (applied : op.apply profile policy outside registry = some (reply, after)) {id : UInt16} {session : Nat}
    (found : after.sessions.lookup id = some session) :
    ∃ entry ∈ phases.set number (call, (conduct free).advance (place, ()) op reply), holds entry.2.1 = some session := by
  -- A call that held the session holds it still, unless it is the one that unregistered it.
  have holder (one : ∃ entry ∈ phases, holds entry.2.1 = some session) :
      ∃ entry ∈ phases.set number (call, (conduct free).advance (place, ()) op reply), holds entry.2.1 = some session := by
    refine exists_set listed one (fun _ still => still) fun holding => ?_
    rcases (next_steps allowed reply).holds with same | ⟨gone, rfl, rfl⟩
    · refine same.trans (or_kept (fun fresh new => ?_) holding)
      obtain ⟨stream, rfl⟩ := opens_fresh allowed new
      rfl
    · cases holding
      exact absurd found (unregister_gone account.named applied id)
  rcases apply_cases applied with ⟨-, fewer⟩ | ⟨_, _, _, -, -, -, kept⟩ | ⟨version, stream, new, rfl, made, inserted⟩
  · exact holder (account.held id session (fewer id session found))
  · rw [kept] at found
    exact holder (account.held id session found)
  · by_cases own : id = new
    · subst own
      rw [inserted, AList.lookup_insert, Option.some_inj] at found
      subst found
      have grown : after.made ≠ registry.made := by
        rw [made]
        simp
      rcases (next_steps allowed reply).holds with same | ⟨_, impossible, -⟩
      · rw [opens_made applied grown, Option.some_or] at same
        exact exists_set_new listed same
      · cases impossible
    · rw [inserted, AList.lookup_insert_ne own] at found
      exact holder (account.held id session found)

theorem Account.advance (account : Account registry phases) {number : Nat} {place : Place} {op : ServerOp}
    {reply : op.Reply} (listed : phases[number]? = some (call, (place, ())))
    (allowed : (conduct free).allowed (place, ()) op)
    (applied : op.apply profile policy outside registry = some (reply, after)) :
    Account after (phases.set number (call, (conduct free).advance (place, ()) op reply)) := by
  have steps := next_steps allowed reply
  have member := List.mem_of_getElem? listed
  -- The session that the moving call has opened or joined afterwards is new, or was its own before.
  have opens_new : ∀ session, opener (place.next op reply) = some session →
      opener place = some session ∨ session = registry.made.length ∧ session < after.made.length := by
    intro session now
    rcases Option.or_eq_some_iff.mp (steps.opener.symm.trans now) with new | ⟨-, own⟩
    · exact .inr (opens_last applied new)
    · exact .inl own
  have joins_new : ∀ session, joiner (place.next op reply) = some session →
      joiner place = some session ∨ ¬ Paired registry session ∧ Paired after session := by
    intro session now
    rcases Option.or_eq_some_iff.mp (steps.joiner.symm.trans now) with new | ⟨-, own⟩
    · exact .inr (joins_pairing applied new)
    · exact .inl own
  refine ⟨account.named.apply applied, fun id session found => account.held_next listed allowed applied found,
    forall_set account.opened (fun entry bounded session opened => ?_) fun session opened => ?_,
    forall_set account.joined (fun entry paired session joined => (paired session joined).apply applied)
      fun session joined => ?_,
    account.openers.set listed fun session now => ?_, account.joiners.set listed fun session now => ?_⟩
  · exact Nat.lt_of_lt_of_le (bounded session opened) (made_grows applied)
  · rcases opens_new session opened with own | ⟨-, bound⟩
    · exact Nat.lt_of_lt_of_le (account.opened _ member session own) (made_grows applied)
    · exact bound
  · rcases joins_new session joined with own | ⟨-, paired⟩
    · exact (account.joined _ member session own).apply applied
    · exact paired
  · refine (opens_new session now).imp id fun fresh entry old opened => ?_
    have bound := account.opened entry old session opened
    omega
  · exact (joins_new session now).imp id fun fresh entry old joined =>
      fresh.1 (account.joined entry old session joined)

end Accounts

section Pasts
variable {limit : UInt64} {Ψ : Type} {inner : Discipline Op Op.Reply Ψ} {phase : Call limit → Ψ}
  {thread : Thread (Call limit) ServerOp.Reply (Option Err)} {session : Nat}

/-- The session whose method the operation is. The attempt to join one is not yet work. -/
def works : ServerOp → Option Nat
  | .session _ (.attachAsync _) => none
  | .session session _ => some session
  | _ => none

def Opened (thread : Thread (Call limit) ServerOp.Reply (Option Err)) (session : Nat) : Prop :=
  ∃ event ∈ thread.past, opens event.operation event.reply = some session

def Joined (thread : Thread (Call limit) ServerOp.Reply (Option Err)) (session : Nat) : Prop :=
  ∃ event ∈ thread.past, joins event.operation event.reply = some session

def Took (thread : Thread (Call limit) ServerOp.Reply (Option Err)) (session : Nat) : Prop :=
  ∃ event ∈ thread.past, ∃ all, takes event.operation event.reply = some all ∧ session ∈ all

variable {place : Place} {ready : Ψ} {call : Call limit} {past : List (Performed ServerOp.Reply)}

theorem opener_iff (kept : (conduct inner).Kept (begin phase call) past) :
    opener ((conduct inner).after (begin phase call) past).1 = some session ↔
      ∃ event ∈ past, opens event.operation event.reply = some session := by
  have none : opener call.place ≠ some session := by
    rw [(place_bare call).1]
    nofun
  refine (kept.key_iff (fun phase => opener phase.1) opens
    (fun _ _ reply allowed => (next_steps allowed reply).opener) ?_).trans (or_iff_right none)
  intro ⟨place, _⟩ op reply value allowed opened
  obtain ⟨stream, rfl⟩ := opens_fresh allowed opened
  rfl

theorem joiner_iff (kept : (conduct inner).Kept (begin phase call) past) :
    joiner ((conduct inner).after (begin phase call) past).1 = some session ↔
      ∃ event ∈ past, joins event.operation event.reply = some session := by
  have none : joiner call.place ≠ some session := by
    rw [(place_bare call).2.1]
    nofun
  exact (kept.key_iff (fun phase => joiner phase.1) joins
    (fun _ _ reply allowed => (next_steps allowed reply).joiner) fun _ _ _ _ => joins_fresh).trans (or_iff_right none)

theorem sweeper_iff (kept : (conduct inner).Kept (begin phase call) past) {all : List Nat} :
    sweeper ((conduct inner).after (begin phase call) past).1 = some all ↔
      ∃ event ∈ past, takes event.operation event.reply = some all := by
  have none : sweeper call.place ≠ some all := by
    rw [(place_bare call).2.2.1]
    nofun
  exact (kept.key_iff (fun phase => sweeper phase.1) takes
    (fun _ _ reply allowed => (next_steps allowed reply).sweeper) fun _ _ _ _ => takes_fresh).trans (or_iff_right none)

theorem works_own {op : ServerOp} (allowed : (conduct inner).allowed (place, ready) op) (reply : op.Reply)
    (worked : works op = some session) :
    opener place = some session ∨ joiner place = some session ∨ ∃ all, sweeper place = some all ∧ session ∈ all := by
  rcases advance_cases allowed reply with ⟨own, loops, ⟨concerned, -⟩, -⟩ | ⟨next, step, -⟩
  · obtain rfl : own = session := by
      cases op with
      | session number op =>
        obtain rfl : number = own := concerned
        cases op <;> cases worked <;> rfl
      | _ => cases worked
    cases place with
    | serving _ => exact .inl loops
    | attending _ => exact .inr (.inl loops)
    | _ => cases loops
  · cases step with
    | equips | sizes | serves | closesOne =>
      cases worked
      exact .inl rfl
    | furnishes | attends =>
      cases worked
      exact .inr (.inl rfl)
    | closesNext inside =>
      cases worked
      exact .inr (.inr ⟨_, rfl, inside⟩)
    | _ => cases worked

end Pasts

section Runs
variable {σ : Type} {profile : Profile} {thread : Thread (Call profile.maxRxPayload) ServerOp.Reply (Option Err)}
  {session : Nat}

abbrev Accounted (calls : Calls profile σ) : Prop :=
  calls.Lawful (conduct free) (Returns fun _ _ => True) (begin fun _ => ()) Account

theorem always_accounted (policy : ResponsePolicy σ) (moves : List (Move (Call profile.maxRxPayload) Outside)) :
    Always (Calls.step policy) Accounted moves ({ shared := {} } : Calls profile σ) := by
  have opens : Account ({} : Registry σ) ([] : List (Call profile.maxRxPayload × (Place × Unit))) := by
    refine ⟨fun _ _ found => ?_, fun _ _ found => ?_, fun _ => nofun, fun _ => nofun, fun _ _ _ _ _ => nofun,
      fun _ _ _ _ _ => nofun⟩
    all_goals
      rw [AList.lookup_empty] at found
      cases found
  refine always_conducted (free_rules profile) (free_prepared profile) opens (fun _ _ call account => account.start call) ?_
    moves
  intro registry phases number call place last op outside reply after account listed allowed applied
  refine ⟨fun _ => ?_, account.advance listed allowed applied⟩
  cases op <;> trivial

theorem holds_none {Ψ : Type} {ends : Option Err → Ψ → Prop} {result : Option Err} {phase : Place × Ψ}
    (returns : Returns ends result phase) : holds phase.1 = none := by
  obtain ⟨place, _⟩ := phase
  rcases returns_cases returns with ⟨rfl | ⟨session, rfl⟩, -⟩ | ⟨⟨session, rfl | rfl⟩, -⟩ | ⟨sessions, rfl⟩ <;> rfl

theorem opener_of_holds {place : Place} (holding : holds place = some session) : opener place = some session := by
  cases place <;> first | exact holding | cases holding

theorem holds_calm {place : Place} (holding : holds place = some session) : sweeps place = false := by
  cases place <;> first | rfl | cases holding

theorem numbers_nodup {registry : Registry σ} (named : Named registry) :
    (registry.sessions.entries.map (·.2)).Nodup := by
  refine List.Nodup.map_on (fun one first two second same => ?_) registry.sessions.nodupKeys.nodup
  obtain ⟨session, held, left⟩ := named one.1 one.2 (AList.mem_lookup_iff.mpr first)
  obtain ⟨other, standing, right⟩ := named two.1 two.2 (AList.mem_lookup_iff.mpr second)
  rw [← same, held, Option.some_inj] at standing
  rw [← standing] at right
  exact Sigma.ext (left.symm.trans right) (heq_of_eq same)

def serves {limit : UInt64} : Call limit → Bool
  | .serve _ _ _ _ _ => true
  | .closeAll => false

theorem holds_serves (abides : thread.Abides (conduct free) (Returns fun _ _ => True) (begin fun _ => ()))
    (holding : holds (thread.phase (conduct free) (begin fun _ => ())).1 = some session) :
    serves thread.task = true := by
  cases task : thread.task with
  | serve => rfl
  | closeAll =>
    have kept := abides.kept
    have sweeping : sweeps (thread.phase (conduct free) (begin fun _ => ())).1 = true :=
      kept.lasting (fun phase => sweeps phase.1 = true) (fun _ _ => False) (fun _ _ _ _ => nofun)
        (fun _ _ reply allowed => (sweeps_next allowed reply).trans) (.inl (by rw [task]; rfl))
    exact absurd (sweeping.symm.trans (holds_calm holding)) Bool.noConfusion

/-- Every registered session was opened by a call that has not returned, and no two by the
same one, so that there are no more of them than connections served. -/
theorem sessions_held (profile : Profile) (policy : ResponsePolicy σ)
    (moves : List (Move (Call profile.maxRxPayload) Outside)) :
    Always (Calls.step policy)
      (fun calls =>
        (∀ id session, calls.shared.sessions.lookup id = some session →
          ∃ thread ∈ calls.threads, thread.returned = false ∧ Opened thread session) ∧
        calls.shared.sessions.entries.length ≤
          calls.threads.countP fun thread => serves thread.task && !thread.returned)
      moves ({ shared := {} } : Calls profile σ) := by
  refine (always_accounted policy moves).mono fun calls accounted => ?_
  have holder : ∀ id session, calls.shared.sessions.lookup id = some session → ∃ thread ∈ calls.threads,
      holds (thread.phase (conduct free) (begin fun _ => ())).1 = some session := by
    intro id session found
    obtain ⟨entry, listed, holding⟩ := accounted.account.held id session found
    obtain ⟨thread, member, rfl⟩ := List.mem_map.mp listed
    exact ⟨thread, member, holding⟩
  refine ⟨fun id session found => ?_, ?_⟩
  · obtain ⟨thread, member, holding⟩ := holder id session found
    have abides := accounted.threads thread member
    refine ⟨thread, member, abides.unreturned (fun phase => holds phase.1) (fun _ _ => holds_none) holding, ?_⟩
    exact (opener_iff abides.kept).mp (opener_of_holds holding)
  · have each : ∀ session ∈ calls.shared.sessions.entries.map (·.2), ∃ thread ∈ calls.threads,
        serves thread.task = true ∧ holds (thread.phase (conduct free) (begin fun _ => ())).1 = some session := by
      intro session member
      obtain ⟨entry, registered, rfl⟩ := List.mem_map.mp member
      obtain ⟨thread, present, holding⟩ := holder entry.1 entry.2 (AList.mem_lookup_iff.mpr registered)
      exact ⟨thread, present, holds_serves (accounted.threads thread present) holding, holding⟩
    have bounded := Chronicle.Lawful.held_le accounted serves (numbers_nodup accounted.account.named) each
      fun _ _ returns => holds_none returns
    rwa [List.length_map] at bounded

theorem phases_getElem {calls : Calls profile σ} {index : Nat} (found : calls.threads[index]? = some thread) :
    (calls.phases (conduct free) (begin fun _ => ()))[index]? =
      some (thread.task, thread.phase (conduct free) (begin fun _ => ())) := by
  rw [Chronicle.phases, List.getElem?_map, found]
  rfl

/-- A session is opened by one call and joined by one at most, and no other call uses a method
of it unless it took it from the registry to close it. -/
theorem sessions_private (profile : Profile) (policy : ResponsePolicy σ)
    (moves : List (Move (Call profile.maxRxPayload) Outside)) :
    Always (Calls.step policy)
      (fun calls =>
        (∀ (first second : Nat) one two session, calls.threads[first]? = some one → calls.threads[second]? = some two →
          Opened one session ∧ Opened two session ∨ Joined one session ∧ Joined two session → first = second) ∧
        ∀ thread ∈ calls.threads, ∀ event ∈ thread.past, ∀ session, works event.operation = some session →
          Opened thread session ∨ Joined thread session ∨ Took thread session)
      moves ({ shared := {} } : Calls profile σ) := by
  refine (always_accounted policy moves).mono fun calls accounted => ⟨?_, ?_⟩
  · intro first second one two session left right both
    have keptOne := (accounted.threads one (List.mem_of_getElem? left)).kept
    have keptTwo := (accounted.threads two (List.mem_of_getElem? right)).kept
    rcases both with ⟨here, there⟩ | ⟨here, there⟩
    · exact accounted.account.openers first second _ _ session (phases_getElem left) (phases_getElem right)
        ((opener_iff keptOne).mpr here) ((opener_iff keptTwo).mpr there)
    · exact accounted.account.joiners first second _ _ session (phases_getElem left) (phases_getElem right)
        ((joiner_iff keptOne).mpr here) ((joiner_iff keptTwo).mpr there)
  · intro thread member event performed session worked
    obtain ⟨before, after, split⟩ := List.append_of_mem performed
    have kept := (accounted.threads thread member).kept
    rw [split, Discipline.kept_append] at kept
    obtain ⟨early, allowed, -⟩ := kept
    have among : ∀ event ∈ before, event ∈ thread.past := fun event inside => split ▸ List.mem_append_left _ inside
    -- What the call has by then, it has by an operation that came before.
    rcases works_own allowed event.reply worked with opened | joined | ⟨all, taken, inside⟩
    · obtain ⟨event, earlier, opening⟩ := (opener_iff early).mp opened
      exact .inl ⟨event, among event earlier, opening⟩
    · obtain ⟨event, earlier, joining⟩ := (joiner_iff early).mp joined
      exact .inr (.inl ⟨event, among event earlier, joining⟩)
    · obtain ⟨event, earlier, taking⟩ := (sweeper_iff early).mp taken
      exact .inr (.inr ⟨event, among event earlier, all, taking, inside⟩)

end Runs

end Hislip.Proofs.Occupancy
