import Mathlib.Algebra.Order.Group.Multiset
import Hislip.Proofs.Occupancy

/-! Who has the stream of a connection. A call has it until it closes it or hands it to a
session, and a session has its streams until a call takes them out to close them; so none
is lost and none is closed twice. -/

namespace Hislip.Proofs.Streams
open Hislip.Server Hislip.Threads Transition Program Footprint Serving
open Lifecycle (Fits fits_new apply_progress)
open Occupancy (opens opens_made)

section Flow
variable {Ψ : Type} {inner : Discipline Op Op.Reply Ψ} {place : Place} {phase : Ψ} {op : ServerOp}

def pending : Place → List Stream
  | .fresh _ stream | .found _ stream => [stream]
  | .refused stream => stream.toList
  | .closed _ _ streams | .swept _ _ _ streams => streams
  | _ => []

def closing : Place → List Nat
  | .opened session | .greeted session | .equipped session | .serving session | .leaving session
  | .released session | .unregistered session => [session]
  | .swept _ left _ _ => left
  | _ => []

/-- The streams that go from a call to a session. -/
def given : (op : ServerOp) → op.Reply → List Stream
  | .allocateSession _ stream, .ok _ => [stream]
  | .session _ (.attachAsync stream), none => [stream]
  | _, _ => []

/-- The streams that come back from a session when it is closed. -/
def regained : (op : ServerOp) → op.Reply → List Stream
  | .session _ .close, (streams, _) => streams
  | _, _ => []

def closes : ServerOp → List Stream
  | .closeStream stream => [stream]
  | _ => []

theorem loop_aside {session : Nat} (handles : Handles inner session phase op) (reply : op.Reply) :
    given op reply = [] ∧ regained op reply = [] ∧ closes op = [] := by
  obtain ⟨-, loop, performs, plain, -⟩ := handles
  cases op with
  | session number op =>
    cases performs
    cases op with
    | attachAsync stream | close => exact absurd rfl plain
    | _ => exact ⟨rfl, rfl, rfl⟩
  | allocateSession version stream | closeStream stream => cases performs
  | _ => exact ⟨rfl, rfl, rfl⟩

theorem pending_next (allowed : (conduct inner).allowed (place, phase) op) (reply : op.Reply) :
    (pending ((conduct inner).advance (place, phase) op reply).1 ++ given op reply ++ closes op).Perm
      (pending place ++ regained op reply) := by
  rcases advance_cases allowed reply with ⟨session, -, handles, same⟩ | ⟨next, step, same⟩
  · obtain ⟨gives, regains, shuts⟩ := loop_aside handles reply
    rw [same, gives, regains, shuts, List.append_nil]
  rw [same]
  cases step with
  | closesOne | closesNext | cancelsOne | cancelsNext => simp [pending, given, regained, closes]
  | @shutsOne _ stream rest | @shutsNext _ _ stream rest =>
    simp only [pending, given, regained, closes, List.append_nil]
    exact List.perm_append_singleton stream rest
  | _ => exact .refl _

theorem closing_next {number : Nat} (allowed : (conduct inner).allowed (place, phase) op) (reply : op.Reply)
    (member : number ∈ closing place) :
    number ∈ closing ((conduct inner).advance (place, phase) op reply).1 ∨ op = .session number .close := by
  rcases advance_cases allowed reply with ⟨session, -, -, same⟩ | ⟨next, step, same⟩
  · rw [same]
    exact .inl member
  rw [same]
  cases step with
  | closesOne => exact .inr (by rw [List.mem_singleton.mp member])
  | closesNext =>
    rcases List.mem_cons.mp member with rfl | later
    · exact .inr rfl
    · exact .inl later
  | _ => first | exact .inl member | cases member

theorem opens_closing {reply : op.Reply} {number : Nat} (opened : opens op reply = some number) :
    closing ((conduct inner).advance (place, phase) op reply).1 = [number] := by
  cases op with
  | allocateSession version stream =>
    cases reply with
    | error err => cases opened
    | ok made => exact congrArg (fun number => [number]) (Option.some.inj opened)
  | _ => cases opened

end Flow

section Balance
variable {σ : Type} {profile : Profile} {policy : ResponsePolicy σ} {outside : Outside} {op : ServerOp}
  {reply : op.Reply} {before after : Registry σ}

def attached (session : Session σ) : Multiset Stream := ↑session.sync.toList + ↑session.async.toList

theorem detached {session : Session σ} (fits : Fits session) (closed : session.state = .closed) :
    attached session = 0 := by
  unfold Fits at fits
  rw [closed] at fits
  simp only [attached, fits, Option.toList_none, Multiset.coe_nil, add_zero]

theorem attached_apply (policy : ResponsePolicy σ) (number : Nat) (op : SessionOp) (session : Session σ) :
    attached (op.apply policy session).2 + ↑(regained (.session number op) (op.apply policy session).1) =
      attached session + ↑(given (.session number op) (op.apply policy session).1) := by
  cases op with
  | attachAsync stream =>
    simp only [SessionOp.apply, Session.attachAsync]
    split
    next => rfl
    next =>
      split
      next => rfl
      next free =>
        have empty : session.async = none := not_not.mp free
        simp [attached, given, regained, empty]
  | close => simp [SessionOp.apply, Session.close, attached, given, regained]
  | beginClear =>
    simp only [SessionOp.apply, Session.beginClear]
    split <;> rfl
  | disposition =>
    simp only [SessionOp.apply]
    cases session.policy <;> rfl
  | _ => rfl

def kept (registry : Registry σ) : Multiset Stream := (registry.made.map attached).sum

theorem kept_apply (applied : op.apply profile policy outside before = some (reply, after)) :
    kept after + ↑(regained op reply) = kept before + ↑(given op reply) := by
  cases op with
  | session number op =>
    obtain ⟨found, standing, same⟩ := Option.map_eq_some_iff.mp applied
    cases same
    have total := sum_set standing attached (op.apply policy found).2
    have here := attached_apply policy number op found
    refine add_right_cancel (b := attached found) ?_
    calc
      kept { before with made := before.made.set number (op.apply policy found).2 } +
            ↑(regained (.session number op) (op.apply policy found).1) + attached found
          = kept before + attached (op.apply policy found).2 +
              ↑(regained (.session number op) (op.apply policy found).1) := by rw [kept, kept, ← total]; abel
      _ = kept before + ↑(given (.session number op) (op.apply policy found).1) + attached found := by
        rw [add_assoc, here]; abel
  | allocateSession version stream =>
    simp only [ServerOp.apply, Registry.allocateSession, Option.some.injEq] at applied
    split at applied
    next =>
      cases applied
      rfl
    next =>
      split at applied
      next =>
        cases applied
        rfl
      next =>
        cases applied
        simp [kept, given, regained, attached, Session.new]
  | _ =>
    rcases apply_cases applied with ⟨same, -⟩ | ⟨_, _, _, impossible, -⟩ | ⟨_, _, _, impossible, -⟩
    · rw [kept, same]
      rfl
    · cases impossible
    · cases impossible

end Balance

section Accounts
variable {σ : Type} {profile : Profile} {policy : ResponsePolicy σ} {registry after : Registry σ} {op : ServerOp}
  {outside : Outside} {reply : op.Reply} {number : Nat}
  {phases : List (Entry profile Unit)}

def brings {limit : UInt64} : Call limit → List Stream
  | .serve _ stream _ _ _ => [stream]
  | .closeAll => []

def shut (past : List (Performed ServerOp.Reply)) : List Stream := past.flatMap fun event => closes event.operation

def streams (entry : Entry profile Unit) : Multiset Stream := ↑(pending entry.place) + ↑(shut entry.past)

/-- The streams of the sessions and of the calls are those that the calls were given, and every
session that is not closed is one that a call is to close. -/
structure Account (registry : Registry σ) (phases : List (Entry profile Unit)) : Prop where
  conserved : kept registry + (phases.map streams).sum =
    (phases.map fun entry => (brings entry.1 : Multiset Stream)).sum
  fits : ∀ session ∈ registry.made, Fits session
  closers : ∀ (number : Nat) session, registry.made[number]? = some session → session.state ≠ .closed →
    ∃ entry ∈ phases, number ∈ closing entry.place

theorem fits_apply (fits : ∀ session ∈ registry.made, Fits session)
    (applied : op.apply profile policy outside registry = some (reply, after)) : ∀ session ∈ after.made, Fits session := by
  intro session member
  obtain ⟨number, held⟩ := List.getElem?_of_mem member
  rcases session_back applied held with old | ⟨inner, found, -, standing, rfl⟩ | ⟨version, stream, id, -, -, -, rfl⟩
  · exact fits session (List.mem_of_getElem? old)
  · exact (fits found (List.mem_of_getElem? standing)).apply policy inner
  · exact fits_new profile policy id version.1 version.2 stream

theorem close_closes {session : Session σ} {reply : (ServerOp.session number .close).Reply}
    (applied : (ServerOp.session number .close).apply profile policy outside registry = some (reply, after))
    (held : after.made[number]? = some session) : session.state = .closed := by
  obtain ⟨found, standing, same⟩ := Option.map_eq_some_iff.mp applied
  cases same
  rw [List.getElem?_set_self (List.getElem?_eq_some_iff.mp standing).1, Option.some_inj] at held
  rw [← held]
  rfl

theorem open_back {session : Session σ} (applied : op.apply profile policy outside registry = some (reply, after))
    (held : after.made[number]? = some session) (opened : session.state ≠ .closed) :
    (∃ earlier, registry.made[number]? = some earlier ∧ earlier.state ≠ .closed) ∨
      opens op reply = some number := by
  rcases session_back applied held with old | ⟨inner, found, -, standing, rfl⟩ | ⟨version, stream, id, rfl, rfl, grown, -⟩
  · exact .inl ⟨session, old, opened⟩
  · refine .inl ⟨found, standing, fun closed => opened ?_⟩
    have progress := apply_progress policy inner found
    rw [closed] at progress
    rcases progress with same | same | ⟨impossible, -⟩ | ⟨impossible, -⟩ | ⟨impossible, -⟩
    · exact same
    · exact same
    all_goals cases impossible
  · exact .inr (opens_made applied grown)

theorem Account.start (account : Account registry phases) (call : Call profile.maxRxPayload) :
    Account registry (phases ++ [(call, (begin (fun _ => ()) call, []))]) := by
  refine ⟨?_, account.fits, fun number session held opened => ?_⟩
  · have fresh : streams (call, (begin (fun _ => ()) call, [])) = (brings call : Multiset Stream) := by
      cases call <;> rfl
    simp only [List.map_append, List.sum_append, List.map_singleton, List.sum_singleton, fresh, ← add_assoc,
      account.conserved]
  · exact exists_concat (account.closers number session held opened) _

theorem streams_next {entry : Entry profile Unit} (allowed : (conduct free).allowed entry.2.1 op) (reply : op.Reply) :
    streams (entry.after free op reply) + ↑(given op reply) = streams entry + ↑(regained op reply) := by
  have flow : ((pending (entry.after free op reply).place : Multiset Stream) + ↑(given op reply)) + ↑(closes op) =
      ↑(pending entry.place) + ↑(regained op reply) := by
    rw [Multiset.coe_add, Multiset.coe_add, Multiset.coe_add]
    exact Multiset.coe_eq_coe.mpr (pending_next allowed reply)
  have record : (shut (entry.after free op reply).past : Multiset Stream) = ↑(shut entry.past) + ↑(closes op) := by
    simp only [shut, Entry.after, Entry.past, List.flatMap_append, List.flatMap_singleton, Multiset.coe_add]
  calc
    streams (entry.after free op reply) + ↑(given op reply)
        = ((pending (entry.after free op reply).place : Multiset Stream) + ↑(given op reply)) + ↑(closes op) +
            ↑(shut entry.past) := by rw [streams, record]; abel
    _ = streams entry + ↑(regained op reply) := by rw [flow, streams]; abel

theorem Account.advance (account : Account registry phases) {index : Nat} {entry : Entry profile Unit}
    (listed : phases[index]? = some entry) (allowed : (conduct free).allowed entry.2.1 op)
    (applied : op.apply profile policy outside registry = some (reply, after)) :
    Account after (phases.set index (entry.after free op reply)) := by
  refine ⟨?_, fits_apply account.fits applied, fun number session held opened => ?_⟩
  · have tasks := sum_set listed (fun entry => (brings entry.1 : Multiset Stream)) (entry.after free op reply)
    rw [add_right_cancel tasks, ← account.conserved]
    exact sum_set_balance listed (streams_next allowed reply) (kept_apply applied)
  · rcases open_back applied held opened with ⟨earlier, before, still⟩ | new
    · refine exists_set listed (account.closers number earlier before still) (fun _ => id) fun closer => ?_
      rcases closing_next allowed reply closer with kept | rfl
      · exact kept
      · exact absurd (close_closes applied held) opened
    · have closer : closing (entry.after free op reply).place = [number] := opens_closing new
      exact exists_set_new listed (closer ▸ List.mem_singleton_self number)

end Accounts

section Runs
variable {σ : Type} {profile : Profile}

theorem always_accounted (policy : ResponsePolicy σ) (moves : List (Move (Call profile.maxRxPayload) Outside)) :
    Always (Calls.step policy) (Recorded free (fun _ _ => True) (fun _ => ()) Account) moves
      ({ shared := {} } : Calls profile σ) := by
  refine always_recorded (free_rules profile) (free_prepared profile) ⟨rfl, fun _ => nofun, fun _ _ => nofun⟩
    (fun _ _ call account => account.start call) ?_ moves
  intro registry phases index entry op outside reply after account listed allowed applied
  refine ⟨fun _ => ?_, account.advance listed allowed applied⟩
  cases op <;> trivial

/-- The streams that the calls have closed, and those that they were given. -/
def allShut (calls : Calls profile σ) : List Stream := calls.threads.flatMap fun thread => shut thread.past

def served (calls : Calls profile σ) : List Stream := calls.threads.flatMap fun thread => brings thread.task

theorem coe_flatMap {β : Type} (entries : List β) (each : β → List Stream) :
    ((entries.flatMap each : List Stream) : Multiset Stream) = (entries.map fun entry =>
      (each entry : Multiset Stream)).sum := by
  induction entries with
  | nil => rfl
  | cons entry rest ih => rw [List.flatMap_cons, ← Multiset.coe_add, ih, List.map_cons, List.sum_cons]

def placeOf (thread : Thread (Call profile.maxRxPayload) ServerOp.Reply (Option Err)) : Place :=
  (thread.phase (conduct free) (begin fun _ => ())).1

/-- Every stream is with a session, or with a call that has yet to see to it, or closed. -/
theorem recorded_balance {calls : Calls profile σ}
    (recorded : Recorded free (fun _ _ => True) (fun _ => ()) Account calls) :
    kept calls.shared + (calls.threads.map fun thread => (pending (placeOf thread) : Multiset Stream)).sum +
      ↑(allShut calls) = (served calls : Multiset Stream) := by
  have conserved := recorded.account.conserved
  simp only [Chronicle.phases, List.map_map, Function.comp_def, phase_recorded, streams, List.sum_map_add] at conserved
  rw [allShut, served, coe_flatMap, coe_flatMap, add_assoc]
  exact conserved

theorem returns_done {result : Option Err} {place : Place} (returns : Returns (fun _ _ => True) result (place, ())) :
    pending place = [] ∧ closing place = [] := by
  rcases returns_cases returns with ⟨rfl | ⟨session, rfl⟩, -⟩ | ⟨⟨session, rfl | rfl⟩, -⟩ | ⟨sessions, rfl⟩ <;>
    exact ⟨rfl, rfl⟩

/-- No stream is closed more often than it was given to a call. Once all calls have returned,
each has been closed exactly as often, and every session is closed. -/
theorem streams_closed (profile : Profile) (policy : ResponsePolicy σ)
    (moves : List (Move (Call profile.maxRxPayload) Outside)) :
    Always (Calls.step policy)
      (fun calls =>
        (allShut calls).Subperm (served calls) ∧
        (calls.unreturned = 0 →
          (allShut calls).Perm (served calls) ∧ ∀ session ∈ calls.shared.made, session.state = .closed))
      moves ({ shared := {} } : Calls profile σ) := by
  refine (always_accounted policy moves).mono fun calls recorded => ?_
  have balance := recorded_balance recorded
  refine ⟨?_, fun none => ?_⟩
  · refine Multiset.coe_le.mp ?_
    rw [← balance]
    exact Multiset.le_add_left _ _
  · have done : ∀ thread ∈ calls.threads, pending (placeOf thread) = [] ∧ closing (placeOf thread) = [] := by
      intro thread member
      obtain ⟨result, returns⟩ := recorded.all_ended none thread member
      rw [phase_recorded] at returns
      exact returns_done returns
    have closed : ∀ session ∈ calls.shared.made, session.state = .closed := by
      intro session member
      by_contra opened
      obtain ⟨number, held⟩ := List.getElem?_of_mem member
      obtain ⟨entry, listed, closer⟩ := recorded.account.closers number session held opened
      obtain ⟨thread, present, rfl⟩ := mem_entries.mp listed
      have closer : number ∈ closing (placeOf thread) := closer
      rw [(done thread present).2] at closer
      cases closer
    have emptied : kept calls.shared = 0 := by
      refine List.sum_eq_zero fun streams member => ?_
      obtain ⟨session, made, rfl⟩ := List.mem_map.mp member
      exact detached (recorded.account.fits session made) (closed session made)
    have idle : (calls.threads.map fun thread => (pending (placeOf thread) : Multiset Stream)).sum = 0 := by
      refine List.sum_eq_zero fun streams member => ?_
      obtain ⟨thread, present, rfl⟩ := List.mem_map.mp member
      rw [(done thread present).1, Multiset.coe_nil]
    rw [emptied, idle, zero_add, zero_add] at balance
    exact ⟨Multiset.coe_eq_coe.mp balance, closed⟩

end Runs

end Hislip.Proofs.Streams
