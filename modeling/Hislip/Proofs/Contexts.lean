import Hislip.Proofs.AbandonedCalls
import Hislip.Proofs.Serving

/-! Operation contexts do not leak. Whatever the order in which the calls take their steps,
a context that is not cancelled belongs to the response that a call is about to send. -/

namespace Hislip.Proofs.Contexts
open Hislip.Server Act Hislip.Threads Transition Program Footprint Serving
open AbandonedCalls (Hold holds handleSync_holds)

section Tenure

/-- A loop has one context at most, the last one that it made, until that is cancelled. -/
def tenure : Discipline Op Op.Reply (Option Nat) where
  allowed has op := op = .shared .withCancel → has = none
  advance
    | _, .shared .withCancel, number => some number
    | has, .shared (.cancel number), _ => if has = some number then none else has
    | has, _, _ => has

def current : Hold → Option Nat
  | .idle => none
  | .made number | .holding number | .left number => some number

theorem holds_tenure {hold : Hold} {op : Op} (allowed : holds.allowed hold op) :
    tenure.allowed (current hold) op ∧
      ∀ reply, tenure.advance (current hold) op reply = current (holds.advance hold op reply) := by
  cases hold with
  | idle =>
    refine ⟨fun _ => rfl, fun reply => ?_⟩
    cases op with
    | environment op => rfl
    | shared op => cases op <;> rfl
  | made number =>
    obtain rfl : op = .shared (.session (.register number)) := allowed
    exact ⟨nofun, fun _ => rfl⟩
  | left number =>
    obtain rfl : op = .shared (.cancel number) := allowed
    exact ⟨nofun, fun _ => if_pos rfl⟩
  | holding number =>
    have plain : kind op ≠ .operation := allowed.2
    refine ⟨fun makes => absurd rfl (makes ▸ plain), fun reply => ?_⟩
    cases op with
    | environment op => rfl
    | shared op =>
      cases op with
      | session op => cases op <;> rfl
      | withCancel | cancel _ => exact absurd rfl plain
      | _ => rfl

theorem handleSync_tenure (config : Config) (message : Message) (fuel : Nat) :
    Follows tenure (fun _ has => has = none) (handleSync config message fuel) none := by
  refine (handleSync_holds config message fuel).relates (fun hold has => has = current hold) rfl ?_ ?_
  · rintro hold _ op rfl allowed
    obtain ⟨also, goes⟩ := holds_tenure allowed
    exact ⟨also, fun reply _ => ⟨trivial, goes reply⟩⟩
  · rintro _ hold _ rfl rfl
    rfl

theorem none_stays {op : Op} (other : op ≠ .shared .withCancel) :
    tenure.allowed none op ∧ ∀ reply, tenure.advance none op reply = none := by
  refine ⟨fun makes => absurd makes other, fun reply => ?_⟩
  cases op with
  | environment op => rfl
  | shared op =>
    cases op with
    | withCancel => exact absurd rfl other
    | _ => rfl

end Tenure

section Grasp

structure Grasp where
  contexts : List Nat := []
  ids : List UInt16 := []

variable {α : Type} {maker : Bool} {grasp : Grasp} (writer : MessageWriter) (header : Header) (config : Config)

def names : LockOp → Option UInt16
  | .tryRequest id _ | .release id | .releaseAll id => some id
  | .waiter | .info => none

/-- Only a context that the call got hold of is registered or cancelled, and only an identifier
that it has read is named to the lock manager. Not every loop makes contexts. -/
def grasping (maker : Bool) : Discipline Op Op.Reply Grasp where
  allowed grasp
    | .shared .withCancel => maker = true
    | .shared (.cancel number) | .shared (.session (.register number)) => number ∈ grasp.contexts
    | .shared (.locks op) => ∀ id ∈ names op, id ∈ grasp.ids
    | _ => True
  advance grasp
    | .shared .withCancel, number | .shared (.session .abort), some number =>
      { grasp with contexts := number :: grasp.contexts }
    | .shared (.session .id), id => { grasp with ids := id :: grasp.ids }
    | _, _ => grasp

theorem contexts_grow (grasp : Grasp) (op : Op) (reply : op.Reply) :
    grasp.contexts ⊆ ((grasping maker).advance grasp op reply).contexts := by
  cases op with
  | environment op => exact fun _ => id
  | shared op =>
    cases op with
    | withCancel => exact List.subset_cons_self _ _
    | session op =>
      cases op with
      | abort =>
        cases reply with
        | none => exact fun _ => id
        | some number => exact List.subset_cons_self _ _
      | _ => exact fun _ => id
    | _ => exact fun _ => id

def harmless (kind : Kind) : Bool := kind ≠ .operation ∧ kind ≠ .lock

theorem harmless_allowed {op : Op} (plain : harmless (kind op) = true) : (grasping maker).allowed grasp op := by
  cases op with
  | environment op => trivial
  | shared op =>
    cases op with
    | session op => cases op <;> trivial
    | cancel number | locks op => cases plain
    | _ => trivial

theorem heeds_of_performs {kinds : List Kind} {program : Act α} {goal : α → Prop} (performs : Performs kinds program goal)
    (plain : ∀ kind ∈ kinds, harmless kind = true) : Heeds (grasping maker) program := fun _ =>
  performs.relates (fun _ _ => True) trivial
    (fun _ _ _ _ member => ⟨harmless_allowed (plain _ member), fun _ _ => ⟨trivial, trivial⟩⟩) fun _ _ _ _ _ => trivial

theorem tenure_gained {has : Option Nat} {op : Op} {reply : op.Reply} {number : Nat}
    (now : tenure.advance has op reply = some number) (kept : number ∈ has → number ∈ grasp.contexts) :
    number ∈ ((grasping maker).advance grasp op reply).contexts := by
  have earlier (same : has = some number) : number ∈ ((grasping maker).advance grasp op reply).contexts :=
    contexts_grow grasp op reply (kept same)
  cases op with
  | environment op => exact earlier now
  | shared op =>
    cases op with
    | withCancel =>
      obtain rfl : reply = number := Option.some.inj now
      exact List.mem_cons_self
    | cancel operation =>
      simp only [tenure] at now
      split at now
      next => cases now
      next => exact earlier now
    | _ => exact earlier now

theorem handleSync_heeds (message : Message) (fuel : Nat) : Heeds (grasping true) (handleSync config message fuel) := by
  intro grasp
  refine ((handleSync_holds config message fuel).both (handleSync_within config message fuel)).relates
    (fun phase grasp => ∀ number ∈ current phase.1, number ∈ grasp.contexts) (fun _ => nofun) ?_ fun _ _ _ _ _ => trivial
  rintro ⟨hold, _⟩ grasp op kept ⟨allowed, listed⟩
  have unlocked : kind op ≠ .lock := by
    have listed : kind op ∈ syncKinds := listed
    intro same
    rw [same] at listed
    exact absurd listed (by decide)
  refine ⟨?_, fun reply _ => ⟨⟨trivial, trivial⟩, fun number now => ?_⟩⟩
  · cases hold with
    | idle =>
      by_cases operates : kind op = .operation
      · rw [allowed.2 operates]
        rfl
      · exact harmless_allowed (decide_eq_true ⟨operates, unlocked⟩)
    | made number =>
      obtain rfl : op = .shared (.session (.register number)) := allowed
      exact kept number rfl
    | holding number => exact harmless_allowed (decide_eq_true ⟨allowed.2, unlocked⟩)
    | left number =>
      obtain rfl : op = .shared (.cancel number) := allowed
      exact kept number rfl
  · have moved : current (AbandonedCalls.holds.advance hold op reply) = some number := now
    rw [← (holds_tenure allowed).2 reply] at moved
    exact tenure_gained moved (kept number)

theorem abortOperation_heeds : Heeds (grasping maker) abortOperation := by
  refine fun grasp => ⟨trivial, fun (found : Option Nat) _ => ?_⟩
  cases found with
  | none => trivial
  | some number => exact ⟨List.mem_cons_self, fun _ _ => trivial⟩

theorem beginDeviceClear_heeds : Heeds (grasping maker) (beginDeviceClear config) := by
  refine Heeds.bind (heeds_of_performs requireReady_within (by decide)) fun refused => ?_
  cases refused with
  | some err => exact Heeds.pure _
  | none =>
    refine Heeds.bind abortOperation_heeds fun _ grasp => ⟨trivial, fun _ _ => ⟨trivial, fun (refused : Option Err) _ => ?_⟩⟩
    cases refused with
    | some err => trivial
    | none => exact ⟨trivial, fun _ _ => trivial⟩

/-- A lock request goes on under the identifier that it was made with. -/
def speaksFor (id : UInt16) : Discipline RequestOp RequestOp.Reply Unit where
  allowed _
    | .locks op => ∀ named ∈ names op, named = id
    | _ => True
  advance _ _ _ := ()

theorem requestLoop_speaks (id : UInt16) (lockString : Bytes) (fuel : Nat) :
    Follows (speaksFor id) (fun _ _ => True) (LockManager.requestLoop id lockString fuel) () := by
  induction fuel with
  | zero => exact ⟨trivial, fun reply => reply.elim⟩
  | succ fuel ih =>
    refine ⟨fun _ => nofun, fun channel _ => ⟨trivial, fun (wake : Wake) _ => ?_⟩⟩
    cases wake with
    | timer | done => trivial
    | changed =>
      refine ⟨by rintro _ ⟨⟩; rfl, fun (result : LockResult) _ => ?_⟩
      cases result with
      | failure =>
        refine ⟨trivial, fun (left : Bool) _ => ?_⟩
        cases left with
        | true => exact ih
        | false => trivial
      | _ => trivial

theorem request_speaks (id : UInt16) (lockString : Bytes) (timeout : UInt32) (fuel : Nat) :
    Follows (speaksFor id) (fun _ _ => True) (LockManager.request id lockString timeout fuel) () := by
  refine ⟨by rintro _ ⟨⟩; rfl, fun (result : LockResult) _ => ?_⟩
  cases result with
  | failure => exact Follows.ite (fun _ => trivial) fun _ => requestLoop_speaks id lockString fuel
  | _ => trivial

theorem ofRequest_grasps {id : UInt16} {program : RequestProgram α}
    (speaks : Follows (speaksFor id) (fun _ _ => True) program ()) (read : id ∈ grasp.ids) :
    Follows (grasping maker) (fun _ _ => True) (ofRequest program) grasp := by
  induction program with
  | pure value => trivial
  | request op next ih =>
    cases op with
    | locks op =>
      refine ⟨fun named member => ?_, fun reply _ => ih reply (speaks.2 reply trivial)⟩
      rw [speaks.1 named member]
      exact read
    | select channel | remaining | exhausted => exact ⟨trivial, fun reply _ => ih reply (speaks.2 reply trivial)⟩

theorem lock_heeds (lockString : Bytes) (fuel : Nat) : Heeds (grasping maker) (lock header lockString fuel) := by
  refine Heeds.ite (Heeds.pure _) (Heeds.bind (heeds_of_performs requireReady_within (by decide)) fun refused => ?_)
  cases refused with
  | some err => exact Heeds.pure _
  | none =>
    refine Heeds.ite (fun grasp => ?_) (Heeds.ite (fun grasp => ?_) (Heeds.pure _))
    · refine Follows.step trivial fun (id : UInt16) _ => ?_
      exact Follows.bind (ofRequest_grasps (request_speaks id lockString header.parameter fuel) List.mem_cons_self)
        fun _ _ _ => trivial
    · refine ⟨trivial, fun (id : UInt16) _ => ⟨?_, fun _ _ => trivial⟩⟩
      rintro _ ⟨⟩
      exact List.mem_cons_self

theorem lockInfo_heeds : Heeds (grasping maker) (lockInfo header) := by
  refine Heeds.ite (Heeds.pure _) (Heeds.bind (heeds_of_performs requireReady_within (by decide)) fun refused => ?_)
  cases refused with
  | some err => exact Heeds.pure _
  | none => exact fun grasp => ⟨fun _ => nofun, fun _ _ => trivial⟩

theorem write_heeds (payload : Bytes) : Heeds (grasping maker) (writer.write header payload) :=
  heeds_of_performs (write_within writer payload (List.elem_iff.mpr (List.mem_singleton_self _)))
    fun _ member => by rw [List.mem_singleton.mp member]; rfl

theorem answerAsync_heeds (answer : Except Err Header) : Heeds (grasping maker) (answerAsync writer answer) := by
  cases answer with
  | error err => exact heeds_of_performs (reportOperationError_within (some writer) err) (by decide)
  | ok header => exact write_heeds writer header []

theorem handleAsync_heeds (maker : Bool) (config : Config) (message : Message) (fuel : Nat) :
    Heeds (grasping maker) (handleAsync config message fuel) := by
  refine Heeds.bind (heeds_of_performs (last_within rfl : Within [.get] (session .asyncWriter)) (by decide)) fun writer => ?_
  cases writer with
  | none => exact Heeds.pure _
  | some writer =>
    have count_heeds (counter : Counter) : Heeds (grasping maker) (count counter) :=
      heeds_of_performs (last_within rfl : Within [.count] (count counter)) (by decide)
    cases message.err with
    | some err => exact heeds_of_performs (reportReadError_within (some writer) err) (by decide)
    | none =>
      refine Heeds.bind (heeds_of_performs (accept_within _ _) (by decide)) fun result => ?_
      cases result with
      | error err => exact heeds_of_performs (reportAcceptError_within (some writer) err) (by decide)
      | ok found =>
        refine Heeds.ite (Heeds.bind (beginDeviceClear_heeds config) fun answer => answerAsync_heeds writer answer) ?_
        refine Heeds.ite (Heeds.bind (heeds_of_performs (statusQuery_within _) (by decide)) fun answer =>
          Heeds.bind (count_heeds _) fun _ => answerAsync_heeds writer answer) ?_
        refine Heeds.ite (Heeds.bind (lock_heeds _ _ fuel) fun answer => answerAsync_heeds writer answer) ?_
        refine Heeds.ite (Heeds.bind (lockInfo_heeds _) fun answer => answerAsync_heeds writer answer) ?_
        refine Heeds.ite (Heeds.bind (heeds_of_performs (remoteLocal_within _) (by decide)) fun answer =>
          answerAsync_heeds writer answer) ?_
        refine Heeds.ite (Heeds.bind (heeds_of_performs (maximumMessageSize_within config _) (by decide)) fun _ =>
          write_heeds writer _ _) ?_
        refine Heeds.ite (Heeds.bind (write_heeds writer _ []) fun _ => Heeds.pure _) ?_
        refine Heeds.ite (Heeds.bind (count_heeds _) fun _ => Heeds.pure _) ?_
        exact Heeds.ite (Heeds.bind (count_heeds _) fun _ => Heeds.pure _)
          (Heeds.bind (count_heeds _) fun _ => write_heeds writer _ _)

end Grasp

section Rounds

theorem handleAsync_tenure (config : Config) (message : Message) (fuel : Nat) :
    Follows tenure (fun _ has => has = none) (handleAsync config message fuel) none := by
  refine (handleAsync_heeds false config message fuel {}).relates (fun _ has => has = none) rfl ?_
    fun _ _ _ same _ => same
  rintro grasp _ op rfl allowed
  have other : op ≠ .shared .withCancel := by
    rintro rfl
    cases allowed
  obtain ⟨also, stays⟩ := none_stays other
  exact ⟨also, fun reply _ => ⟨trivial, stays reply⟩⟩

theorem tenure_rules (profile : Profile) :
    Rules profile tenure (fun _ has => has = none) (fun _ has => has = none) fun _ has => has = none where
  sync message rest has fuel same := by
    subst same
    exact (handleSync_tenure _ message fuel).mono fun result _ same => by cases result <;> exact same
  async message rest has fuel same := by
    subst same
    exact (handleAsync_tenure _ message fuel).mono fun result _ same => by cases result <;> exact same
  ending turns has same _ := or_self_iff.mp same
  waits _ _ _ := nofun

end Rounds

section Holding
variable {place : Place} {has : Option Nat} {op : ServerOp} {number : Nat}

def makes : (op : ServerOp) → op.Reply → Option Nat
  | .withCancel, number => some number
  | _, _ => none

def held (phase : Place × Option Nat) : Option Nat := if loopOn phase.1 then phase.2 else none

theorem held_some (holding : held (place, has) = some number) : loopOn place = true ∧ has = some number := by
  unfold held at holding
  split at holding
  next within => exact ⟨within, holding⟩
  next => cases holding

theorem held_within (within : loopOn place = true) : held (place, has) = has := if_pos within

theorem held_made {reply : op.Reply} (allowed : (conduct tenure).allowed (place, has) op)
    (made : makes op reply = some number) : held ((conduct tenure).advance (place, has) op reply) = some number := by
  cases op with
  | withCancel =>
    obtain rfl : reply = number := Option.some.inj made
    rcases advance_cases allowed reply with ⟨session, loops, -, same⟩ | ⟨_, impossible, -⟩
    · rw [same, held_within (loopOn_looping loops)]
      rfl
    · cases impossible
  | _ => cases made

theorem held_kept (allowed : (conduct tenure).allowed (place, has) op) (reply : op.Reply)
    (holding : held (place, has) = some number) (other : op ≠ .cancel number) :
    held ((conduct tenure).advance (place, has) op reply) = some number := by
  obtain ⟨within, rfl⟩ := held_some holding
  rcases advance_cases allowed reply with ⟨session, loops, handles, same⟩ | ⟨next, step, same⟩
  · rw [same, held_within within]
    obtain ⟨-, loop, performs, -, free⟩ := handles
    cases op with
    | withCancel =>
      cases performs
      cases free rfl
    | cancel operation =>
      have apart : some number ≠ some operation := fun same => other (by rw [Option.some.inj same])
      exact if_neg apart
    | _ => rfl
  · rw [same]
    exact held_within (loopOn_next within step)

theorem advance_back {phase : Place × Option Nat} (allowed : (conduct tenure).allowed phase op) (reply : op.Reply)
    (holding : ((conduct tenure).advance phase op reply).2 = some number) :
    phase.2 = some number ∨ makes op reply = some number := by
  rcases advance_cases allowed reply with ⟨session, loops, handles, same⟩ | ⟨next, -, same⟩
  · rw [same] at holding
    cases op with
    | withCancel => exact .inr holding
    | cancel operation =>
      simp only [moves, tenure] at holding
      split at holding
      next => cases holding
      next => exact .inl holding
    | _ => exact .inl holding
  · rw [same] at holding
    exact .inl holding

end Holding

section Accounts
variable {σ : Type} {profile : Profile} {policy : ResponsePolicy σ} {registry after : Registry σ} {op : ServerOp}
  {outside : Outside} {reply : op.Reply} {phases : List (Call profile.maxRxPayload × (Place × Option Nat))}

def Live (registry : Registry σ) (number : Nat) : Prop := number < registry.contexts ∧ number ∉ registry.cancelled

theorem live_back {number : Nat} (applied : op.apply profile policy outside registry = some (reply, after))
    (live : Live after number) : makes op reply = some number ∨ Live registry number ∧ op ≠ .cancel number := by
  have uncancelled : op ≠ .cancel number := by
    rintro rfl
    cases applied
    exact live.2 List.mem_cons_self
  refine Or.imp_right (fun before => ⟨before, uncancelled⟩) ?_
  have other (contexts : after.contexts = registry.contexts) (cancelled : after.cancelled = registry.cancelled) :
      Live registry number := by
    unfold Live at live ⊢
    rwa [contexts, cancelled] at live
  cases op with
  | withCancel =>
    cases applied
    by_cases new : number = registry.contexts
    · exact .inl (congrArg some new.symm)
    · have earlier : number < registry.contexts + 1 := live.1
      exact .inr ⟨by omega, live.2⟩
  | cancel operation =>
    cases applied
    exact .inr ⟨live.1, fun member => live.2 (List.mem_cons_of_mem operation member)⟩
  | allocateSession version stream =>
    obtain rfl := congrArg Prod.snd (Option.some_inj.mp applied)
    refine .inr (other ?_ ?_)
    all_goals
      unfold Registry.allocateSession
      repeat' split
      all_goals rfl
  | lookup id | locks op | count counter =>
    cases applied
    exact .inr (other rfl rfl)
  | unregister session | releaseAll session | session session op | closeStream stream =>
    obtain ⟨_, -, same⟩ := Option.map_eq_some_iff.mp applied
    cases same
    exact .inr (other rfl rfl)
  | takeAll =>
    obtain ⟨all, -, same⟩ := Option.bind_eq_some_iff.mp applied
    split at same
    next =>
      cases same
      exact .inr (other rfl rfl)
    next => cases same
  | environment op =>
    obtain rfl := environment_unchanged applied
    exact .inr (other rfl rfl)

/-- Every context that is not cancelled is one that a call has. -/
def Account (registry : Registry σ) (phases : List (Call profile.maxRxPayload × (Place × Option Nat))) : Prop :=
  ∀ number, Live registry number → ∃ entry ∈ phases, held entry.2 = some number

theorem Account.start (account : Account registry phases) (call : Call profile.maxRxPayload) :
    Account registry (phases ++ [(call, begin (fun _ => none) call)]) := by
  intro number live
  exact exists_concat (account number live) _

theorem Account.advance (account : Account registry phases) {index : Nat} {call : Call profile.maxRxPayload}
    {place : Place} {has : Option Nat} (listed : phases[index]? = some (call, (place, has)))
    (allowed : (conduct tenure).allowed (place, has) op)
    (applied : op.apply profile policy outside registry = some (reply, after)) :
    Account after (phases.set index (call, (conduct tenure).advance (place, has) op reply)) := by
  intro number live
  rcases live_back applied live with made | ⟨before, other⟩
  · exact exists_set_new listed (held_made allowed made)
  · exact exists_set listed (account number before) (fun _ => id) fun holding => held_kept allowed reply holding other

end Accounts

section Runs
variable {σ : Type} {profile : Profile}

def Made (thread : Thread (Call profile.maxRxPayload) ServerOp.Reply (Option Err)) (number : Nat) : Prop :=
  ∃ event ∈ thread.past, makes event.operation event.reply = some number

def live (registry : Registry σ) : List Nat := (List.range registry.contexts).filter (· ∉ registry.cancelled)

theorem mem_live {registry : Registry σ} {number : Nat} : number ∈ live registry ↔ Live registry number := by
  simp [live, Live]

theorem returns_none {result : Option Err} {phase : Place × Option Nat}
    (returns : Returns (fun _ has => has = none) result phase) : held phase = none := by
  obtain ⟨place, has⟩ := phase
  rcases returns_cases returns with ⟨rfl | ⟨session, rfl⟩, -⟩ | ⟨-, rfl⟩ | ⟨sessions, rfl⟩
  · rfl
  · rfl
  · exact ite_self none
  · rfl

theorem always_tenured (policy : ResponsePolicy σ) (moves : List (Move (Call profile.maxRxPayload) Outside)) :
    Always (Calls.step policy)
      (Chronicle.Lawful (conduct tenure) (Returns fun _ has => has = none) (begin fun _ => none) Account) moves
      ({ shared := {} } : Calls profile σ) := by
  refine always_conducted (tenure_rules profile) ⟨fun _ _ _ _ _ _ _ _ _ => rfl, fun _ _ _ _ _ _ _ _ => rfl⟩
    ?_ (fun _ _ call account => account.start call) ?_ moves
  · intro number live
    cases live.1
  · intro registry phases index call place has op outside reply after account listed allowed applied
    refine ⟨fun _ => ?_, account.advance listed allowed applied⟩
    cases op <;> trivial

/-- Every context that is not cancelled was made by a call that has not returned, and no two by
the same one. -/
theorem contexts_held (profile : Profile) (policy : ResponsePolicy σ)
    (moves : List (Move (Call profile.maxRxPayload) Outside)) :
    Always (Calls.step policy)
      (fun calls =>
        (∀ number ∈ live calls.shared, ∃ thread ∈ calls.threads, thread.returned = false ∧ Made thread number) ∧
        (live calls.shared).length ≤ calls.unreturned)
      moves ({ shared := {} } : Calls profile σ) := by
  refine (always_tenured policy moves).mono fun calls lawful => ⟨fun number member => ?_, ?_⟩
  · obtain ⟨entry, listed, holding⟩ := lawful.account number (mem_live.mp member)
    obtain ⟨thread, present, rfl⟩ := List.mem_map.mp listed
    have abides := lawful.threads thread present
    refine ⟨thread, present, abides.unreturned held (fun _ _ => returns_none) holding, ?_⟩
    rcases abides.kept.gained (·.2 = some number) (makes · · = some number)
      (fun _ _ reply allowed => advance_back allowed reply) (held_some holding).2 with impossible | made
    · cases impossible
    · exact made
  · refine lawful.held_le (fun _ => true) (List.nodup_range.filter _) (fun number member => ?_) fun _ _ => returns_none
    obtain ⟨entry, listed, holding⟩ := lawful.account number (mem_live.mp member)
    obtain ⟨thread, present, rfl⟩ := List.mem_map.mp listed
    exact ⟨thread, present, rfl, holding⟩

end Runs

end Hislip.Proofs.Contexts
