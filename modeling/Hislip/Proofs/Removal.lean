import Hislip.Proofs.LockTable
import Hislip.Server.Channels
import Hislip.Server.Execution

/-! The removal of a session. It works by the session's identifier, so what it leaves of
the other sessions depends on who is registered under that identifier by then. -/

namespace Hislip.Proofs.Removal
open Hislip.Server Program ServerProgram

variable {σ δ : Type}

def removed (registry : Registry σ) (number : Nat) (found : Session σ) : Registry σ :=
  { registry with
    locks := registry.locks.releaseAll found.id
    sessions := registry.sessions.erase found.id
    made := registry.made.set number found.close.2
    cancelled := found.opCancel.toList ++ registry.cancelled }

def streams (session : Session σ) : List Stream := session.sync.toList ++ session.async.toList

/-- What was done since: these streams were closed, and no others. -/
structure Closes (closed : List Stream) (before after : ServerWorld σ δ) : Prop where
  added : ∃ events, after.trace = before.trace ++ events ∧
    (∀ event ∈ events, ∀ stream, event.operation = .closeStream stream → stream ∈ closed) ∧
    ∀ stream ∈ closed, ∃ reply, (⟨.closeStream stream, reply⟩ : ServerEvent) ∈ events

section Steps
variable {profile : Profile} {policy : ResponsePolicy σ} {surroundings : Surroundings δ} {number : Nat}
  {found : Session σ} {world : ServerWorld σ δ}

theorem Closes.refl (world : ServerWorld σ δ) : Closes [] world world :=
  ⟨[], (List.append_nil _).symm, fun _ member => absurd member List.not_mem_nil,
    fun _ member => absurd member List.not_mem_nil⟩

theorem Closes.trans {first second : List Stream} {before middle after : ServerWorld σ δ}
    (one : Closes first before middle) (two : Closes second middle after) : Closes (first ++ second) before after := by
  obtain ⟨events, trace, only, all⟩ := one
  obtain ⟨later, traced, others, rest⟩ := two
  refine ⟨events ++ later, by rw [traced, trace, List.append_assoc], fun event member stream same => ?_,
    fun stream member => ?_⟩
  · rcases List.mem_append.mp member with earlier | now
    · exact List.mem_append_left _ (only event earlier stream same)
    · exact List.mem_append_right _ (others event now stream same)
  · rcases List.mem_append.mp member with earlier | now
    · exact (all stream earlier).imp fun _ => List.mem_append_left _
    · exact (rest stream now).imp fun _ => List.mem_append_right _

theorem perform_closes_nothing {op : ServerOp} {reply : op.Reply} {registry : Registry σ}
    (applied : op.apply profile policy (surroundings.outside world) world.registry = some (reply, registry))
    (other : ∀ stream, op ≠ .closeStream stream) :
    Yields (serverHandler profile policy surroundings) (ServerProgram.perform op) world fun answer after =>
      answer = reply ∧ after.registry = registry ∧ Closes [] world after := by
  refine (perform_yields applied).mono fun answer after holds => ?_
  obtain ⟨same, later, traced⟩ := holds
  refine ⟨same, later, _, traced, fun event member stream closes => ?_, nofun⟩
  obtain rfl := List.mem_singleton.mp member
  exact absurd closes (other stream)

theorem closeStreams_yields (all : List Stream) (first : Option Err) (world : ServerWorld σ δ) :
    Yields (serverHandler profile policy surroundings) (closeStreams all first) world fun _ after =>
      after.registry = world.registry ∧ Closes all world after := by
  induction all generalizing first world with
  | nil => exact ⟨first, world, rfl, rfl, Closes.refl world⟩
  | cons stream rest ih =>
    have closed : (ServerOp.closeStream stream).apply profile policy (surroundings.outside world) world.registry =
        some ((surroundings.close stream world.environment).1, world.registry) := rfl
    refine (perform_yields closed).bind fun err middle holds => (ih _ middle).mono fun _ after later => ?_
    obtain ⟨rfl, same, traced⟩ := holds
    have one : Closes [stream] world middle := by
      refine ⟨_, traced, fun event member other closes => ?_, fun other member => ?_⟩
      · obtain rfl := List.mem_singleton.mp member
        cases closes
        exact List.mem_singleton_self stream
      · obtain rfl := List.mem_singleton.mp member
        exact ⟨_, List.mem_singleton_self _⟩
    exact ⟨later.1.trans same, one.trans later.2⟩

theorem close_yields (standing : world.registry.made[number]? = some found) :
    Yields (serverHandler profile policy surroundings) (close number) world fun _ after =>
      after.registry =
          { world.registry with
            made := world.registry.made.set number found.close.2
            cancelled := found.opCancel.toList ++ world.registry.cancelled } ∧
        Closes (streams found) world after := by
  have closes : (ServerOp.session number .close).apply profile policy (surroundings.outside world) world.registry =
      some (found.close.1, { world.registry with made := world.registry.made.set number found.close.2 }) := by
    simp only [ServerOp.apply, standing, Option.map_some]
    rfl
  refine (perform_closes_nothing closes fun _ => ServerOp.noConfusion).bind fun reply closed holds => ?_
  obtain ⟨rfl, final, one⟩ := holds
  have taken : found.close.1 = (streams found, found.opCancel) := rfl
  rw [taken]
  cases found.opCancel with
  | none =>
    refine (closeStreams_yields _ none closed).mono fun _ after holds => ?_
    exact ⟨holds.1.trans final, one.trans holds.2⟩
  | some operation =>
    have cancels : (ServerOp.cancel operation).apply profile policy (surroundings.outside closed) closed.registry =
        some ((), { closed.registry with cancelled := operation :: closed.registry.cancelled }) := rfl
    refine (perform_closes_nothing cancels fun _ => ServerOp.noConfusion).bind fun _ cancelled holds => ?_
    obtain ⟨-, same, two⟩ := holds
    refine (closeStreams_yields _ none cancelled).mono fun _ after holds => ?_
    refine ⟨?_, one.trans (two.trans holds.2)⟩
    rw [holds.1, same, final]
    rfl

theorem removeSession_yields (standing : world.registry.made[number]? = some found) :
    Yields (serverHandler profile policy surroundings) (removeSession number) world fun _ after =>
      after.registry = removed world.registry number found ∧ Closes (streams found) world after := by
  have releases : (ServerOp.releaseAll number).apply profile policy (surroundings.outside world) world.registry =
      some ((), { world.registry with locks := world.registry.locks.releaseAll found.id }) := by
    simp only [ServerOp.apply, standing, Option.map_some]
  refine (perform_closes_nothing releases fun _ => ServerOp.noConfusion).bind fun _ released holds => ?_
  obtain ⟨-, same, one⟩ := holds
  have here : released.registry.made[number]? = some found := by rw [same]; exact standing
  have unregisters : (ServerOp.unregister number).apply profile policy (surroundings.outside released) released.registry =
      some ((), { released.registry with sessions := released.registry.sessions.erase found.id }) := by
    simp only [ServerOp.apply, here, Option.map_some]
  refine (perform_closes_nothing unregisters fun _ => ServerOp.noConfusion).bind fun _ unregistered holds => ?_
  obtain ⟨-, erased, two⟩ := holds
  have there : unregistered.registry.made[number]? = some found := by rw [erased]; exact here
  refine (close_yields there).mono fun _ after holds => ?_
  refine ⟨?_, one.trans (two.trans holds.2)⟩
  rw [holds.1, erased, same]
  rfl

end Steps

section Locks
open LockManager

/-- The locks of one session: the exclusive one, and the key of its share. -/
def lockOf (manager : LockManager) (id : UInt16) : Bool × Option Bytes :=
  (decide (manager.hasExclusive = true ∧ manager.exclusive = id), if manager.sharedBy id then some manager.key else none)

private theorem lockOf_notifyLocked (manager : LockManager) (id : UInt16) :
    lockOf manager.notifyLocked id = lockOf manager id := by
  unfold notifyLocked
  cases manager.changed <;> rfl

variable {manager : LockManager} {id other : UInt16}

private theorem lockOf_dropExclusive (differ : id ≠ other) (holder : manager.exclusive = other) :
    lockOf manager.dropExclusive id = lockOf manager id := by
  have unheld : ¬ (manager.hasExclusive = true ∧ manager.exclusive = id) := fun held =>
    differ (held.2.symm.trans holder)
  simp only [lockOf, unheld, dropExclusive, Bool.false_eq_true, false_and]
  rfl

private theorem lockOf_dropShared (differ : id ≠ other) : lockOf (manager.dropShared other) id = lockOf manager id := by
  have shares : (manager.dropShared other).sharedBy id = manager.sharedBy id := by
    show ((manager.shared.erase other).lookup id).getD false = _
    rw [AList.lookup_erase_ne differ]
    rfl
  unfold lockOf
  rw [shares]
  refine Prod.ext rfl ?_
  by_cases sharing : manager.sharedBy id = true
  · -- The share that is left keeps the key.
    have remains : (manager.shared.erase other).entries.length ≠ 0 := by
      intro none_left
      have empty : manager.shared.erase other = ∅ := AList.ext (List.eq_nil_of_length_eq_zero none_left)
      rw [← shares, sharedBy, show (manager.dropShared other).shared = ∅ from empty, AList.lookup_empty] at sharing
      cases sharing
    simp only [sharing, if_true, dropShared, if_neg remains]
  · simp only [sharing, Bool.false_eq_true, if_false]

theorem lockOf_releaseAll (differ : id ≠ other) : lockOf (manager.releaseAll other) id = lockOf manager id := by
  by_cases holder : manager.hasExclusive = true ∧ manager.exclusive = other
  · simp only [releaseAll, holder, and_self, if_true]
    split
    · rw [lockOf_notifyLocked, lockOf_dropShared differ, lockOf_dropExclusive differ holder.2]
    · rw [lockOf_notifyLocked, lockOf_dropExclusive differ holder.2]
  · simp only [releaseAll, holder, if_false]
    split
    · rw [lockOf_notifyLocked, lockOf_dropShared differ]
    · rfl

theorem releaseAll_unheld {id : UInt16} (unheld : manager.held id = false) : manager.releaseAll id = manager := by
  have unowned : ¬ (manager.hasExclusive = true ∧ manager.exclusive = id) ∧ ¬ manager.sharedBy id = true := by
    simpa [held] using unheld
  simp only [releaseAll, unowned.1, if_false, unowned.2, Bool.false_eq_true]

theorem releaseAll_releaseAll (manager : LockManager) (id : UInt16) :
    (manager.releaseAll id).releaseAll id = manager.releaseAll id :=
  releaseAll_unheld (LockTable.held_releaseAll manager id)

end Locks

/-- What a removal leaves of the other sessions: they are registered as before, nothing of
them has changed, their locks are theirs, and only streams of the removed session were
closed. -/
structure Spares (number : Nat) (found : Session σ) (before after : ServerWorld σ δ) : Prop where
  registered : ∀ id other, other ≠ number → before.registry.sessions.lookup id = some other →
    after.registry.sessions.lookup id = some other
  sessions : ∀ other : Nat, other ≠ number → after.registry.made[other]? = before.registry.made[other]?
  locks : ∀ id other, other ≠ number → before.registry.sessions.lookup id = some other →
    lockOf after.registry.locks id = lockOf before.registry.locks id
  streams : Closes (streams found) before after

def NothingMore (before after : ServerWorld σ δ) : Prop := after.registry = before.registry ∧ Closes [] before after

theorem erase_erase (sessions : AList fun _ : UInt16 => Nat) (id : UInt16) :
    (sessions.erase id).erase id = sessions.erase id := by
  refine AList.ext ?_
  exact List.kerase_of_notMem_keys (AList.mem_keys.not.mp (by simp))

theorem removed_removed (registry : Registry σ) (number : Nat) (found : Session σ) :
    removed (removed registry number found) number found.close.2 = removed registry number found := by
  simp only [removed, Session.close, releaseAll_releaseAll, erase_erase, List.set_set, Option.toList_none, List.nil_append]

/-- Whoever is registered under the identifier is unregistered. -/
theorem not_spares {number other : Nat} {found : Session σ} {before after : ServerWorld σ δ}
    (same : after.registry = removed before.registry number found) (differ : other ≠ number)
    (registered : before.registry.sessions.lookup found.id = some other) : ¬ Spares number found before after := by
  intro spares
  have remains := spares.registered found.id other differ registered
  rw [same] at remains
  exact absurd (remains.symm.trans (AList.lookup_erase ..)) (Option.some_ne_none _)

/-- A removal spares the other sessions exactly when none of them is registered under the
identifier of the session that is removed, and a second one does nothing more. -/
theorem removal_spares_iff (profile : Profile) (policy : ResponsePolicy σ) (surroundings : Surroundings δ)
    (world : ServerWorld σ δ) (number : Nat) (found : Session σ)
    (standing : world.registry.made[number]? = some found) :
    (Yields (serverHandler profile policy surroundings) (removeSession number) world fun _ after =>
      Spares number found world after ∧
        Yields (serverHandler profile policy surroundings) (removeSession number) after fun _ => NothingMore after) ↔
      ∀ other, world.registry.sessions.lookup found.id = some other → other = number := by
  obtain ⟨result, after, run, same, closes⟩ : Yields (serverHandler profile policy surroundings) (removeSession number)
    world _ := removeSession_yields standing
  constructor
  · rintro ⟨_, _, again, spares, -⟩
    cases run.symm.trans again
    intro other registered
    by_contra differ
    exact not_spares same differ registered spares
  · intro alone
    have distinct : ∀ id other, other ≠ number → world.registry.sessions.lookup id = some other → id ≠ found.id := by
      intro id other differ registered equal
      exact differ (alone other (equal ▸ registered))
    refine ⟨result, after, run, ⟨fun id other differ registered => ?_, fun other differ => ?_,
      fun id other differ registered => ?_, closes⟩, ?_⟩
    · rw [same]
      exact (AList.lookup_erase_ne (distinct id other differ registered)).trans registered
    · rw [same]
      exact List.getElem?_set_ne (Ne.symm differ)
    · rw [same]
      exact lockOf_releaseAll (distinct id other differ registered)
    · have closed : after.registry.made[number]? = some found.close.2 := by
        rw [same]
        exact List.getElem?_set_self (List.getElem?_eq_some_iff.mp standing).1
      refine (removeSession_yields closed).mono fun _ again holds => ⟨?_, holds.2⟩
      rw [holds.1, same, removed_removed]

def hosting : Handler ServerOp ServerOp.Reply (ServerWorld Unit (List ReadResult)) :=
  serverHandler .standard alwaysReadPolicy ⟨scripted, fun _ state => (none, state)⟩

abbrev HostWorld : Type := ServerWorld Unit (List ReadResult)

def opened (world : HostWorld) (stream : Stream) : HostWorld :=
  (exec hosting (initializeRequest .standard { type := .initializeRequest, parameter := 0x01000000 } [] stream) world).2

def ended (world : HostWorld) (number : Nat) : HostWorld := (exec hosting (removeSession number) world).2

def sharing : HostWorld where
  registry :=
    { sessions := ((∅ : AList fun _ : UInt16 => Nat).insert 1 0).insert 2 1
      nextID := 3
      made := [.paired .forTwo alwaysReadPolicy 1 .version10 Version.version10_current 0 1,
        .paired .forTwo alwaysReadPolicy 2 .version10 Version.version10_current 2 3]
      locks := ((({} : LockManager).tryRequest 1 [65]).2.tryRequest 2 [65]).2 }
  environment := []
  trace := []

/-- One of them goes, and the other one keeps its session and its lock. -/
theorem sharer_removed :
    sharing.registry.locks.sharedBy 1 = true ∧ sharing.registry.locks.sharedBy 2 = true ∧
      ∃ result after, exec (serverHandler .forTwo alwaysReadPolicy ⟨scripted, fun _ state => (none, state)⟩)
          (removeSession 0) sharing = (some result, after) ∧
        after.registry.locks.sharedBy 1 = false ∧ after.registry.locks.sharedBy 2 = true ∧
        after.registry.sessions.lookup 2 = some 1 ∧
        Spares 0 (.paired .forTwo alwaysReadPolicy 1 .version10 Version.version10_current 0 1) sharing after := by
  refine ⟨by decide, by decide, ?_⟩
  obtain ⟨result, after, run, spares, -⟩ :=
    (removal_spares_iff .forTwo alwaysReadPolicy ⟨scripted, fun _ state => (none, state)⟩ sharing 0 _ rfl).mpr
      fun _ registered => (Option.some_inj.mp registered).symm
  obtain rfl := congrArg Prod.snd run
  exact ⟨result, _, run, by decide +kernel, by decide +kernel, spares.registered 2 1 Nat.one_ne_zero rfl, spares⟩

/-- One client connects, the server closes all sessions, and then so many clients come
and go one after the other. -/
def visited : Nat → HostWorld
  | 0 => (exec hosting closeAll (opened ⟨{}, [], []⟩ 0)).2
  | count + 1 => ended (opened (visited count) (count + 1)) (count + 1)

/-- Nobody is registered, and the session that was made first is the one with
identifier 1. -/
structure Vacant (count : Nat) (next : UInt16) (world : HostWorld) : Prop where
  empty : world.registry.sessions = ∅
  nextID : world.registry.nextID = next
  made : world.registry.made.length = count + 1
  first : world.registry.made[0]?.map (·.id) = some 1

theorem opened_eq (world : HostWorld) (stream : Stream) : (opened world stream).registry =
    (world.registry.allocateSession .standard alwaysReadPolicy ⟨.version10, Version.version10_current⟩ stream).2 := by
  have returns : Yields hosting (initializeRequest .standard { type := .initializeRequest, parameter := 0x01000000 } [] stream)
      world fun _ after => after.registry =
        (world.registry.allocateSession .standard alwaysReadPolicy ⟨.version10, Version.version10_current⟩ stream).2 := by
    change Yields hosting
      (ServerProgram.perform (.allocateSession ⟨.version10, Version.version10_current⟩ stream) >>= _) world _
    refine (perform_yields rfl).bind fun reply after holds => ?_
    cases reply with
    | error err => exact ⟨_, after, rfl, holds.2.1⟩
    | ok made => exact ⟨_, after, rfl, holds.2.1⟩
  obtain ⟨value, after, run, same⟩ := returns
  rw [opened, run, same]

variable {world : HostWorld}

theorem opened_registry {count : Nat} {next : UInt16} (vacant : Vacant count next world) (usable : next ≠ 0)
    (stream : Stream) :
    (opened world stream).registry =
      { world.registry with
        nextID := if next + 1 = 0 then 1 else next + 1
        sessions := (∅ : AList fun _ : UInt16 => Nat).insert next (count + 1)
        made := world.registry.made ++ [.new .standard alwaysReadPolicy next .version10 Version.version10_current stream] } := by
  have room : ¬ Profile.standard.maxSessions ≤ ((∅ : AList fun _ : UInt16 => Nat).entries.length : Int) := by decide
  have allocated : Registry.allocateID ∅ next 65536 = (some next, if next + 1 = 0 then 1 else next + 1) := by
    rw [Registry.allocateID]
    simp [usable]
  rw [opened_eq, Registry.allocateSession, vacant.empty, vacant.nextID, vacant.made, if_neg room, allocated]

theorem ended_registry {number : Nat} {found : Session Unit} (standing : world.registry.made[number]? = some found) :
    (ended world number).registry = removed world.registry number found := by
  obtain ⟨value, after, run, same, -⟩ : Yields hosting (removeSession number) world _ := removeSession_yields standing
  rw [ended, run, same]

theorem Vacant.visit {count : Nat} {next : UInt16} (vacant : Vacant count next world) (usable : next ≠ 0)
    (stream : Stream) :
    Vacant (count + 1) (if next + 1 = 0 then 1 else next + 1) (ended (opened world stream) (count + 1)) := by
  have registry := opened_registry vacant usable stream
  have standing : (opened world stream).registry.made[count + 1]? =
      some (.new .standard alwaysReadPolicy next .version10 Version.version10_current stream) := by
    rw [registry, ← vacant.made]
    exact List.getElem?_concat_length
  have after := ended_registry standing
  rw [registry] at after
  refine ⟨?_, ?_, ?_, ?_⟩
  · rw [after]
    show ((∅ : AList fun _ : UInt16 => Nat).insert next (count + 1)).erase next = ∅
    refine AList.ext ?_
    exact List.kerase_cons_eq rfl
  · rw [after]
    rfl
  · rw [after]
    show (List.set _ _ _).length = _
    rw [List.length_set, List.length_append, vacant.made]
    rfl
  · rw [after]
    show (List.set _ _ _)[0]?.map _ = _
    rw [List.getElem?_set_ne (Nat.succ_ne_zero count), List.getElem?_append_left (by rw [vacant.made]; omega)]
    exact vacant.first

theorem visited_vacant (count : Nat) (bound : count ≤ 65533) :
    Vacant count (UInt16.ofNat (count + 2)) (visited count) := by
  induction count with
  | zero => exact ⟨rfl, rfl, rfl, rfl⟩
  | succ count ih =>
    have nonzero : ∀ value : Nat, value < 65536 → value ≠ 0 → UInt16.ofNat value ≠ 0 := by
      intro value small positive same
      have zero := congrArg UInt16.toNat same
      rw [UInt16.toNat_ofNat_of_lt' small] at zero
      exact positive zero
    have next : UInt16.ofNat (count + 2) + 1 = UInt16.ofNat (count + 1 + 2) := (UInt16.ofNat_add (count + 2) 1).symm
    have visit := (ih (by omega)).visit (nonzero _ (by omega) (by omega)) (count + 1)
    rw [next, if_neg (nonzero _ (by omega) (by omega))] at visit
    exact visit

theorem visited_round : Vacant 65534 1 (visited 65534) := by
  have last := (visited_vacant 65533 (by decide)).visit (by decide) 65534
  exact last

/-- The clean-up of the first client meets the session that has its identifier now. -/
theorem Vacant.reused {count : Nat} (vacant : Vacant count 1 world) (stream : Stream) :
    (opened world stream).registry.made[0]?.map (·.id) = some 1 ∧
      (opened world stream).registry.sessions.lookup 1 = some (count + 1) ∧
      (ended (opened world stream) 0).registry.sessions.lookup 1 = none ∧
      ∀ found, (opened world stream).registry.made[0]? = some found →
        ¬ Yields hosting (removeSession 0) (opened world stream) fun _ => Spares 0 found (opened world stream) := by
  have registry := opened_registry vacant (by decide) stream
  have first : (opened world stream).registry.made[0]?.map (·.id) = some 1 := by
    rw [registry]
    simp only
    rw [List.getElem?_append_left (by rw [vacant.made]; omega)]
    exact vacant.first
  have other : (opened world stream).registry.sessions.lookup 1 = some (count + 1) := by
    rw [registry]
    exact AList.lookup_insert _
  obtain ⟨session, standing, named⟩ := Option.map_eq_some_iff.mp first
  refine ⟨first, other, ?_, ?_⟩
  · rw [ended_registry standing, removed, named]
    exact AList.lookup_erase ..
  · intro found here
    obtain rfl := Option.some_inj.mp (standing.symm.trans here)
    obtain ⟨_, after, run, same, -⟩ : Yields hosting (removeSession 0) (opened world stream) _ :=
      removeSession_yields standing
    rintro ⟨_, _, again, spares⟩
    cases run.symm.trans again
    exact not_spares same (Nat.succ_ne_zero count) (named ▸ other) spares

/-- After 65534 clients the next one has the identifier of the first, and the clean-up of
the first unregisters it. -/
theorem late_removal_hits_other :
    (opened (visited 65534) 65535).registry.made[0]?.map (·.id) = some 1 ∧
      (opened (visited 65534) 65535).registry.sessions.lookup 1 = some 65535 ∧
      (ended (opened (visited 65534) 65535) 0).registry.sessions.lookup 1 = none ∧
      ∀ found, (opened (visited 65534) 65535).registry.made[0]? = some found →
        ¬ Yields hosting (removeSession 0) (opened (visited 65534) 65535) fun _ =>
          Spares 0 found (opened (visited 65534) 65535) :=
  visited_round.reused 65535

end Hislip.Proofs.Removal
