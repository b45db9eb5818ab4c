import Hislip.Threads
import Hislip.Proofs.Teardown
import Hislip.Proofs.LockLifetime

/-! The registry of sessions and the life of each of them, under any calls into the
server at any time and with any arguments. -/

namespace Hislip.Proofs.Lifecycle
open Hislip.Server Hislip.Threads Transition Program Footprint Teardown LockLifetime

inductive Call where
  | task (task : Task)
  | beginDeviceClear (session : Nat)
  | completeDeviceClear (session : Nat) (header : Header)

def Call.program (profile : Profile) : Call → ServerProgram Unit
  | .task work => work.program profile
  | .beginDeviceClear session => ignore (.ofLoop session (Server.beginDeviceClear profile.toConfig))
  | .completeDeviceClear session header => ignore (.ofLoop session (Server.completeDeviceClear profile.toConfig header))

/-- `attached` has a session once for every asynchronous stream attached to it. -/
structure Life (σ : Type) where
  registry : Registry σ := {}
  attached : List Nat := []

def attaches : (op : ServerOp) → op.Reply → List Nat
  | .session session (.attachAsync _), reply => if reply = none then [session] else []
  | _, _ => []

variable {σ : Type}

def Life.apply (profile : Profile) (policy : ResponsePolicy σ) (op : ServerOp) (outside : Outside) (life : Life σ) :
    Option (op.Reply × Life σ) :=
  (op.apply profile policy outside life.registry).map fun result =>
    (result.1, ⟨result.2, attaches op result.1 ++ life.attached⟩)

abbrev Calls (σ : Type) : Type := Pool Call (Life σ) ServerOp.Reply Unit

def Calls.step (profile : Profile) (policy : ResponsePolicy σ) : Calls σ → Move Call Outside → Option (Calls σ) :=
  Pool.step (Life.apply profile policy) (Call.program profile)

/-- Registered sessions are open and have their own identifiers, and a session can be
used exactly while it has both streams. -/
structure Valid (profile : Profile) (registry : Registry σ) : Prop where
  own : ∀ id number, registry.sessions.lookup id = some number →
    id ≠ 0 ∧ ∃ session, registry.made[number]? = some session ∧ session.id = id ∧ session.state ≠ .closed
  unique : ∀ first second number other one two, registry.sessions.lookup first = some number →
    registry.sessions.lookup second = some other → registry.made[number]? = some one →
    registry.made[other]? = some two → one.id = two.id → number = other
  room : (registry.sessions.entries.length : Int) ≤ profile.maxSessions
  usable : ∀ (number : Nat) session, registry.made[number]? = some session →
    ((session.state = .ready ∨ session.state = .clearing) ↔
      session.state ≠ .closed ∧ session.sync ≠ none ∧ session.async ≠ none)

def Progress (before after : State) : Prop :=
  after = before ∨ after = .closed ∨ before = .pairing ∧ after = .ready ∨
    before = .ready ∧ after = .clearing ∨ before = .clearing ∧ after = .ready

/-- No session is forgotten, and each one's state changes as it may. -/
def Evolves (before after : Registry σ) : Prop :=
  ∀ (number : Nat) session, before.made[number]? = some session →
    ∃ later, after.made[number]? = some later ∧ Progress session.state later.state

section Sessions

def Fits (session : Session σ) : Prop :=
  match session.state with
  | .pairing => session.sync ≠ none ∧ session.async = none
  | .ready | .clearing => session.sync ≠ none ∧ session.async ≠ none
  | .closed => session.sync = none ∧ session.async = none

theorem fits_new (profile : Profile) (policy : ResponsePolicy σ) (id : UInt16) (version : Version)
    (current : version.less .version10 = false) (stream : Stream) :
    Fits (Session.new profile policy id version current stream) := ⟨nofun, rfl⟩

theorem Fits.usable {session : Session σ} (fits : Fits session) :
    (session.state = .ready ∨ session.state = .clearing) ↔
      session.state ≠ .closed ∧ session.sync ≠ none ∧ session.async ≠ none := by
  unfold Fits at fits
  split at fits
  next state => simp [state, fits]
  next state => simp [state, fits]
  next state => simp [state, fits]
  next state => simp [state]

theorem Fits.apply {session : Session σ} (fits : Fits session) (policy : ResponsePolicy σ) (op : SessionOp) :
    Fits (op.apply policy session).2 := by
  cases op with
  | attachAsync stream =>
    simp only [SessionOp.apply, Session.attachAsync]
    split
    next => exact fits
    next pairing =>
      split
      next => exact fits
      next =>
        unfold Fits at fits
        rw [not_not.mp pairing] at fits
        exact ⟨fits.1, Option.some_ne_none stream⟩
  | beginClear =>
    simp only [SessionOp.apply, Session.beginClear]
    split
    next ready => unfold Fits at fits; rw [ready] at fits; exact fits
    next => exact fits
  | completeClear overlap =>
    unfold Fits at fits ⊢
    cases state : session.state <;> rw [state] at fits <;>
      simp only [SessionOp.apply, Session.completeClear, state] <;> exact fits
  | disposition =>
    simp only [SessionOp.apply]
    cases session.policy <;> exact fits
  | close => exact ⟨rfl, rfl⟩
  | _ => exact fits

theorem apply_progress (policy : ResponsePolicy σ) (op : SessionOp) (session : Session σ) :
    Progress session.state (op.apply policy session).2.state := by
  cases op with
  | attachAsync stream =>
    simp only [SessionOp.apply, Session.attachAsync]
    split
    next => exact .inl rfl
    next pairing =>
      split
      next => exact .inl rfl
      next => exact .inr (.inr (.inl ⟨not_not.mp pairing, rfl⟩))
  | beginClear =>
    simp only [SessionOp.apply, Session.beginClear]
    split
    next ready => exact .inr (.inr (.inr (.inl ⟨ready, rfl⟩)))
    next => exact .inl rfl
  | completeClear overlap =>
    simp only [SessionOp.apply, Session.completeClear]
    split
    next clearing => exact .inr (.inr (.inr (.inr ⟨clearing, rfl⟩)))
    next => exact .inl rfl
  | disposition =>
    simp only [SessionOp.apply]
    cases session.policy <;> exact .inl rfl
  | close => exact .inr (.inl rfl)
  | _ => exact .inl rfl

theorem Progress.pairing {before after : State} (progress : Progress before after) (pairing : after = .pairing) :
    before = .pairing := by
  obtain same | closed | ⟨-, ready⟩ | ⟨-, clearing⟩ | ⟨-, ready⟩ := progress
  · exact same ▸ pairing
  all_goals simp_all

end Sessions

section Operations
variable {profile : Profile} {policy : ResponsePolicy σ} {life : Life σ} {registry : Registry σ} {op : ServerOp}
  {reply : op.Reply}

def unregisters : (op : ServerOp) → op.Reply → List Nat
  | .unregister session, _ => [session]
  | .takeAll, all => all
  | _, _ => []

structure Sound (profile : Profile) (life : Life σ) : Prop where
  own : ∀ id number, life.registry.sessions.lookup id = some number →
    id ≠ 0 ∧ ∃ session, life.registry.made[number]? = some session ∧ session.id = id ∧ session.state ≠ .closed
  room : (life.registry.sessions.entries.length : Int) ≤ profile.maxSessions
  fits : ∀ session ∈ life.registry.made, Fits session
  once : life.attached.Nodup
  attached : ∀ number ∈ life.attached, ∃ session, life.registry.made[number]? = some session ∧ session.state ≠ .pairing

def Unregistered (done : List Nat) (life : Life σ) : Prop :=
  ∀ number ∈ done, number < life.registry.made.length ∧ ∀ id, life.registry.sessions.lookup id ≠ some number

structure Keeps (profile : Profile) (op : ServerOp) (reply : op.Reply) (life after : Life σ) : Prop where
  sound : Sound profile after
  stable : ∀ done, Unregistered done life → Unregistered done after
  marked : Unregistered (unregisters op reply) after
  evolves : Evolves life.registry after.registry

theorem Sound.valid (sound : Sound profile life) : Valid profile life.registry where
  own := sound.own
  unique first second number other one two found next left right same := by
    obtain ⟨-, _, held, rfl, -⟩ := sound.own first number found
    obtain ⟨-, _, standing, rfl, -⟩ := sound.own second other next
    rw [held, Option.some_inj] at left
    rw [standing, Option.some_inj] at right
    rw [left, same, ← right, next, Option.some_inj] at found
    exact found.symm
  room := sound.room
  usable _ session found := (sound.fits session (List.mem_of_getElem? found)).usable

theorem Evolves.of_made {before after : Registry σ} (same : after.made = before.made) : Evolves before after :=
  fun _ session found => ⟨session, same ▸ found, .inl rfl⟩

theorem Sound.quiet (sound : Sound profile life) (sessions : registry.sessions = life.registry.sessions)
    (made : registry.made = life.registry.made) (attaches : attaches op reply = [])
    (unregisters : unregisters op reply = []) :
    Keeps profile op reply life ⟨registry, Lifecycle.attaches op reply ++ life.attached⟩ := by
  rw [attaches, List.nil_append]
  refine ⟨⟨?_, ?_, ?_, sound.once, ?_⟩, fun done unregistered => ?_, ?_, .of_made made⟩
  · simpa only [sessions, made] using sound.own
  · simpa only [sessions] using sound.room
  · simpa only [made] using sound.fits
  · simpa only [made] using sound.attached
  · simpa only [Unregistered, sessions, made] using unregistered
  · rw [unregisters]
    exact fun _ => nofun

theorem allocateID_fresh {sessions : AList (fun _ : UInt16 => Nat)} {nextID next id : UInt16} {tries : Nat}
    (found : Registry.allocateID sessions nextID tries = (some id, next)) : sessions.lookup id = none ∧ id ≠ 0 := by
  induction tries generalizing nextID with
  | zero => cases found
  | succ tries ih =>
    simp only [Registry.allocateID] at found
    split at found
    next free =>
      cases found
      exact ⟨Option.isNone_iff_eq_none.mp free.1, free.2⟩
    next => exact ih found

theorem getElem?_concat_of_some {made : List (Session σ)} {number : Nat} {session : Session σ}
    (found : made[number]? = some session) (last : Session σ) : (made ++ [last])[number]? = some session := by
  rw [List.getElem?_append_left (List.getElem?_eq_some_iff.mp found).1, found]

section
variable (sound : Sound profile life)
include sound

theorem Sound.register {id : UInt16} {session : Session σ} (fresh : life.registry.sessions.lookup id = none)
    (nonzero : id ≠ 0) (room : ¬ profile.maxSessions ≤ life.registry.sessions.entries.length)
    (named : session.id = id) (pairing : session.state = .pairing) (fits : Fits session)
    (sessions : registry.sessions = life.registry.sessions.insert id life.registry.made.length)
    (made : registry.made = life.registry.made ++ [session]) (unregisters : unregisters op reply = []) :
    Keeps profile op reply life ⟨registry, life.attached⟩ := by
  refine ⟨⟨fun key number found => ?_, ?_, fun other member => ?_, sound.once, fun number member => ?_⟩,
    fun done unregistered number member => ?_, ?_, fun number earlier found => ?_⟩
  · simp only [sessions, made] at found ⊢
    by_cases same : key = id
    · subst same
      rw [AList.lookup_insert, Option.some_inj] at found
      subst found
      exact ⟨nonzero, session, by simp, named, by rw [pairing]; nofun⟩
    · rw [AList.lookup_insert_ne same] at found
      obtain ⟨other, earlier, standing, rest⟩ := sound.own key number found
      exact ⟨other, earlier, getElem?_concat_of_some standing session, rest⟩
  · have absent : id ∉ life.registry.sessions := AList.lookup_eq_none.mp fresh
    simp only [sessions, AList.entries_insert_of_notMem absent, List.length_cons]
    omega
  · simp only [made] at member
    obtain earlier | same := List.mem_append.mp member
    · exact sound.fits other earlier
    · exact List.mem_singleton.mp same ▸ fits
  · obtain ⟨earlier, found, moved⟩ := sound.attached number member
    exact ⟨earlier, by rw [made]; exact getElem?_concat_of_some found session, moved⟩
  · obtain ⟨bound, absent⟩ := unregistered number member
    simp only [sessions, made, List.length_append, List.length_singleton]
    refine ⟨by omega, fun key found => ?_⟩
    by_cases same : key = id
    · subst same
      rw [AList.lookup_insert, Option.some_inj] at found
      omega
    · rw [AList.lookup_insert_ne same] at found
      exact absent key found
  · rw [unregisters]
    exact fun _ => nofun
  · exact ⟨earlier, by rw [made]; exact getElem?_concat_of_some found session, .inl rfl⟩

theorem Sound.allocate (version : SessionVersion) (stream : Stream) :
    Keeps profile (.allocateSession version stream)
      (life.registry.allocateSession profile policy version stream).1 life
      ⟨(life.registry.allocateSession profile policy version stream).2, life.attached⟩ := by
  unfold Registry.allocateSession
  split
  next => exact sound.quiet rfl rfl rfl rfl
  next room =>
    split
    next nextID found => exact sound.quiet rfl rfl rfl rfl
    next id nextID found =>
      obtain ⟨fresh, nonzero⟩ := allocateID_fresh found
      exact sound.register fresh nonzero room rfl rfl (fits_new ..) rfl rfl rfl

theorem Sound.forget
    (fewer : ∀ id number, registry.sessions.lookup id = some number → life.registry.sessions.lookup id = some number)
    (smaller : registry.sessions.entries.length ≤ life.registry.sessions.entries.length)
    (made : registry.made = life.registry.made)
    (gone : ∀ number ∈ unregisters op reply, number < life.registry.made.length ∧
      ∀ id, registry.sessions.lookup id ≠ some number) :
    Keeps profile op reply life ⟨registry, life.attached⟩ := by
  refine ⟨⟨fun id number found => ?_, ?_, ?_, sound.once, ?_⟩, fun done unregistered number member => ?_, ?_, .of_made made⟩
  · simpa only [made] using sound.own id number (fewer id number found)
  · have room := sound.room
    simp only
    omega
  · simpa only [made] using sound.fits
  · simpa only [made] using sound.attached
  · obtain ⟨bound, absent⟩ := unregistered number member
    exact ⟨by simpa only [made] using bound, fun id found => absent id (fewer id number found)⟩
  · simpa only [Unregistered, made] using gone

theorem Sound.unregister {number : Nat} {found : Session σ} (standing : life.registry.made[number]? = some found) :
    Keeps profile (.unregister number) () life
      ⟨{ life.registry with sessions := life.registry.sessions.erase found.id }, life.attached⟩ := by
  have remaining : ∀ id other, (life.registry.sessions.erase found.id).lookup id = some other →
      id ≠ found.id ∧ life.registry.sessions.lookup id = some other := by
    intro id other present
    by_cases same : id = found.id
    · rw [same, AList.lookup_erase] at present
      cases present
    · exact ⟨same, (AList.lookup_erase_ne same).symm.trans present⟩
  refine sound.forget (fun id other present => (remaining id other present).2) List.length_eraseP_le rfl ?_
  intro other member
  obtain rfl := List.mem_singleton.mp member
  refine ⟨(List.getElem?_eq_some_iff.mp standing).1, fun id present => ?_⟩
  obtain ⟨differs, registered⟩ := remaining id other present
  obtain ⟨-, session, held, named, -⟩ := sound.own id other registered
  rw [standing, Option.some_inj] at held
  exact differs (named ▸ held ▸ rfl)

theorem Sound.takeAll {all : List Nat} (walked : all.Perm (life.registry.sessions.entries.map (·.2))) :
    Keeps profile .takeAll all life ⟨{ life.registry with sessions := ∅ }, life.attached⟩ := by
  refine sound.forget (fun _ _ => nofun) (Nat.zero_le _) rfl fun number member => ⟨?_, fun _ => nofun⟩
  obtain ⟨⟨id, _⟩, present, rfl⟩ := List.mem_map.mp (walked.mem_iff.mp member)
  obtain ⟨-, session, held, -⟩ := sound.own id _ (AList.mem_lookup_iff.mpr present)
  exact (List.getElem?_eq_some_iff.mp held).1

end

theorem attaches_session (policy : ResponsePolicy σ) (number : Nat) (op : SessionOp) (found : Session σ) :
    attaches (.session number op) (op.apply policy found).1 = [] ∨
      attaches (.session number op) (op.apply policy found).1 = [number] ∧ found.state = .pairing ∧
        (op.apply policy found).2.state = .ready := by
  cases op with
  | attachAsync stream =>
    simp only [attaches, SessionOp.apply, Session.attachAsync]
    split
    next => exact .inl rfl
    next pairing =>
      split
      next => exact .inl rfl
      next => exact .inr ⟨rfl, not_not.mp pairing, rfl⟩
  | _ => exact .inl rfl

theorem Sound.session (sound : Sound profile life) {number : Nat} {found : Session σ}
    (standing : life.registry.made[number]? = some found) (op : SessionOp)
    (closes : op = .close → ∀ id, life.registry.sessions.lookup id ≠ some number) :
    Keeps profile (.session number op) (op.apply policy found).1 life
      ⟨{ life.registry with made := life.registry.made.set number (op.apply policy found).2 },
        attaches (.session number op) (op.apply policy found).1 ++ life.attached⟩ := by
  have bound := (List.getElem?_eq_some_iff.mp standing).1
  have evolves : Evolves life.registry
      { life.registry with made := life.registry.made.set number (op.apply policy found).2 } := by
    intro other session held
    by_cases same : number = other
    · subst same
      rw [standing, Option.some_inj] at held
      subst held
      exact ⟨_, List.getElem?_set_self bound, apply_progress policy op found⟩
    · exact ⟨session, (List.getElem?_set_ne same).trans held, .inl rfl⟩
  have moved : ∀ other ∈ life.attached, ∃ session,
      (life.registry.made.set number (op.apply policy found).2)[other]? = some session ∧ session.state ≠ .pairing := by
    intro other member
    obtain ⟨session, held, unpaired⟩ := sound.attached other member
    obtain ⟨later, standing, progress⟩ := evolves other session held
    exact ⟨later, standing, fun pairing => unpaired (progress.pairing pairing)⟩
  refine ⟨⟨fun id other registered => ?_, sound.room, fun session member => ?_, ?_, ?_⟩, fun done unregistered => ?_,
    fun _ => nofun, evolves⟩
  · obtain ⟨nonzero, session, held, named, open_⟩ := sound.own id other registered
    by_cases same : number = other
    · subst same
      rw [standing, Option.some_inj] at held
      subst held
      refine ⟨nonzero, _, List.getElem?_set_self bound, (apply_id policy op found).trans named, fun closed => ?_⟩
      obtain earlier | closing := apply_state closed
      · exact open_ earlier
      · exact closes closing id registered
    · exact ⟨nonzero, session, (List.getElem?_set_ne same).trans held, named, open_⟩
  · obtain earlier | rfl := List.mem_or_eq_of_mem_set member
    · exact sound.fits session earlier
    · exact (sound.fits found (List.mem_of_getElem? standing)).apply policy op
  · obtain none | ⟨one, pairing, -⟩ := attaches_session policy number op found
    · rw [none]
      exact sound.once
    · simp only [one]
      refine List.nodup_cons.mpr ⟨fun member => ?_, sound.once⟩
      obtain ⟨session, held, unpaired⟩ := sound.attached number member
      rw [standing, Option.some_inj] at held
      exact unpaired (held ▸ pairing)
  · obtain none | ⟨one, -, ready⟩ := attaches_session policy number op found
    · rw [none]
      exact moved
    · simp only [one]
      intro other member
      obtain rfl | earlier := List.mem_cons.mp member
      · exact ⟨_, List.getElem?_set_self bound, by rw [ready]; nofun⟩
      · exact moved other earlier
  · intro other member
    obtain ⟨inside, absent⟩ := unregistered other member
    exact ⟨by simpa using inside, absent⟩

/-- Every operation keeps the registry, provided that it closes no registered session. -/
theorem Sound.apply (sound : Sound profile life) {outside : Outside} {after : Life σ}
    (closes : ∀ number, op = .session number .close → ∀ id, life.registry.sessions.lookup id ≠ some number)
    (applied : life.apply profile policy op outside = some (reply, after)) : Keeps profile op reply life after := by
  obtain ⟨⟨answer, registry⟩, done, same⟩ := Option.map_eq_some_iff.mp applied
  cases same
  cases op with
  | allocateSession version stream =>
    obtain rfl := congrArg Prod.fst (Option.some_inj.mp done)
    obtain rfl := congrArg Prod.snd (Option.some_inj.mp done)
    exact sound.allocate version stream
  | unregister number =>
    obtain ⟨found, standing, same⟩ := Option.map_eq_some_iff.mp done
    cases same
    exact sound.unregister standing
  | takeAll =>
    obtain ⟨all, -, same⟩ := Option.bind_eq_some_iff.mp done
    split at same
    next walked => cases same; exact sound.takeAll walked
    next => cases same
  | session number op =>
    obtain ⟨found, standing, same⟩ := Option.map_eq_some_iff.mp done
    cases same
    exact sound.session standing op fun closing => closes number (closing ▸ rfl)
  | environment op =>
    obtain rfl := environment_unchanged done
    exact sound.quiet rfl rfl rfl rfl
  | releaseAll number =>
    obtain ⟨found, -, same⟩ := Option.map_eq_some_iff.mp done
    cases same
    exact sound.quiet rfl rfl rfl rfl
  | closeStream stream =>
    obtain ⟨_, -, same⟩ := Option.map_eq_some_iff.mp done
    cases same
    exact sound.quiet rfl rfl rfl rfl
  | _ => cases done; exact sound.quiet rfl rfl rfl rfl

end Operations

section Runs
variable {profile : Profile} {policy : ResponsePolicy σ}

theorem closes_task (profile : Profile) (task : Task) : Closes unregisters (task.program profile) [] := by
  cases task with
  | initializeRequest header subAddress stream => exact Follows.bind (closes_initializeRequest ..) fun _ _ _ => trivial
  | asyncInitialize header stream => exact Follows.bind (closes_asyncInitialize ..) fun _ _ _ => trivial
  | lock session header lockString fuel =>
    have avoids := (lock_within header lockString fuel).within.lasting (by decide)
    exact Follows.bind (closes_ofLoop session avoids _) fun _ _ _ => trivial
  | handleSync session message fuel =>
    exact Follows.bind (closes_ofLoop session (handleSync_lasting ..) _) fun _ _ _ => trivial
  | handleAsync session message fuel =>
    exact Follows.bind (closes_ofLoop session (handleAsync_lasting ..) _) fun _ _ _ => trivial
  | removeSession session =>
    exact Follows.bind (closes_removeSession session fun _ _ => List.mem_cons_self) fun _ _ _ => trivial
  | closeAll =>
    refine Follows.bind (closes_perform (fun _ => nofun) fun all => ?_) fun _ _ _ => trivial
    exact closes_closeEach all none _ fun session member _ =>
      List.mem_append_right _ (List.mem_append_left _ member)

theorem closes_call (profile : Profile) (call : Call) : Closes unregisters (call.program profile) [] := by
  cases call with
  | task work => exact closes_task profile work
  | beginDeviceClear session =>
    have avoids := (beginDeviceClear_within profile.toConfig).within.lasting (by decide)
    exact Follows.bind (closes_ofLoop session avoids _) fun _ _ _ => trivial
  | completeDeviceClear session header =>
    have avoids := (completeDeviceClear_within profile.toConfig header).within.lasting (by decide)
    exact Follows.bind (closes_ofLoop session avoids _) fun _ _ _ => trivial

/-- Every call closes only sessions that it has taken out of the registry. -/
abbrev Supervised (profile : Profile) (calls : Calls σ) : Prop :=
  Guarded (closing unregisters) (fun _ _ => True) (fun _ => Unregistered) (fun _ _ => True) (Sound profile) calls

theorem Supervised.step {calls after : Calls σ} {move : Move Call Outside} (supervised : Supervised profile calls)
    (moved : calls.step profile policy move = some after) :
    Supervised profile after ∧ Evolves calls.shared.registry after.shared.registry := by
  cases move with
  | start call =>
    cases moved
    exact ⟨supervised.start (closes_call profile call) (fun _ => nofun) fun _ _ _ _ => ⟨trivial, trivial⟩, .of_made rfl⟩
  | advance thread outside =>
    obtain ⟨call, op, next, reply, life, running, applied, rfl⟩ := step_advance moved
    obtain ⟨done, follows, unregistered⟩ := supervised.running running
    have kept : Keeps profile op reply calls.shared life :=
      supervised.shared.apply (fun number closes => (unregistered number (follows.1 number closes)).2) applied
    refine ⟨supervised.advance running fun done unregistered _ => ⟨kept.sound, trivial, ?_, ?_⟩, kept.evolves⟩
    · intro number member
      obtain now | earlier := List.mem_append.mp member
      · exact kept.marked number now
      · exact kept.stable done unregistered number earlier
    · exact fun _ _ rest _ _ unregistered => ⟨kept.stable rest unregistered, trivial, trivial⟩

theorem sound_initially (profile : Profile) : Sound profile ({} : Life σ) where
  own id _ found := absurd ((AList.lookup_empty id).symm.trans found) nofun
  room := Int.le_trans (show (0 : Int) ≤ 1 by decide) profile.maxSessions_ge
  fits _ member := absurd member List.not_mem_nil
  once := List.nodup_nil
  attached _ member := absurd member List.not_mem_nil

theorem supervised_initially (profile : Profile) : Supervised profile ({ shared := {} } : Calls σ) :=
  guarded_empty (sound_initially profile) []

/-- Whatever calls are made and however they interleave: the registry stays valid, no
session gets a second asynchronous stream, and the state of each session changes only
as it may. -/
theorem registry_and_lifecycle (profile : Profile) (policy : ResponsePolicy σ) (moves : List (Move Call Outside)) :
    Always (Calls.step profile policy)
        (fun calls => Valid profile calls.shared.registry ∧ calls.shared.attached.Nodup) moves { shared := {} } ∧
      Throughout (Calls.step profile policy)
        (fun calls move => ∀ after, calls.step profile policy move = some after →
          Evolves calls.shared.registry after.shared.registry) moves { shared := {} } := by
  have preserved : ∀ (calls : Calls σ) move after, Supervised profile calls →
      calls.step profile policy move = some after → Supervised profile after :=
    fun _ _ _ supervised moved => (supervised.step moved).1
  constructor
  · exact always_of_preserved (fun _ supervised => ⟨supervised.shared.valid, supervised.shared.once⟩) preserved
      (supervised_initially profile)
  · exact throughout_of_preserved preserved (fun _ _ supervised _ moved => (supervised.step moved).2)
      (supervised_initially profile)

end Runs

end Hislip.Proofs.Lifecycle
