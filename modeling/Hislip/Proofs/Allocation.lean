import Mathlib.Order.Interval.Finset.Nat
import Hislip.Search
import Hislip.Proofs.Lifecycle

/-! Session identifiers. The scan of `allocateIDLocked` goes once round the identifiers from
1 to 65535, so that it misses a free one only if there is none. -/

namespace Hislip.Proofs.Allocation
open Hislip.Server Hislip.Threads Hislip.Search Transition Lifecycle

variable {σ : Type}

section Round

def following (id : UInt16) : UInt16 := if id + 1 = 0 then 1 else id + 1

def cyclic (start : UInt16) (count : Nat) : UInt16 := UInt16.ofNat ((start.toNat - 1 + count) % 65535 + 1)

theorem toNat_cyclic (start : UInt16) (count : Nat) :
    (cyclic start count).toNat = (start.toNat - 1 + count) % 65535 + 1 := by
  have bound := Nat.mod_lt (start.toNat - 1 + count) (show 65535 > 0 by decide)
  exact UInt16.toNat_ofNat_of_lt' (by rw [UInt16.size]; omega)

theorem cyclic_ne_zero (start : UInt16) (count : Nat) : cyclic start count ≠ 0 := by
  intro zero
  have number := toNat_cyclic start count
  rw [zero, UInt16.toNat_zero] at number
  omega

theorem toNat_pos {id : UInt16} (nonzero : id ≠ 0) : 1 ≤ id.toNat := by
  rw [← UInt16.toNat_inj.ne, UInt16.toNat_zero] at nonzero
  omega

theorem toNat_following {id : UInt16} (nonzero : id ≠ 0) : (following id).toNat = id.toNat % 65535 + 1 := by
  have positive := toNat_pos nonzero
  have bound := id.toNat_lt
  have next : (id + 1).toNat = (id.toNat + 1) % 2 ^ 16 := UInt16.toNat_add id 1
  unfold following
  split
  next wraps =>
    rw [wraps, UInt16.toNat_zero] at next
    rw [UInt16.toNat_one]
    omega
  next stays =>
    have positive := toNat_pos stays
    omega

theorem following_cyclic (start : UInt16) (count : Nat) :
    following (cyclic start count) = cyclic start (count + 1) := by
  rw [← UInt16.toNat_inj, toNat_following (cyclic_ne_zero start count), toNat_cyclic, toNat_cyclic]
  omega

theorem iterate_following {start : UInt16} (nonzero : start ≠ 0) (count : Nat) :
    following^[count] start = cyclic start count := by
  induction count with
  | zero =>
    have positive := toNat_pos nonzero
    have bound := start.toNat_lt
    rw [← UInt16.toNat_inj, toNat_cyclic, Function.iterate_zero_apply]
    omega
  | succ count ih => rw [Function.iterate_succ_apply', ih, following_cyclic]

theorem exists_cyclic {start id : UInt16} (begins : start ≠ 0) (nonzero : id ≠ 0) :
    ∃ count < 65535, cyclic start count = id := by
  have positive := toNat_pos nonzero
  have first := toNat_pos begins
  have bound := id.toNat_lt
  have limit := start.toNat_lt
  refine ⟨(id.toNat + 65535 - start.toNat) % 65535, by omega, ?_⟩
  rw [← UInt16.toNat_inj, toNat_cyclic]
  omega

end Round

section Identifiers
variable {sessions : AList (fun _ : UInt16 => Nat)}

def Free (sessions : AList (fun _ : UInt16 => Nat)) (id : UInt16) : Prop := (sessions.lookup id).isNone = true ∧ id ≠ 0

instance Free.decidable (sessions : AList (fun _ : UInt16 => Nat)) : DecidablePred (Free sessions) :=
  fun _ => inferInstanceAs (Decidable (_ ∧ _))

theorem allocateID_eq (sessions : AList (fun _ : UInt16 => Nat)) (nextID : UInt16) (tries : Nat) :
    Registry.allocateID sessions nextID tries = search following (Free sessions) nextID tries := by
  induction tries generalizing nextID with
  | zero => rfl
  | succ tries ih =>
    simp only [Registry.allocateID, search, ih]
    rfl

/-- The identifiers that the scan looks at, one in each iteration. -/
def scanned (sessions : AList (fun _ : UInt16 => Nat)) (nextID : UInt16) : List UInt16 :=
  looked following (Free sessions) nextID 65536

def FirstFree (sessions : AList (fun _ : UInt16 => Nat)) (start id : UInt16) : Prop :=
  ∃ count < 65535, id = cyclic start count ∧ Free sessions id ∧
    ∀ earlier < count, ¬ Free sessions (cyclic start earlier)

theorem allocateID_cases (sessions : AList (fun _ : UInt16 => Nat)) {start : UInt16} (begins : start ≠ 0) :
    (∃ id next, Registry.allocateID sessions start 65536 = (some id, next) ∧ FirstFree sessions start id ∧ next ≠ 0) ∨
      (∀ id, ¬ Free sessions id) ∧ ∃ next, Registry.allocateID sessions start 65536 = (none, next) ∧ next ≠ 0 := by
  rw [allocateID_eq]
  rcases search_cases following (Free sessions) start 65536 with ⟨count, -, free, passed, ends, -⟩ | ⟨passed, ends, -⟩
  · simp only [iterate_following begins] at free passed ends
    have round : count < 65535 := by
      by_contra beyond
      obtain ⟨earlier, inside, same⟩ := exists_cyclic begins (cyclic_ne_zero start count)
      exact passed earlier (by omega) (same ▸ free)
    exact .inl ⟨_, _, ends, ⟨count, round, rfl, free, passed⟩, cyclic_ne_zero start (count + 1)⟩
  · simp only [iterate_following begins] at passed ends
    refine .inr ⟨?_, _, ends, cyclic_ne_zero start 65536⟩
    intro id free
    obtain ⟨count, inside, same⟩ := exists_cyclic begins free.2
    exact passed count (by omega) (same ▸ free)

theorem scanned_length (sessions : AList (fun _ : UInt16 => Nat)) (nextID : UInt16) :
    (scanned sessions nextID).length ≤ 65536 := by
  rcases search_cases following (Free sessions) nextID 65536 with ⟨count, inside, -, -, -, walked⟩ | ⟨-, -, walked⟩
  · rw [scanned, walked, List.length_map, List.length_range]
    exact inside
  · rw [scanned, walked, List.length_map, List.length_range]

def numbers (sessions : AList (fun _ : UInt16 => Nat)) : Finset Nat := (sessions.keys.map UInt16.toNat).toFinset

theorem card_numbers (sessions : AList (fun _ : UInt16 => Nat)) :
    (numbers sessions).card = sessions.entries.length := by
  have distinct : (sessions.keys.map UInt16.toNat).Nodup :=
    sessions.keys_nodup.map fun _ _ same => UInt16.toNat_inj.mp same
  rw [numbers, List.toFinset_card_of_nodup distinct, List.length_map, AList.keys, List.keys, List.length_map]

theorem mem_numbers (id : UInt16) : id.toNat ∈ numbers sessions ↔ sessions.lookup id ≠ none := by
  rw [numbers, List.mem_toFinset, List.mem_map_of_injective fun _ _ same => UInt16.toNat_inj.mp same, ne_eq,
    AList.lookup_eq_none, not_not, AList.mem_keys]

section Named
variable (named : ∀ id number, sessions.lookup id = some number → id ≠ 0)
include named

theorem numbers_subset : numbers sessions ⊆ Finset.Icc 1 65535 := by
  intro number member
  obtain ⟨id, -, rfl⟩ := List.mem_map.mp (List.mem_toFinset.mp member)
  obtain ⟨found, present⟩ := Option.ne_none_iff_exists'.mp ((mem_numbers id).mp member)
  have positive := toNat_pos (named id found present)
  have bound := id.toNat_lt
  rw [Finset.mem_Icc]
  omega

theorem length_le : sessions.entries.length ≤ 65535 := by
  have most := Finset.card_le_card (numbers_subset named)
  rwa [card_numbers, Nat.card_Icc] at most

/-- There is a free identifier exactly while fewer than 65535 are registered. -/
theorem exists_free_iff : (∃ id, Free sessions id) ↔ sessions.entries.length < 65535 := by
  rw [← card_numbers]
  constructor
  · rintro ⟨id, vacant, nonzero⟩
    have missing : id.toNat ∉ numbers sessions := by
      intro member
      exact (mem_numbers id).mp member (Option.isNone_iff_eq_none.mp vacant)
    have positive := toNat_pos nonzero
    have bound := id.toNat_lt
    have proper : numbers sessions ⊂ Finset.Icc 1 65535 :=
      (Finset.ssubset_iff_of_subset (numbers_subset named)).mpr ⟨id.toNat, Finset.mem_Icc.mpr (by omega), missing⟩
    have fewer := Finset.card_lt_card proper
    rwa [Nat.card_Icc] at fewer
  · intro fewer
    by_contra none_free
    have all : Finset.Icc 1 65535 ⊆ numbers sessions := by
      intro number member
      obtain ⟨positive, bound⟩ := Finset.mem_Icc.mp member
      have value : (UInt16.ofNat number).toNat = number := UInt16.toNat_ofNat_of_lt' (by rw [UInt16.size]; omega)
      have nonzero : UInt16.ofNat number ≠ 0 := by
        intro zero
        rw [zero, UInt16.toNat_zero] at value
        omega
      rw [← value, mem_numbers]
      intro vacant
      exact none_free ⟨_, Option.isNone_iff_eq_none.mpr vacant, nonzero⟩
    have most := Finset.card_le_card all
    rw [Nat.card_Icc] at most
    omega

end Named

end Identifiers

section Runs
variable {profile : Profile} {policy : ResponsePolicy σ} {registry : Registry σ}

/-- Allocation in a state of the server: of identifiers, and of sessions. -/
structure Allocates (profile : Profile) (policy : ResponsePolicy σ) (registry : Registry σ) : Prop where
  finds : (∃ id, (Registry.allocateID registry.sessions registry.nextID 65536).1 = some id ∧ id ≠ 0 ∧
      registry.sessions.lookup id = none) ↔ registry.sessions.entries.length < 65535
  first : ∀ id, (Registry.allocateID registry.sessions registry.nextID 65536).1 = some id →
    FirstFree registry.sessions registry.nextID id
  bounded : (scanned registry.sessions registry.nextID).length ≤ 65536
  nonzero : (Registry.allocateID registry.sessions registry.nextID 65536).2 ≠ 0
  refuses : ∀ version stream, (registry.allocateSession profile policy version stream).1 = .error Sentinel.maxClients ↔
    (registry.sessions.entries.length : Int) = profile.maxSessions ∨ registry.sessions.entries.length = 65535
  registers_nothing : ∀ version stream, (registry.allocateSession profile policy version stream).1 =
      .error Sentinel.maxClients →
    (registry.allocateSession profile policy version stream).2.sessions = registry.sessions ∧
      (registry.allocateSession profile policy version stream).2.made = registry.made

structure Ready (profile : Profile) (registry : Registry σ) : Prop where
  named : ∀ id number, registry.sessions.lookup id = some number → id ≠ 0
  room : (registry.sessions.entries.length : Int) ≤ profile.maxSessions
  next : registry.nextID ≠ 0

theorem allocateSession_refuses (ready : Ready profile registry) (version : SessionVersion) (stream : Stream) :
    (registry.allocateSession profile policy version stream).1 = .error Sentinel.maxClients ↔
      (registry.sessions.entries.length : Int) = profile.maxSessions ∨ registry.sessions.entries.length = 65535 := by
  have room := ready.room
  have free := exists_free_iff ready.named
  have most := length_le ready.named
  unfold Registry.allocateSession
  by_cases full : profile.maxSessions ≤ registry.sessions.entries.length
  · rw [if_pos full]
    exact iff_of_true rfl (.inl (by omega))
  · rw [if_neg full]
    rcases allocateID_cases registry.sessions ready.next with
      ⟨id, next, found, ⟨_, _, _, vacant, _⟩, _⟩ | ⟨none_free, next, found, _⟩
    · have fewer := free.mp ⟨id, vacant⟩
      rw [found]
      refine iff_of_false (fun refused => by cases refused) ?_
      omega
    · have all : ¬ registry.sessions.entries.length < 65535 := fun fewer => (free.mpr fewer).elim none_free
      rw [found]
      exact iff_of_true rfl (.inr (by omega))

theorem allocateSession_keeps {version : SessionVersion} {stream : Stream} {err : Err}
    (refused : (registry.allocateSession profile policy version stream).1 = .error err) :
    (registry.allocateSession profile policy version stream).2.sessions = registry.sessions ∧
      (registry.allocateSession profile policy version stream).2.made = registry.made := by
  unfold Registry.allocateSession at refused ⊢
  split
  next => exact ⟨rfl, rfl⟩
  next room =>
    rw [if_neg room] at refused
    split
    next => exact ⟨rfl, rfl⟩
    next id next found =>
      rw [found] at refused
      cases refused

theorem Ready.allocates (ready : Ready profile registry) : Allocates profile policy registry where
  finds := by
    rw [← exists_free_iff ready.named]
    rcases allocateID_cases registry.sessions ready.next with
      ⟨id, next, found, ⟨_, _, _, vacant, _⟩, _⟩ | ⟨none_free, next, found, _⟩
    · exact iff_of_true ⟨id, congrArg Prod.fst found, vacant.2, Option.isNone_iff_eq_none.mp vacant.1⟩ ⟨id, vacant⟩
    · refine iff_of_false ?_ fun ⟨id, free⟩ => none_free id free
      rintro ⟨id, same, -⟩
      rw [found] at same
      cases same
  first id same := by
    rcases allocateID_cases registry.sessions ready.next with
      ⟨other, next, found, first, _⟩ | ⟨_, next, found, _⟩
    · rw [found] at same
      exact Option.some.inj same ▸ first
    · rw [found] at same
      cases same
  bounded := scanned_length _ _
  nonzero := by
    rcases allocateID_cases registry.sessions ready.next with
      ⟨_, next, found, _, nonzero⟩ | ⟨_, next, found, nonzero⟩ <;> (rw [found]; exact nonzero)
  refuses := allocateSession_refuses ready
  registers_nothing _ _ refused := allocateSession_keeps refused

theorem apply_nextID {op : ServerOp} {outside : Outside} {reply : op.Reply} {before after : Registry σ}
    (applied : op.apply profile policy outside before = some (reply, after)) (nonzero : before.nextID ≠ 0) :
    after.nextID ≠ 0 := by
  cases op with
  | allocateSession version stream =>
    obtain rfl := congrArg Prod.snd (Option.some_inj.mp applied)
    unfold Registry.allocateSession
    split
    next => exact nonzero
    next =>
      rcases allocateID_cases before.sessions nonzero with ⟨_, next, found, _, nonzero⟩ | ⟨_, next, found, nonzero⟩
      · rw [found]
        exact nonzero
      · rw [found]
        exact nonzero
  | takeAll =>
    obtain ⟨all, -, same⟩ := Option.bind_eq_some_iff.mp applied
    split at same
    next => cases same; exact nonzero
    next => cases same
  | environment op =>
    obtain rfl := environment_unchanged applied
    exact nonzero
  | unregister number | releaseAll number | closeStream stream | session number inner =>
    obtain ⟨_, -, same⟩ := Option.map_eq_some_iff.mp applied
    cases same
    exact nonzero
  | _ => cases applied; exact nonzero

/-- In every state that any calls lead to, the scan finds the first free identifier of one
round exactly when there is a free one, and a session is refused exactly when the server is
full. -/
theorem allocation_finds_first_free (profile : Profile) (policy : ResponsePolicy σ) (moves : List (Move Call Outside)) :
    Always (Calls.step profile policy)
      (fun calls => calls.shared.registry.nextID ≠ 0 ∧ Allocates profile policy calls.shared.registry) moves
      { shared := {} } := by
  have preserved : ∀ (calls : Calls σ) move after,
      Supervised profile calls ∧ calls.shared.registry.nextID ≠ 0 → calls.step profile policy move = some after →
      Supervised profile after ∧ after.shared.registry.nextID ≠ 0 := by
    rintro calls move after ⟨supervised, nonzero⟩ moved
    refine ⟨(supervised.step moved).1, ?_⟩
    cases move with
    | start call =>
      cases moved
      exact nonzero
    | advance thread outside =>
      obtain ⟨call, op, next, reply, life, -, applied, rfl⟩ := step_advance moved
      obtain ⟨⟨answer, registry⟩, done, same⟩ := Option.map_eq_some_iff.mp applied
      cases same
      exact apply_nextID done nonzero
  refine always_of_preserved ?_ preserved ⟨supervised_initially profile, show (1 : UInt16) ≠ 0 by decide⟩
  rintro calls ⟨supervised, nonzero⟩
  have sound := supervised.shared
  have ready : Ready profile calls.shared.registry :=
    ⟨fun id number found => (sound.own id number found).1, sound.room, nonzero⟩
  exact ⟨nonzero, ready.allocates⟩

end Runs

end Hislip.Proofs.Allocation
