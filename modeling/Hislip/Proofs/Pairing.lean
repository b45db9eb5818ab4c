import Hislip.Server.Channels
import Hislip.Server.Execution
import Hislip.Proofs.Lifecycle

/-! The asynchronous channel joins a session. The session is named by the message parameter,
of which the server reads the lower half. -/

namespace Hislip.Proofs.Pairing
open Hislip.Server Hislip.Threads Transition Program Lifecycle ServerProgram

variable {σ δ : Type}

/-- A session is registered under an identifier and waits for its asynchronous channel. -/
structure Waits (registry : Registry σ) (id : UInt16) (number : Nat) (session : Session σ) : Prop where
  registered : registry.sessions.lookup id = some number
  standing : registry.made[number]? = some session
  pairing : session.state = .pairing

def joined (registry : Registry σ) (number : Nat) (session : Session σ) (stream : Stream) : Registry σ :=
  { registry with made := registry.made.set number { session with async := some stream, state := .ready } }

/-- The message pairs exactly the session that its whole parameter names. -/
structure Pairs (registry : Registry σ) (header : Header) (stream : Stream) (reply : Except Err (Nat × Header))
    (after : Registry σ) : Prop where
  succeeds : (∃ made, reply = .ok made) ↔ header.type = .asyncInitialize ∧
    ∃ id number session, header.parameter = id.toUInt32 ∧ Waits registry id number session
  attaches : ∀ number response, reply = .ok (number, response) →
    ∃ id session, header.parameter = id.toUInt32 ∧ Waits registry id number session ∧
      after = joined registry number session stream
  unchanged : ∀ err, reply = .error err → after = registry

/-- The parameter names no session, but its lower half names one that waits. -/
def Misnames (registry : Registry σ) (header : Header) : Prop :=
  header.type = .asyncInitialize ∧ 2 ^ 16 ≤ header.parameter.toNat ∧
    ∃ number session, Waits registry header.parameter.toUInt16 number session

section Call
variable {profile : Profile} {policy : ResponsePolicy σ} {surroundings : Surroundings δ} {world : ServerWorld σ δ}
  {header : Header} {stream : Stream}

def Joins (registry : Registry σ) (header : Header) (stream : Stream) (reply : Except Err (Nat × Header))
    (after : Registry σ) : Prop :=
  (header.type = .asyncInitialize ∧ ∃ number session response, Waits registry header.parameter.toUInt16 number session ∧
      reply = .ok (number, response) ∧ after = joined registry number session stream) ∨
    (¬ (header.type = .asyncInitialize ∧ ∃ number session, Waits registry header.parameter.toUInt16 number session) ∧
      (∃ err, reply = .error err) ∧ after = registry)

theorem attachAsync_cases {session : Session σ} (fits : Fits session) (stream : Stream) :
    (session.state = .pairing ∧
      session.attachAsync stream = (none, { session with async := some stream, state := .ready })) ∨
      session.state ≠ .pairing ∧ ∃ err, session.attachAsync stream = (some err, session) := by
  unfold Session.attachAsync
  by_cases pairing : session.state = .pairing
  · have unattached : session.async = none := by
      simp only [Fits, pairing] at fits
      exact fits.2
    rw [if_neg (not_not.mpr pairing), if_neg (not_not.mpr unattached)]
    exact .inl ⟨pairing, rfl⟩
  · rw [if_pos pairing]
    exact .inr ⟨pairing, _, rfl⟩

theorem attach_yields {number : Nat} {session : Session σ} (standing : world.registry.made[number]? = some session)
    (fits : Fits session) :
    Yields (serverHandler profile policy surroundings)
      (ServerProgram.perform (.session number (.attachAsync stream))) world
      fun outcome after =>
        (outcome = none ∧ session.state = .pairing ∧ after.registry = joined world.registry number session stream) ∨
          ∃ err, outcome = some err ∧ session.state ≠ .pairing ∧ after.registry = world.registry := by
  have applied : (ServerOp.session number (.attachAsync stream)).apply profile policy (surroundings.outside world)
      world.registry = some ((session.attachAsync stream).1,
        { world.registry with made := world.registry.made.set number (session.attachAsync stream).2 }) := by
    simp only [ServerOp.apply, standing, Option.map_some]
    rfl
  refine (perform_yields applied).mono ?_
  rintro outcome after ⟨rfl, changed, -⟩
  rcases attachAsync_cases fits stream with ⟨pairing, attached⟩ | ⟨unready, err, refused⟩
  · rw [attached] at changed ⊢
    exact .inl ⟨rfl, pairing, changed⟩
  · have same : world.registry.made.set number session = world.registry.made := by
      obtain ⟨bound, rfl⟩ := List.getElem?_eq_some_iff.mp standing
      exact List.set_getElem_self bound
    rw [refused, same] at changed
    rw [refused]
    exact .inr ⟨err, rfl, unready, changed⟩

theorem asyncInitialize_joins
    (own : ∀ id number, world.registry.sessions.lookup id = some number →
      ∃ session, world.registry.made[number]? = some session ∧ Fits session) :
    Yields (serverHandler profile policy surroundings) (asyncInitialize profile header stream) world fun reply after =>
      Joins world.registry header stream reply after.registry := by
  by_cases typed : header.type = .asyncInitialize
  · have legal : header.type.legalOn .asynchronous := by rw [typed]; decide
    have looks : Yields (serverHandler profile policy surroundings)
        (ServerProgram.perform (.lookup header.parameter.toUInt16)) world fun answer after =>
          answer = world.registry.sessions.lookup header.parameter.toUInt16 ∧ after.registry = world.registry :=
      (perform_yields rfl).mono fun _ _ holds => ⟨holds.1, holds.2.1⟩
    rw [asyncInitialize, if_neg (not_not.mpr typed), if_neg (not_not.mpr legal)]
    refine looks.bind ?_
    rintro answer middle ⟨rfl, kept⟩
    cases found : world.registry.sessions.lookup header.parameter.toUInt16 with
    | none =>
      refine ⟨_, middle, rfl, .inr ⟨?_, ⟨_, rfl⟩, kept⟩⟩
      rintro ⟨-, number, session, waits⟩
      cases found.symm.trans waits.registered
    | some number =>
      obtain ⟨session, standing, fits⟩ := own _ number found
      refine (attach_yields (kept ▸ standing) fits).bind ?_
      rw [kept]
      rintro outcome after (⟨rfl, pairing, changed⟩ | ⟨err, rfl, unready, changed⟩)
      · exact ⟨_, after, rfl, .inl ⟨typed, number, session, _, ⟨found, standing, pairing⟩, rfl, changed⟩⟩
      · refine ⟨_, after, rfl, .inr ⟨?_, ⟨err, rfl⟩, changed⟩⟩
        rintro ⟨-, other, another, waits⟩
        obtain rfl := Option.some.inj (found.symm.trans waits.registered)
        obtain rfl := Option.some.inj (standing.symm.trans waits.standing)
        exact unready waits.pairing
  · have refused : asyncInitialize profile header stream = Pure.pure (.error Sentinel.invalidInitSequence) := by
      simp only [asyncInitialize, ne_eq, typed, not_false_eq_true, if_true]
    rw [refused]
    exact ⟨_, world, rfl, .inr ⟨fun named => typed named.1, ⟨_, rfl⟩, rfl⟩⟩

theorem parameter_eq_iff (parameter : UInt32) (id : UInt16) :
    parameter = id.toUInt32 ↔ id = parameter.toUInt16 ∧ parameter.toNat < 2 ^ 16 := by
  have bound := id.toNat_lt
  rw [← UInt32.toNat_inj, ← UInt16.toNat_inj, UInt16.toNat_toUInt32, UInt32.toNat_toUInt16]
  omega

/-- The call names its session right, unless the lower half of the parameter alone does. -/
theorem Joins.pairs_iff {registry after : Registry σ} {reply : Except Err (Nat × Header)}
    (joins : Joins registry header stream reply after) :
    Pairs registry header stream reply after ↔ ¬ Misnames registry header := by
  rcases joins with ⟨typed, number, session, response, waits, rfl, rfl⟩ | ⟨unnamed, ⟨err, rfl⟩, rfl⟩
  · constructor
    · rintro pairs ⟨-, large, -⟩
      obtain ⟨-, id, _, _, named, -⟩ := pairs.succeeds.mp ⟨_, rfl⟩
      have small := ((parameter_eq_iff _ _).mp named).2
      omega
    · intro rightly
      have small : header.parameter.toNat < 2 ^ 16 := by
        by_contra large
        exact rightly ⟨typed, by omega, number, session, waits⟩
      have named := (parameter_eq_iff header.parameter _).mpr ⟨rfl, small⟩
      refine ⟨iff_of_true ⟨_, rfl⟩ ⟨typed, _, number, session, named, waits⟩, ?_, fun _ same => by cases same⟩
      intro other answer same
      cases same
      exact ⟨_, session, named, waits, rfl⟩
  · have refuses : ∀ made, (Except.error err : Except Err (Nat × Header)) ≠ .ok made := fun _ same => by cases same
    refine iff_of_true ⟨iff_of_false (fun ⟨made, same⟩ => refuses made same) ?_,
      fun _ _ same => absurd same (refuses _), fun _ _ => rfl⟩ ?_
    · rintro ⟨typed, id, number, session, named, waits⟩
      obtain ⟨rfl, -⟩ := (parameter_eq_iff _ _).mp named
      exact unnamed ⟨typed, number, session, waits⟩
    · rintro ⟨typed, -, waits⟩
      exact unnamed ⟨typed, waits⟩

end Call

section Runs

/-- In every state that any calls lead to, the message pairs exactly the session it names,
unless it names none and the lower half of its parameter is the identifier of a session that
waits. -/
theorem asyncInitialize_pairs_iff (profile : Profile) (policy : ResponsePolicy σ) (surroundings : Surroundings δ)
    (moves : List (Move Call Outside)) :
    Always (Calls.step profile policy)
      (fun calls => ∀ (header : Header) (stream : Stream) (environment : δ) (trace : List ServerEvent),
        Yields (serverHandler profile policy surroundings) (asyncInitialize profile header stream)
            ⟨calls.shared.registry, environment, trace⟩
            (fun reply after => Pairs calls.shared.registry header stream reply after.registry) ↔
          ¬ Misnames calls.shared.registry header) moves { shared := {} } := by
  refine always_of_preserved ?_ (fun _ _ _ supervised moved => (supervised.step moved).1) (supervised_initially profile)
  intro calls supervised header stream environment trace
  have own : ∀ id number, calls.shared.registry.sessions.lookup id = some number →
      ∃ session, calls.shared.registry.made[number]? = some session ∧ Fits session := by
    intro id number found
    obtain ⟨-, session, standing, -⟩ := supervised.shared.own id number found
    exact ⟨session, standing, supervised.shared.fits session (List.mem_of_getElem? standing)⟩
  have joins : Yields (serverHandler profile policy surroundings) (asyncInitialize profile header stream)
      ⟨calls.shared.registry, environment, trace⟩ fun reply after =>
        Joins calls.shared.registry header stream reply after.registry := asyncInitialize_joins own
  obtain ⟨reply, after, ran, joined⟩ := joins
  refine ⟨?_, fun rightly => ⟨reply, after, ran, joined.pairs_iff.mpr rightly⟩⟩
  rintro ⟨_, _, again, pairs⟩
  obtain ⟨same, rfl⟩ := Prod.mk.inj (ran.symm.trans again)
  obtain rfl := Option.some.inj same
  exact joined.pairs_iff.mp pairs

def opening : List (Move Call Outside) :=
  [.start (.task (.initializeRequest { type := .initializeRequest, parameter := 0x01000000 } [] 0)),
    .advance 0 fun _ => none]

/-- A message with parameter 0x10001 joins the session with identifier 1. -/
theorem wide_parameter_pairs :
    ∃ calls, finish (Calls.step .standard alwaysReadPolicy) opening { shared := {} } = some calls ∧
      (∀ id, (0x10001 : UInt32) ≠ UInt16.toUInt32 id) ∧
      ¬ Yields (serverHandler .standard alwaysReadPolicy ⟨scripted, fun _ state => (none, state)⟩)
        (asyncInitialize .standard { type := .asyncInitialize, parameter := 0x10001 } 1) ⟨calls.shared.registry, [], []⟩
        (fun reply after => Pairs calls.shared.registry { type := .asyncInitialize, parameter := 0x10001 } 1 reply
          after.registry) := by
  have wide : ∀ id, (0x10001 : UInt32) ≠ UInt16.toUInt32 id := by
    intro id same
    have small := ((parameter_eq_iff _ _).mp same).2
    exact absurd small (by decide)
  refine ⟨_, rfl, wide, ?_⟩
  rintro ⟨reply, after, ran, pairs⟩
  cases ran
  obtain ⟨-, id, _, _, named, -⟩ := pairs.succeeds.mp ⟨_, rfl⟩
  exact wide id named

end Runs

end Hislip.Proofs.Pairing
