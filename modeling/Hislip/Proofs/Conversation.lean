import Hislip.Proofs.Grammar

/-! What a client gets to hear. All that a call says and all that it asks of the device is a
greeting and then a conversation over the messages of its connection, each of them taken
in turn and settled before the next one. -/

namespace Hislip.Proofs.Conversation
open Hislip.Server Hislip.Threads Transition Program Footprint Serving Grammar

section Spec

def walk (role : Channel) (message : Message) : Grammar.Stage → List EnvironmentOp → Option Grammar.Stage
  | stage, [] => some stage
  | stage, op :: rest => (stage.after (deed role message op)).bind fun next => walk role message next rest

/-- The messages are taken in turn, and a message is settled before the next one is taken. -/
inductive Converses (role : Channel) : List Turn → List EnvironmentOp → Prop
  | waits (turns : List Turn) : Converses role turns []
  | handles {message : Message} {rest : List Turn} {deeds : List EnvironmentOp} {last : Grammar.Stage} :
    walk role message .start deeds = some last → Converses role (.message message :: rest) deeds
  | settles {message : Message} {rest : List Turn} {deeds more : List EnvironmentOp} {last : Grammar.Stage} :
    walk role message .start deeds = some last → Settled role message last → Converses role rest more →
      Converses role (.message message :: rest) (deeds ++ more)

def Refuses (op : EnvironmentOp) : Prop :=
  ∃ header payload, op = .send .synchronous header payload ∧ header.type = .fatalError ∧ header.control ∈ fatalCodes ∧
    header.length = UInt64.ofNat payload.length

def Greets (role : Channel) (op : EnvironmentOp) : Prop :=
  ∃ header, op = .send role header [] ∧ header.control = 0 ∧ header.length = 0 ∧
    (role = .synchronous ∧ header.type = .initializeResponse ∨ role = .asynchronous ∧ header.type = .asyncInitializeResponse)

/-- The channel that a connection is for, and what its loop will find. -/
def connection {limit : UInt64} : Call limit → Option (Channel × List Turn)
  | .serve source _ _ buffers closing =>
    match opening limit source with
    | .sync _ _ rest => some (.synchronous, readerTurns buffers rest closing)
    | .async _ rest => some (.asynchronous, readerTurns buffers rest closing)
    | _ => none
  | .closeAll => none

/-- All that a call does to the outside: nothing yet, a refusal, or a greeting and the conversation. -/
def Serves {limit : UInt64} (call : Call limit) (deeds : List EnvironmentOp) : Prop :=
  deeds = [] ∨ (∃ op, Refuses op ∧ deeds = [op]) ∨
    ∃ role turns op more, connection call = some (role, turns) ∧ Greets role op ∧ Converses role turns more ∧
      deeds = op :: more

def outward : ServerOp → Option EnvironmentOp
  | .environment op =>
    match op with
    | .pending | .select _ | .remaining | .exhausted => none
    | op => some op
  | _ => none

def deeds (past : List (Performed ServerOp.Reply)) : List EnvironmentOp :=
  past.filterMap fun event => outward event.operation

end Spec

section Continuing
variable {talking : Talk} {told : List EnvironmentOp}

def Continues (talking : Talk) (told : List EnvironmentOp) : Prop :=
  match talking.message with
  | none => Converses talking.role talking.coming told
  | some message => ∃ mine last more, told = mine ++ more ∧ walk talking.role message talking.stage mine = some last ∧
      (more = [] ∨ Settled talking.role message last ∧ Converses talking.role talking.coming more)

theorem continues_nil (talking : Talk) : Continues talking [] := by
  unfold Continues
  cases talking.message with
  | none => exact .waits _
  | some message => exact ⟨[], talking.stage, [], rfl, rfl, .inl rfl⟩

theorem Continues.deed {op : EnvironmentOp} {next : Grammar.Stage} (visible : outward (.environment op) = some op)
    (heard : talking.hears op = some next) (continues : Continues (talking.put next) told) :
    Continues talking (op :: told) := by
  obtain ⟨role, coming, message, stage⟩ := talking
  cases message with
  | none =>
    have other : op ≠ .exhausted := by
      rintro rfl
      cases visible
    simp only [Talk.hears, other, if_false] at heard
    cases heard
  | some message =>
    obtain ⟨mine, last, more, rfl, walks, rest⟩ := continues
    refine ⟨op :: mine, last, more, rfl, ?_, rest⟩
    simp only [walk, show stage.after (Grammar.deed role message op) = some next from heard, Option.bind_some]
    exact walks

theorem Continues.take (rests : talking.Rests) (continues : Continues talking.take told) : Continues talking told := by
  obtain ⟨role, coming, message, stage⟩ := talking
  have converses : Converses role coming told := by
    cases coming with
    | nil => exact continues
    | cons turn rest =>
      cases turn with
      | ending err => exact continues
      | message next =>
        obtain ⟨mine, last, more, rfl, walks, final | ⟨settled, more⟩⟩ := continues
        · rw [final, List.append_nil]
          exact .handles walks
        · exact .settles walks settled more
  cases message with
  | none => exact converses
  | some message => exact ⟨[], stage, told, rfl, rfl, .inr ⟨rests.2 message rfl, converses⟩⟩

end Continuing

section Places

/-- A call before its greeting, between the greeting and the end of its loop, and afterwards. -/
inductive Stance where
  | early | underway | finished
  deriving DecidableEq

def stance : Place → Stance
  | .fresh _ _ | .opened _ | .found _ _ | .joined _ => .early
  | .greeted _ | .equipped _ | .serving _ | .welcomed _ | .furnished _ | .attending _ => .underway
  | _ => .finished

def side : Place → Option Channel
  | .fresh channel _ => some channel
  | .opened _ | .greeted _ | .equipped _ | .serving _ => some .synchronous
  | .found _ _ | .joined _ | .welcomed _ | .furnished _ | .attending _ => some .asynchronous
  | _ => none

variable {place : Place} {op : ServerOp}

/-- A step goes on with the same channel, or the call is over. -/
def Onward (place next : Place) : Prop :=
  stance next = stance place ∧ side next = side place ∨ stance next = .finished ∧ side next = none

/-- Outside of its loop a call says something once: it refuses the connection, or it establishes
the channel. -/
theorem step_cases {reply : op.Reply} {next : Place} (step : place.Step op reply next) :
    outward op = none ∧ Onward place next ∨
      ∃ out, outward op = some out ∧ stance place = .early ∧
        (Refuses out ∧ stance next = .finished ∧ side next = none ∨
          ∃ role, side place = some role ∧ Greets role out ∧
            (stance next = .underway ∧ side next = some role ∨ stance next = .finished ∧ side next = none)) := by
  cases step with
  | refuses typed known agrees =>
    exact .inr ⟨_, rfl, rfl, .inl ⟨⟨_, _, rfl, typed, known, agrees⟩, rfl, rfl⟩⟩
  | greets greets =>
    exact .inr ⟨_, rfl, rfl, .inr ⟨_, rfl, ⟨_, rfl, greets.2.1, greets.2.2, .inl ⟨rfl, greets.1⟩⟩, .inl ⟨rfl, rfl⟩⟩⟩
  | greetsNone greets =>
    exact .inr ⟨_, rfl, rfl, .inr ⟨_, rfl, ⟨_, rfl, greets.2.1, greets.2.2, .inl ⟨rfl, greets.1⟩⟩, .inr ⟨rfl, rfl⟩⟩⟩
  | welcomes greets =>
    exact .inr ⟨_, rfl, rfl, .inr ⟨_, rfl, ⟨_, rfl, greets.2.1, greets.2.2, .inr ⟨rfl, greets.1⟩⟩, .inl ⟨rfl, rfl⟩⟩⟩
  | welcomesNone greets =>
    exact .inr ⟨_, rfl, rfl, .inr ⟨_, rfl, ⟨_, rfl, greets.2.1, greets.2.2, .inr ⟨rfl, greets.1⟩⟩, .inr ⟨rfl, rfl⟩⟩⟩
  | endsServing | shutsFresh => exact .inl ⟨rfl, .inr ⟨rfl, rfl⟩⟩
  | _ => exact .inl ⟨rfl, .inl ⟨rfl, rfl⟩⟩

end Places

section Telling
variable {place : Place} {talking : Talk} {told : List EnvironmentOp} {op : ServerOp} {session : Nat}

theorem talk_moves (handles : Handles talk session talking op) (reply : op.Reply) :
    outward op = none ∧ (moves talk talking op reply = talking ∨
        talking.Rests ∧ moves talk talking op reply = talking.take) ∨
      ∃ out next, outward op = some out ∧ outward (.environment out) = some out ∧ talking.hears out = some next ∧
        moves talk talking op reply = talking.put next := by
  obtain ⟨-, loop, performs, -, allowed⟩ := handles
  have shared (inner : SharedOp) (answer : (Op.shared inner).Reply) (allowed : talk.allowed talking (.shared inner)) :
      talk.advance talking (.shared inner) answer = talking ∨
        talking.Rests ∧ talk.advance talking (.shared inner) answer = talking.take := by
    by_cases taking : begins talking.role (.shared inner) = true
    · exact .inr ⟨allowed taking, by simp only [talk, taking, if_true]⟩
    · exact .inl (by simp only [talk, taking]; rfl)
  cases op with
  | session number op => cases performs; exact .inl ⟨rfl, shared (.session op) reply allowed⟩
  | locks op => cases performs; exact .inl ⟨rfl, shared (.locks op) reply allowed⟩
  | withCancel => cases performs; exact .inl ⟨rfl, shared .withCancel reply allowed⟩
  | cancel number => cases performs; exact .inl ⟨rfl, shared (.cancel number) reply allowed⟩
  | count counter => cases performs; exact .inl ⟨rfl, shared (.count counter) reply allowed⟩
  | environment op =>
    cases performs
    obtain ⟨next, heard⟩ := Option.isSome_iff_exists.mp allowed
    have moved : moves talk talking (.environment op) reply = talking.put next := by
      simp only [moves, talk, heard, Option.getD_some]
      rfl
    cases op with
    | pending | select _ | remaining | exhausted =>
      obtain rfl := hears_quiet rfl heard
      exact .inl ⟨rfl, .inl moved⟩
    | _ => exact .inr ⟨_, next, rfl, rfl, heard, moved⟩
  | allocateSession _ _ | lookup _ | unregister _ | takeAll | releaseAll _ | closeStream _ => cases performs

theorem loop_continues (handles : Handles talk session talking op) {reply : op.Reply}
    (continues : Continues (moves talk talking op reply) told) : Continues talking ((outward op).toList ++ told) := by
  rcases talk_moves handles reply with ⟨quiet, same | ⟨rests, taken⟩⟩ | ⟨out, next, told, visible, heard, moved⟩
  · rw [same] at continues
    rw [quiet]
    exact continues
  · rw [taken] at continues
    rw [quiet]
    exact continues.take rests
  · rw [moved] at continues
    rw [told]
    exact continues.deed visible heard

def Tells (place : Place) (talking : Talk) (told : List EnvironmentOp) : Prop :=
  match stance place with
  | .early => told = [] ∨ (∃ op, Refuses op ∧ told = [op]) ∨
      ∃ op more, Greets talking.role op ∧ Continues talking more ∧ told = op :: more
  | .underway => Continues talking told
  | .finished => told = []

theorem tells_nil (place : Place) (talking : Talk) : Tells place talking [] := by
  unfold Tells
  cases stance place with
  | early => exact .inl rfl
  | underway => exact continues_nil talking
  | finished => rfl

def Sided (place : Place) (talking : Talk) : Prop := ∀ channel, side place = some channel → talking.role = channel

theorem take_role : talking.take.role = talking.role := by
  unfold Talk.take
  split <;> rfl

theorem moves_role (handles : Handles talk session talking op) (reply : op.Reply) :
    (moves talk talking op reply).role = talking.role := by
  rcases talk_moves handles reply with ⟨-, same | ⟨-, taken⟩⟩ | ⟨out, next, -, -, -, moved⟩
  · rw [same]
  · rw [taken, take_role]
  · rw [moved]
    rfl

theorem Sided.advance (sided : Sided place talking) (allowed : (conduct talk).allowed (place, talking) op)
    (reply : op.Reply) :
    Sided ((conduct talk).advance (place, talking) op reply).1 ((conduct talk).advance (place, talking) op reply).2 := by
  intro channel found
  rcases advance_cases allowed reply with ⟨session, loops, handles, same⟩ | ⟨next, step, same⟩
  · rw [same] at found ⊢
    exact (moves_role handles reply).trans (sided channel found)
  · rw [same] at found ⊢
    rcases step_cases step with ⟨-, ⟨-, kept⟩ | ⟨-, gone⟩⟩ | ⟨out, -, -, ⟨-, -, gone⟩ | ⟨role, had, -, ⟨-, now⟩ | ⟨-, gone⟩⟩⟩
    · exact sided channel (kept ▸ found)
    · rw [gone] at found
      cases found
    · rw [gone] at found
      cases found
    · rw [now] at found
      exact sided channel (had.trans found)
    · rw [gone] at found
      cases found

theorem looping_underway (loops : place.looping = some session) : stance place = .underway := by
  cases place <;> first | rfl | cases loops

theorem tells_step (sided : Sided place talking) (allowed : (conduct talk).allowed (place, talking) op)
    (reply : op.Reply)
    (tells : Tells ((conduct talk).advance (place, talking) op reply).1 ((conduct talk).advance (place, talking) op
      reply).2 told) :
    Tells place talking ((outward op).toList ++ told) := by
  rcases advance_cases allowed reply with ⟨session, loops, handles, same⟩ | ⟨next, step, same⟩
  · rw [same] at tells
    simp only [Tells, looping_underway loops] at tells ⊢
    exact loop_continues handles tells
  · rw [same] at tells
    rcases step_cases step with ⟨quiet, ⟨stays, -⟩ | ⟨finished, -⟩⟩ | ⟨out, said, early, rest⟩
    · have same : Tells place talking told := by simpa only [Tells, stays] using tells
      rw [quiet]
      exact same
    · simp only [Tells, finished] at tells
      rw [quiet, tells]
      exact tells_nil place talking
    · rw [said]
      simp only [Tells, early]
      rcases rest with ⟨refuses, finished, -⟩ | ⟨role, own, greets, ⟨underway, -⟩ | ⟨finished, -⟩⟩
      · simp only [Tells, finished] at tells
        exact .inr (.inl ⟨out, refuses, by rw [tells]; rfl⟩)
      · simp only [Tells, underway] at tells
        exact .inr (.inr ⟨out, told, (sided role own).symm ▸ greets, tells, rfl⟩)
      · simp only [Tells, finished] at tells
        exact .inr (.inr ⟨out, told, (sided role own).symm ▸ greets, tells ▸ continues_nil talking, rfl⟩)

theorem tells_of_kept {past : List (Performed ServerOp.Reply)} (sided : Sided place talking)
    (kept : (conduct talk).Kept (place, talking) past) : Tells place talking (deeds past) := by
  induction past generalizing place talking with
  | nil => exact tells_nil place talking
  | cons event rest ih =>
    obtain ⟨allowed, -, later⟩ := kept
    have split : deeds (event :: rest) = (outward event.operation).toList ++ deeds rest := by
      unfold deeds
      rw [List.filterMap_cons]
      cases outward event.operation <;> rfl
    rw [split]
    exact tells_step sided allowed event.reply (ih (sided.advance allowed event.reply) later)

end Telling

section Wiring
variable {σ : Type} {profile : Profile} {policy : ResponsePolicy σ} {outside : Outside} {op : ServerOp}
  {reply : op.Reply} {before after : Registry σ} {number : Nat} {channel : Channel}

def writerOf (session : Session σ) : Channel → Option MessageWriter
  | .synchronous => session.syncW
  | .asynchronous => session.asyncW
  | _ => none

def Straight (registry : Registry σ) : Prop :=
  ∀ session ∈ registry.made, ∀ channel writer, writerOf session channel = some writer → writer = ⟨channel⟩

def Installed (registry : Registry σ) (channel : Channel) (number : Nat) : Prop :=
  ∃ session, registry.made[number]? = some session ∧ writerOf session channel ≠ none

def orderly : ServerOp → Prop
  | .session _ (.setSyncWriter writer) => writer = ⟨.synchronous⟩
  | .session _ (.setAsyncWriter writer) => writer = ⟨.asynchronous⟩
  | _ => True

theorem orderly_of_allowed {Ψ : Type} {inner : Discipline Op Op.Reply Ψ} {place : Place} {phase : Ψ}
    (allowed : (conduct inner).allowed (place, phase) op) (reply : op.Reply) : orderly op := by
  rcases advance_cases allowed reply with ⟨_, -, ⟨-, _, performs, plain, -⟩, -⟩ | ⟨next, step, -⟩
  · cases op with
    | session number op =>
      cases performs
      cases op with
      | setSyncWriter _ | setAsyncWriter _ => exact absurd rfl plain
      | _ => trivial
    | _ => trivial
  · cases step with
    | equips | furnishes => rfl
    | _ => trivial

theorem writer_cases (policy : ResponsePolicy σ) (op : SessionOp) (session : Session σ) (channel : Channel)
    (orderly : orderly (.session number op)) :
    writerOf (op.apply policy session).2 channel = writerOf session channel ∨
      writerOf (op.apply policy session).2 channel = some ⟨channel⟩ := by
  have keeps := op.apply_keeps policy session
  cases channel with
  | synchronous =>
    rcases keeps.syncW with kept | ⟨writer, rfl, now⟩
    · exact .inl kept
    · exact .inr (orderly ▸ now)
  | asynchronous =>
    rcases keeps.asyncW with kept | ⟨writer, rfl, now⟩
    · exact .inl kept
    · exact .inr (orderly ▸ now)
  | _ => exact .inl rfl

theorem Straight.apply (straight : Straight before) (orderly : orderly op)
    (applied : op.apply profile policy outside before = some (reply, after)) : Straight after := by
  intro session member channel writer carries
  obtain ⟨number, held⟩ := List.getElem?_of_mem member
  rcases session_back applied held with old | ⟨inner, found, rfl, standing, rfl⟩ | ⟨_, _, _, -, -, -, rfl⟩
  · exact straight session (List.mem_of_getElem? old) channel writer carries
  · rcases writer_cases policy inner found channel orderly with kept | now
    · exact straight found (List.mem_of_getElem? standing) channel writer (kept ▸ carries)
    · rw [now] at carries
      exact (Option.some.inj carries).symm
  · cases channel <;> cases carries

theorem Installed.apply (installed : Installed before channel number) (orderly : orderly op)
    (applied : op.apply profile policy outside before = some (reply, after)) : Installed after channel number := by
  refine session_kept applied (fun inner session same writes => ?_) installed
  subst same
  rcases writer_cases policy inner session channel orderly with kept | now
  · rwa [kept]
  · rw [now]
    exact Option.some_ne_none _

def installs : ServerOp → Option (Channel × Nat)
  | .session number (.setSyncWriter _) => some (.synchronous, number)
  | .session number (.setAsyncWriter _) => some (.asynchronous, number)
  | _ => none

theorem installs_installed (sets : installs op = some (channel, number))
    (applied : op.apply profile policy outside before = some (reply, after)) : Installed after channel number := by
  cases op with
  | session number op =>
    cases op with
    | setSyncWriter writer | setAsyncWriter writer =>
      cases sets
      obtain ⟨found, held, same⟩ := Option.map_eq_some_iff.mp applied
      cases same
      refine ⟨_, List.getElem?_set_self (List.getElem?_eq_some_iff.mp held).1, Option.some_ne_none writer⟩
    | _ => cases sets
  | _ => cases sets

def equipment : Place → Option (Channel × Nat)
  | .equipped session | .serving session => some (.synchronous, session)
  | .furnished session | .attending session => some (.asynchronous, session)
  | _ => none

theorem equipment_next {place next : Place} {wiring : Channel × Nat} {reply : op.Reply} (step : place.Step op reply next)
    (now : equipment next = some wiring) : equipment place = some wiring ∨ installs op = some wiring := by
  cases step with
  | equips | furnishes => exact .inr now
  | sizes | serves | attends => exact .inl now
  | _ => cases now

end Wiring

section Runs
variable {σ : Type} {profile : Profile} {policy : ResponsePolicy σ} {place : Place} {registry after : Registry σ}
  {outside : Outside}

def ready {limit : UInt64} (call : Call limit) : Talk :=
  (connection call).elim { role := .none, coming := [] } fun served => { role := served.1, coming := served.2 }

structure Fits (registry : Registry σ) (phase : Place × Talk) : Prop where
  sided : Sided phase.1 phase.2
  equipped : ∀ channel number, equipment phase.1 = some (channel, number) → Installed registry channel number

structure Fitted (registry : Registry σ) (phases : List (Call profile.maxRxPayload × (Place × Talk))) : Prop where
  straight : Straight registry
  each : ∀ entry ∈ phases, Fits registry entry.2

theorem ready_fits (registry : Registry σ) (call : Call profile.maxRxPayload) : Fits registry (begin ready call) := by
  cases call with
  | closeAll => exact ⟨fun _ => nofun, fun _ _ => nofun⟩
  | serve source stream fuel buffers closing =>
    refine ⟨fun channel same => ?_, fun _ _ => nofun⟩
    obtain rfl := Option.some.inj same
    simp only [begin, ready, connection]
    cases opening profile.maxRxPayload source <;> rfl

theorem ready_prepared (profile : Profile) :
    Prepared profile (Listens .synchronous) (Listens .asynchronous) ready where
  sync source stream fuel buffers closing header subAddress rest first := by
    simp only [ready, connection, first, Option.elim]
    exact ⟨rfl, rfl, rfl, fun _ => nofun⟩
  async source stream fuel buffers closing header rest first := by
    simp only [ready, connection, first, Option.elim]
    exact ⟨rfl, rfl, rfl, fun _ => nofun⟩

theorem equipment_looping {session : Nat} (loops : place.looping = some session) :
    ∃ channel, side place = some channel ∧ equipment place = some (channel, session) := by
  cases place with
  | serving number =>
    cases loops
    exact ⟨.synchronous, rfl, rfl⟩
  | attending number =>
    cases loops
    exact ⟨.asynchronous, rfl, rfl⟩
  | _ => cases loops

theorem Fits.expects {talking : Talk} {op : ServerOp} {reply : op.Reply} (fits : Fits registry (place, talking))
    (straight : Straight registry) (allowed : (conduct talk).allowed (place, talking) op)
    (looping : place.looping.isSome) (applied : op.apply profile policy outside registry = some (reply, after)) :
    expects talk talking op reply := by
  cases op with
  | session number op =>
    obtain ⟨found, held, same⟩ := Option.map_eq_some_iff.mp applied
    have finds : ∀ channel, (∀ writer, writerOf found channel = some writer → writer = ⟨channel⟩) ∧
        (talking.role = channel → writerOf found channel ≠ none) := by
      intro channel
      refine ⟨straight found (List.mem_of_getElem? held) channel, fun own => ?_⟩
      obtain ⟨session, loops⟩ := Option.isSome_iff_exists.mp looping
      obtain ⟨role, sided, equipped⟩ := equipment_looping loops
      obtain ⟨standing, there, writes⟩ := fits.equipped role session equipped
      have concerned : number = session := by
        rcases advance_cases allowed reply with ⟨other, also, handles, -⟩ | ⟨next, step, -⟩
        · rw [loops] at also
          exact handles.1.trans (Option.some.inj also).symm
        · cases step <;> cases loops
      subst concerned
      obtain rfl : standing = found := Option.some.inj (there.symm.trans held)
      rwa [← own, fits.sided role sided]
    cases op with
    | syncWriter =>
      cases same
      exact finds .synchronous
    | asyncWriter =>
      cases same
      exact finds .asynchronous
    | _ => trivial
  | _ => trivial

theorem Fits.advance {talking : Talk} {op : ServerOp} {reply : op.Reply} (fits : Fits registry (place, talking))
    (allowed : (conduct talk).allowed (place, talking) op)
    (applied : op.apply profile policy outside registry = some (reply, after)) :
    Fits after ((conduct talk).advance (place, talking) op reply) := by
  refine ⟨fits.sided.advance allowed reply, fun channel number now => ?_⟩
  have orderly := orderly_of_allowed allowed reply
  rcases advance_cases allowed reply with ⟨session, loops, handles, same⟩ | ⟨next, step, same⟩
  · rw [same] at now
    exact (fits.equipped channel number now).apply orderly applied
  · rw [same] at now
    rcases equipment_next step now with had | sets
    · exact (fits.equipped channel number had).apply orderly applied
    · exact installs_installed sets applied

theorem always_talking (policy : ResponsePolicy σ) (moves : List (Move (Call profile.maxRxPayload) Outside)) :
    Always (Calls.step policy) (Chronicle.Lawful (conduct talk) (Returns Ends) (begin ready) Fitted) moves
      ({ shared := {} } : Calls profile σ) := by
  refine always_conducted (talk_rules profile) (ready_prepared profile) ⟨fun _ => nofun, fun _ => nofun⟩ ?_ ?_ moves
  · intro registry phases call fitted
    exact ⟨fitted.straight, forall_concat fitted.each (ready_fits registry call)⟩
  · intro registry phases number call place talking op outside reply after fitted listed allowed applied
    have fits := fitted.each _ (List.mem_of_getElem? listed)
    have orderly := orderly_of_allowed allowed reply
    refine ⟨fun loops => fits.expects fitted.straight allowed loops applied, fitted.straight.apply orderly applied, ?_⟩
    refine forall_set fitted.each (fun entry old => ?_) (fits.advance allowed applied)
    exact ⟨old.sided, fun channel number had => (old.equipped channel number had).apply orderly applied⟩

theorem serves_of_kept {call : Call profile.maxRxPayload} {past : List (Performed ServerOp.Reply)}
    (kept : (conduct talk).Kept (begin ready call) past) : Serves call (deeds past) := by
  have tells := tells_of_kept (ready_fits ({} : Registry Unit) call).sided kept
  cases call with
  | closeAll => exact .inl tells
  | serve source stream fuel buffers closing =>
    rcases tells with nothing | refusal | ⟨op, more, greets, continues, told⟩
    · exact .inl nothing
    · exact .inr (.inl refusal)
    · refine .inr (.inr ?_)
      cases served : connection (.serve source stream fuel buffers closing) with
      | none =>
        simp only [begin, ready, served, Option.elim] at greets
        obtain ⟨_, -, -, -, ⟨impossible, -⟩ | ⟨impossible, -⟩⟩ := greets <;> cases impossible
      | some both =>
        obtain ⟨role, turns⟩ := both
        simp only [begin, ready, served, Option.elim] at greets continues
        exact ⟨role, turns, op, more, rfl, greets, continues, told⟩

/-- Every call greets its client or refuses it, and then holds a conversation over the messages of
its connection. -/
theorem conversations (profile : Profile) (policy : ResponsePolicy σ)
    (moves : List (Move (Call profile.maxRxPayload) Outside)) :
    Always (Calls.step policy) (fun calls => ∀ thread ∈ calls.threads, Serves thread.task (deeds thread.past)) moves
      ({ shared := {} } : Calls profile σ) :=
  (always_talking policy moves).mono fun _ lawful thread member => serves_of_kept (lawful.threads thread member).kept

end Runs

end Hislip.Proofs.Conversation
