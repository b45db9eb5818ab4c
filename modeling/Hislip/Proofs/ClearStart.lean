import Hislip.Proofs.Overtaken
import Hislip.Proofs.Refusals

/-! The first half of a Device Clear. Clearing is reachable from every state of the
transaction but from clearing itself, so a second Device Clear that begins before the
first one is completed is refused. -/

namespace Hislip.Proofs.ClearStart
open Hislip.Server Hislip.Proofs.Codec Hislip.Proofs.ReaderSync Refusals Act Program

variable {σ δ : Type}

/-- The acknowledgement is the only thing written, and the session and its transaction
are clearing. -/
structure Started (config : Config) (before : World σ δ) (result : Option Err) (after : World σ δ) : Prop where
  continues : result = none
  acknowledged : after.trace = before.trace ++ [⟨.send .asynchronous
    { type := .asyncDeviceClearAcknowledge, control := config.featureBitmap featureOverlapped } [], some none⟩]
  state : after.session.state = .clearing
  transaction : after.session.tx.state = .clearing

section Steps
variable {policy : ResponsePolicy σ} {environment : Environment δ} {world : World σ δ}

theorem clear_moves {transaction : Transaction} (other : transaction.state ≠ .clearing) :
    TxOp.clear.apply transaction = (none, { transaction with state := .clearing }) := by
  obtain ⟨state, id⟩ := transaction
  cases state with
  | clearing => exact absurd rfl other
  | _ => rfl

theorem clear_refused {transaction : Transaction} (same : transaction.state = .clearing) :
    TxOp.clear.apply transaction = (some (.sentinel .invalidTransition), transaction) := by
  obtain ⟨state, id⟩ := transaction
  cases same
  rfl

theorem beginClear_state {session : Session σ} (paired : session.state = .ready ∨ session.state = .clearing) :
    session.beginClear.state = .clearing := by
  unfold Session.beginClear
  rcases paired with same | same <;> simp [same]

theorem beginClear_transaction (session : Session σ) : session.beginClear.tx = session.tx := by
  unfold Session.beginClear
  split <;> rfl

theorem beginDeviceClear_begins (config : Config)
    (paired : world.session.state = .ready ∨ world.session.state = .clearing) :
    Yields (handler policy environment) (beginDeviceClear config) world fun answer after =>
      after.trace = world.trace ∧
        (world.session.tx.state = .clearing → answer = .error Sentinel.invalidTransition) ∧
        (world.session.tx.state ≠ .clearing →
          answer = .ok { type := .asyncDeviceClearAcknowledge, control := config.featureBitmap featureOverlapped } ∧
            after.session.state = .clearing ∧ after.session.tx.state = .clearing) := by
  obtain ⟨aborted, run, session, trace, -⟩ := Overtaken.exec_abortOperation policy environment world
  simp only [Yields, beginDeviceClear, exec_bind, exec_requireReady_paired paired, andThen_some, run,
    exec_setResponsePending, exec_tx, World.session_setSession, session]
  by_cases clearing : world.session.tx.state = .clearing
  · simp only [clear_refused clearing]
    exact ⟨_, _, rfl, trace, fun _ => rfl, fun other => absurd clearing other⟩
  · simp only [clear_moves clearing, exec_bind, exec_beginClear, andThen_some]
    refine ⟨_, _, rfl, trace, fun same => absurd same clearing, fun _ => ⟨rfl, ?_, ?_⟩⟩
    · exact beginClear_state paired
    · show (Session.beginClear _).tx.state = _
      rw [beginClear_transaction]
      rfl

theorem asyncDeviceClear_accepted (session : Session σ) {header : Header} (kind : header.type = .asyncDeviceClear)
    (fits : checkLength header.length session.maxRx = none) :
    verdict session header .asynchronous = .ok .preemptAbandon := by
  have found : classOf header.type = .preemptAbandon := by rw [kind]; rfl
  rw [← found]
  refine verdict_accepts ?_ ?_ ?_ ?_ (by rw [found]; decide) fits
  all_goals rw [kind]
  any_goals rfl
  exact session.current

end Steps

/-- A Device Clear is acknowledged unless another one has begun and is not completed, or
the message is too large to be read. -/
theorem clear_started_iff (policy : ResponsePolicy σ) (environment : Environment δ) (takes : Takes environment)
    (config : Config) (fuel : Nat) (world : World σ δ)
    (paired : world.session.state = .ready ∨ world.session.state = .clearing)
    (wired : world.session.asyncW = some ⟨.asynchronous⟩) (packet : Packet)
    (kind : packet.header.type = .asyncDeviceClear) :
    Yields (handler policy environment) (handleAsync config (delivered world.session.maxRx packet) fuel) world
        (Started config world) ↔
      packet.payload.len ≤ world.session.maxRx ∧ world.session.tx.state ≠ .clearing := by
  by_cases within : packet.payload.len ≤ world.session.maxRx
  · rw [delivered, if_pos within]
    have fits : checkLength packet.sent.length world.session.maxRx = none := by
      simp [checkLength, WriteCall.sent, within]
    have same : packet.sent.type = .asyncDeviceClear := kind
    have accepted := asyncDeviceClear_accepted world.session same fits
    obtain ⟨answer, cleared, run, trace, refused, begun⟩ : Yields (handler policy environment) (beginDeviceClear config)
      world _ := beginDeviceClear_begins config paired
    have handled : exec (handler policy environment)
        (handleAsync config { header := packet.sent, payload := packet.payload.bytes } fuel) world =
          exec (handler policy environment) (answerAsync ⟨.asynchronous⟩ answer) cleared := by
      simp only [handleAsync, exec_bind, exec_asyncWriter, wired, andThen_some, exec_accept_paired paired, accepted, same,
        if_true, run]
    by_cases clearing : world.session.tx.state = .clearing
    · refine iff_of_false (fun started => ?_) fun holds => holds.2 clearing
      obtain ⟨result, after, ended, started⟩ := started
      obtain rfl := refused clearing
      have reported : Refuses policy environment Loop.async.channel _ _ :=
        reportError_refuses takes .async (show wireErrorFor (.sentinel .invalidTransition) = .nonFatal _ from rfl)
          fun code => if code = ErrorCode.unidentified then ErrorCode.handshakeTimeout else code
      obtain ⟨_, _, run, told⟩ := reported cleared
      rw [handled] at ended
      cases run.symm.trans ended
      exact absurd (told.shown (trace ▸ started.acknowledged)).1
        (show MessageType.asyncDeviceClearAcknowledge ≠ .error by decide)
    · refine iff_of_true ?_ ⟨within, clearing⟩
      obtain ⟨rfl, state, transaction⟩ := begun clearing
      refine ⟨none, _, handled.trans (exec_write_taken takes rfl rfl cleared), rfl, ?_, state, transaction⟩
      rw [World.trace_call, takes, trace]
      rfl
  · refine iff_of_false (fun started => ?_) fun holds => within holds.1
    obtain ⟨result, after, ended, started⟩ := started
    rw [delivered, if_neg within] at ended
    have connected : Loop.async.writer world.session = some ⟨Loop.async.channel⟩ := wired
    obtain ⟨_, _, run, told⟩ : Yields (handler policy environment) _ world _ :=
      handle_oversized takes config fuel connected packet.sent
    cases run.symm.trans ended
    exact absurd (told.shown started.acknowledged).1
      (show MessageType.asyncDeviceClearAcknowledge ≠ .error by decide)

def respondingWorld : World SCPIQueryPolicy (List ReadResult) :=
  pairedWorld.setTx { state := .sendingResponse, id := 0xffffff00 }

theorem clear_started_responding :
    Yields (handler scpiQueryPolicy scripted)
      (handleAsync Profile.standard.toConfig { header := { type := .asyncDeviceClear } } 0) respondingWorld
      (Started Profile.standard.toConfig respondingWorld) :=
  (clear_started_iff scpiQueryPolicy scripted (fun _ _ _ _ => rfl) Profile.standard.toConfig 0 respondingWorld (.inl rfl) rfl
    ⟨⟨{ type := .asyncDeviceClear }, ⟨[], by decide⟩⟩, .inl rfl⟩ rfl).mpr ⟨by decide, by decide⟩

/-- The second of two AsyncDeviceClear messages is answered with an Error. -/
theorem second_clear_refused :
    let clear := handleAsync Profile.standard.toConfig { header := { type := .asyncDeviceClear } } 0
    let begun := (exec (handler scpiQueryPolicy scripted) clear pairedWorld).2
    begun.session.state = .clearing ∧ begun.session.tx.state = .clearing ∧
      (exec (handler scpiQueryPolicy scripted) clear begun).2.trace = begun.trace ++
        [⟨.send .asynchronous { type := .error, control := 128, length := 44 }
          (ascii "hislip: invalid transaction state transition"), some none⟩] ∧
      ¬ Yields (handler scpiQueryPolicy scripted) clear begun (Started Profile.standard.toConfig begun) := by
  intro clear begun
  have told : (exec (handler scpiQueryPolicy scripted) clear begun).2.trace = begun.trace ++
      [⟨.send .asynchronous { type := .error, control := 128, length := 44 }
        (ascii "hislip: invalid transaction state transition"), some none⟩] := rfl
  refine ⟨rfl, rfl, told, ?_⟩
  rintro ⟨result, after, run, started⟩
  obtain rfl := congrArg Prod.snd run
  have written := List.append_cancel_left (started.acknowledged.symm.trans told)
  simp only [List.cons.injEq, Event.mk.injEq, EnvironmentOp.send.injEq, Header.mk.injEq] at written
  exact absurd written.1.1.2.1.1 (by decide)

end Hislip.Proofs.ClearStart
