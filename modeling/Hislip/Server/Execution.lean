import Hislip.Server.Operations

/-! Running a loop alone: what each operation does to the world. -/

namespace Hislip.Server
open Program

/-- A device that replays its reads and accepts everything else, streams that
accept every message, and a client that queues nothing. -/
def scripted : Environment (List ReadResult)
  | .read _ _, result :: later => (some result, later)
  | .read _ _, [] => (none, [])
  | .write _ _ _, reads => (some none, reads)
  | .clear _, reads => (some none, reads)
  | .trigger _, reads => (some none, reads)
  | .remoteLocal _ _, reads => (some none, reads)
  | .send _ _ _, reads => (some none, reads)
  | .readStatusByte _, reads => (some (.ok 0), reads)
  | .pending, reads => (some false, reads)
  | .select _, reads => (some .timer, reads)
  | .remaining, reads => (some false, reads)
  | .exhausted, reads => (none, reads)

namespace World
variable {σ δ : Type}

def session (world : World σ δ) : Session σ := world.shared.session

def setSession (world : World σ δ) (session : Session σ) : World σ δ :=
  { world with shared := { world.shared with session } }

def setTx (world : World σ δ) (tx : Transaction) : World σ δ := world.setSession { world.session with tx }

def call (environment : Environment δ) (world : World σ δ) (op : EnvironmentOp) : World σ δ :=
  { world with
    environment := (environment op world.environment).2
    trace := world.trace ++ [⟨op, (environment op world.environment).1⟩] }

variable (world : World σ δ) (session : Session σ) (tx : Transaction)

@[simp] theorem session_setSession : (world.setSession session).session = session := rfl

@[simp] theorem setSession_setSession (first second : Session σ) :
    (world.setSession first).setSession second = world.setSession second := rfl

@[simp] theorem trace_setSession : (world.setSession session).trace = world.trace := rfl

@[simp] theorem environment_setSession : (world.setSession session).environment = world.environment := rfl

@[simp] theorem session_setTx : (world.setTx tx).session = { world.session with tx } := rfl

@[simp] theorem setTx_setTx (first second : Transaction) : (world.setTx first).setTx second = world.setTx second := rfl

@[simp] theorem trace_setTx : (world.setTx tx).trace = world.trace := rfl

@[simp] theorem environment_setTx : (world.setTx tx).environment = world.environment := rfl

variable {environment : Environment δ} (op : EnvironmentOp)

@[simp] theorem session_call : (world.call environment op).session = world.session := rfl

@[simp] theorem trace_call :
    (world.call environment op).trace = world.trace ++ [⟨op, (environment op world.environment).1⟩] := rfl

@[simp] theorem environment_call : (world.call environment op).environment = (environment op world.environment).2 := rfl

end World

section
variable {σ δ : Type} {policy : ResponsePolicy σ} {environment : Environment δ}

theorem exec_session (op : SessionOp) (world : World σ δ) :
    exec (handler policy environment) (Act.session op) world =
      (some (op.apply policy world.session).1, world.setSession (op.apply policy world.session).2) := rfl

-- The result type is spelled out below: a reply type that still mentions its
-- operation is not what a handler's text has.
section Queries
variable (world : World σ δ)

@[simp] theorem exec_id :
    @exec Op Op.Reply UInt16 _ (handler policy environment) (Act.session .id) world =
      (some world.session.id, world) := rfl

@[simp] theorem exec_state :
    @exec Op Op.Reply State _ (handler policy environment) (Act.session .state) world =
      (some world.session.state, world) := rfl

@[simp] theorem exec_version :
    @exec Op Op.Reply Version _ (handler policy environment) (Act.session .version) world =
      (some world.session.version, world) := rfl

@[simp] theorem exec_maxRx :
    @exec Op Op.Reply UInt64 _ (handler policy environment) (Act.session .maxRx) world =
      (some world.session.maxRx, world) := rfl

@[simp] theorem exec_maxTx :
    @exec Op Op.Reply UInt64 _ (handler policy environment) (Act.session .maxTx) world =
      (some world.session.maxTx, world) := rfl

@[simp] theorem exec_syncWriter :
    @exec Op Op.Reply (Option MessageWriter) _ (handler policy environment) (Act.session .syncWriter) world =
      (some world.session.syncW, world) := rfl

@[simp] theorem exec_asyncWriter :
    @exec Op Op.Reply (Option MessageWriter) _ (handler policy environment) (Act.session .asyncWriter) world =
      (some world.session.asyncW, world) := rfl

@[simp] theorem exec_syncPending :
    @exec Op Op.Reply Bool _ (handler policy environment) (Act.session .syncPending) world =
      (some world.session.pending, world) := rfl

end Queries

@[simp] theorem exec_feed (chunk : Bytes) (world : World σ δ) :
    @exec Op Op.Reply Unit _ (handler policy environment) (Act.session (.feed chunk)) world =
      (some (), world.setSession { world.session with policy := world.session.policy.map (policy.feed · chunk) }) := rfl

variable (world : World σ δ)

@[simp] theorem exec_disposition :
    @exec Op Op.Reply Disposition _ (handler policy environment) (Act.session .disposition) world =
      (some (SessionOp.disposition.apply policy world.session).1,
        world.setSession (SessionOp.disposition.apply policy world.session).2) := rfl

@[simp] theorem exec_register (operation : Nat) (world : World σ δ) :
    @exec Op Op.Reply Unit _ (handler policy environment) (Act.session (.register operation)) world =
      (some (), world.setSession { world.session with opCancel := some operation }) := rfl

@[simp] theorem exec_unregister :
    @exec Op Op.Reply Unit _ (handler policy environment) (Act.session .unregister) world =
      (some (), world.setSession { world.session with opCancel := none }) := rfl

@[simp] theorem exec_withCancel :
    @exec Op Op.Reply Nat _ (handler policy environment) (perform (Op.shared .withCancel)) world =
      (some world.shared.contexts,
        { world with shared := { world.shared with contexts := world.shared.contexts + 1 } }) := rfl

@[simp] theorem exec_rmt (op : RMTOp) (world : World σ δ) :
    @exec Op Op.Reply Interrupted _ (handler policy environment) (Act.session (.rmt op)) world =
      (some (op.apply world.session.rmt).1,
        world.setSession { world.session with rmt := (op.apply world.session.rmt).2 }) := rfl

@[simp] theorem exec_receivedSyncMessage (id : MessageID) (world : World σ δ) :
    @exec Op Op.Reply Unit _ (handler policy environment) (Act.session (.receivedSyncMessage id)) world =
      (some (), world.setSession { world.session with status := world.session.status.receivedSyncMessage id }) := rfl

@[simp] theorem exec_setResponsePending (pending : Bool) (world : World σ δ) :
    @exec Op Op.Reply Unit _ (handler policy environment) (Act.session (.setResponsePending pending)) world =
      (some (), world.setSession
        { world.session with status := { world.session.status with responsePending := pending } }) := rfl

@[simp] theorem exec_statusByte (device : UInt8) (queryID : MessageID) (rmtDelivered : Bool) (world : World σ δ) :
    @exec Op Op.Reply UInt8 _ (handler policy environment) (Act.session (.statusByte device queryID rmtDelivered)) world =
      (some (world.session.status.byte device queryID rmtDelivered), world) := rfl

@[simp] theorem exec_takeServiceRequest :
    @exec Op Op.Reply Bool _ (handler policy environment) (Act.session .takeServiceRequest) world =
      (some world.session.status.srqLatched, world.setSession
        { world.session with status := world.session.status.takeServiceRequest.2 }) := rfl

@[simp] theorem exec_latchServiceRequest (byte : UInt8) (world : World σ δ) :
    @exec Op Op.Reply Bool _ (handler policy environment) (Act.session (.latchServiceRequest byte)) world =
      (some (world.session.status.latchServiceRequest byte).1, world.setSession
        { world.session with status := (world.session.status.latchServiceRequest byte).2 }) := rfl

@[simp] theorem exec_setLastTx (id : MessageID) (world : World σ δ) :
    @exec Op Op.Reply Unit _ (handler policy environment) (Act.session (.setLastTx id)) world =
      (some (), world.setSession { world.session with lastTx := id }) := rfl

@[simp] theorem exec_abort :
    @exec Op Op.Reply (Option Nat) _ (handler policy environment) (Act.session .abort) world =
      (some world.session.opCancel, world.setSession { world.session with opCancel := none }) := rfl

@[simp] theorem exec_beginClear :
    @exec Op Op.Reply Unit _ (handler policy environment) (Act.session .beginClear) world =
      (some (), world.setSession world.session.beginClear) := rfl

@[simp] theorem exec_completeClear (overlap : Bool) (world : World σ δ) :
    @exec Op Op.Reply Unit _ (handler policy environment) (Act.session (.completeClear overlap)) world =
      (some (), world.setSession (world.session.completeClear overlap)) := rfl

@[simp] theorem exec_cancel (operation : Nat) (world : World σ δ) :
    @exec Op Op.Reply Unit _ (handler policy environment) (perform (Op.shared (.cancel operation))) world =
      (some (), { world with shared := { world.shared with cancelled := operation :: world.shared.cancelled } }) := rfl

@[simp] theorem exec_tx (op : TxOp) (world : World σ δ) :
    exec (handler policy environment) (Act.tx op) world =
      (some (op.apply world.session.tx).1, world.setTx (op.apply world.session.tx).2) := rfl

theorem exec_environment (op : EnvironmentOp) (world : World σ δ) :
    exec (handler policy environment) (Act.environment op) world =
      ((environment op world.environment).1, world.call environment op) :=
  exec_perform _ _ _

section Calls
variable (world : World σ δ) (ctx : Ctx)

@[simp] theorem exec_write (payload : Bytes) (last : Bool) :
    @exec Op Op.Reply (Option Err) _ (handler policy environment) (Act.environment (.write ctx payload last)) world =
      ((environment (.write ctx payload last) world.environment).1, world.call environment (.write ctx payload last)) :=
  exec_environment _ _

@[simp] theorem exec_read (size : Nat) :
    @exec Op Op.Reply ReadResult _ (handler policy environment) (Act.environment (.read ctx size)) world =
      ((environment (.read ctx size) world.environment).1, world.call environment (.read ctx size)) :=
  exec_environment _ _

@[simp] theorem exec_clear :
    @exec Op Op.Reply (Option Err) _ (handler policy environment) (Act.environment (.clear ctx)) world =
      ((environment (.clear ctx) world.environment).1, world.call environment (.clear ctx)) :=
  exec_environment _ _

@[simp] theorem exec_trigger :
    @exec Op Op.Reply (Option Err) _ (handler policy environment) (Act.environment (.trigger ctx)) world =
      ((environment (.trigger ctx) world.environment).1, world.call environment (.trigger ctx)) :=
  exec_environment _ _

@[simp] theorem exec_readStatusByte :
    @exec Op Op.Reply (Except Err UInt8) _ (handler policy environment) (Act.environment (.readStatusByte ctx)) world =
      ((environment (.readStatusByte ctx) world.environment).1, world.call environment (.readStatusByte ctx)) :=
  exec_environment _ _

@[simp] theorem exec_send (channel : Channel) (header : Header) (payload : Bytes) :
    @exec Op Op.Reply (Option Err) _ (handler policy environment) (Act.environment (.send channel header payload)) world =
      ((environment (.send channel header payload) world.environment).1,
        world.call environment (.send channel header payload)) :=
  exec_environment _ _

@[simp] theorem exec_pending :
    @exec Op Op.Reply Bool _ (handler policy environment) (Act.environment .pending) world =
      ((environment .pending world.environment).1, world.call environment .pending) :=
  exec_environment _ _

end Calls

@[simp] theorem exec_count (counter : Counter) (world : World σ δ) :
    exec (handler policy environment) (Act.count counter) world =
      (some (), { world with shared := (SharedOp.apply policy (.count counter) world.shared).2 }) := rfl

@[simp] theorem exec_exhausted {α : Type} :
    exec (handler policy environment) (Act.exhausted : Act α) world = (none, world.call environment .exhausted) := by
  have silent : (environment .exhausted world.environment).1 = none := by
    cases (environment .exhausted world.environment).1 with
    | none => rfl
    | some reply => cases reply
  change andThen ((environment .exhausted world.environment).1, world.call environment .exhausted) _ = _
  rw [silent]
  rfl

theorem exec_trace {α : Type} (program : Act α) (world : World σ δ) :
    ∃ events, (exec (handler policy environment) program world).2.trace = world.trace ++ events := by
  induction program generalizing world with
  | pure value => exact ⟨[], (List.append_nil _).symm⟩
  | request op next ih =>
    rw [exec_request]
    cases op with
    | shared op => exact ih _ _
    | environment op =>
      rw [handler]
      cases (environment op world.environment).1 with
      | none => exact ⟨_, rfl⟩
      | some reply =>
        obtain ⟨events, more⟩ := ih reply
          { world with
            environment := (environment op world.environment).2
            trace := world.trace ++ [⟨op, some reply⟩] }
        exact ⟨_, more.trans (List.append_assoc _ _ _)⟩

end

end Hislip.Server
