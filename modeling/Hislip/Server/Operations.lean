import Hislip.Server.Locks
import Hislip.Server.Session

/-! The operations a channel loop performs: critical sections on the state the
loops share, and calls into the environment, which is the device, the two streams,
the reader's queue and the clock. A handler for them runs a loop alone. -/

namespace Hislip.Server

inductive Counter where
  | sessionsOpened | sessionsRefused | fatalErrors | nonFatalErrors | wrongChannel | silentInterrupted
  | interruptedSent | queriesWithoutAnswer | truncatedResponses | deviceClears | triggers | serialPolls
  | oversizedMessages
  deriving DecidableEq, Repr

inductive SharedOp where
  | session (op : SessionOp)
  | locks (op : LockOp)
  | withCancel
  | cancel (operation : Nat)
  | count (counter : Counter)
  deriving DecidableEq, Repr

abbrev SharedOp.Reply : SharedOp → Type
  | .session op => op.Reply
  | .locks op => op.Reply
  | .withCancel => Nat
  | .cancel _ => Unit
  | .count _ => Unit

/-- The context of a device call: the server's own, or that of a registered
operation, which a Device Clear cancels. -/
inductive Ctx where
  | server
  | operation (number : Nat)
  deriving DecidableEq, Repr

/-- The result of a device read: the bytes now in the buffer, the end flag and the error. -/
structure ReadResult where
  data : Bytes
  last : Bool
  err : Option Err
  deriving DecidableEq, Repr

inductive EnvironmentOp where
  | write (ctx : Ctx) (payload : Bytes) (last : Bool)
  | read (ctx : Ctx) (size : Nat)
  | clear (ctx : Ctx)
  | trigger (ctx : Ctx)
  | readStatusByte (ctx : Ctx)
  | remoteLocal (ctx : Ctx) (mode : UInt8)
  | send (channel : Channel) (header : Header) (payload : Bytes)
  | pending
  | select (channel : Nat)
  | remaining
  | exhausted
  deriving DecidableEq, Repr

abbrev EnvironmentOp.Reply : EnvironmentOp → Type
  | .write _ _ _ | .clear _ | .trigger _ | .remoteLocal _ _ | .send _ _ _ => Option Err
  | .read _ _ => ReadResult
  | .readStatusByte _ => Except Err UInt8
  | .pending | .remaining => Bool
  | .select _ => Wake
  | .exhausted => Empty

inductive Op where
  | shared (op : SharedOp)
  | environment (op : EnvironmentOp)
  deriving DecidableEq, Repr

abbrev Op.Reply : Op → Type
  | .shared op => op.Reply
  | .environment op => op.Reply

/-- What a channel loop runs. -/
abbrev Act : Type → Type := Program Op Op.Reply

namespace Act

def session (op : SessionOp) : Act op.Reply := Program.perform (Op.shared (.session op))

def tx (op : TxOp) : Act (Option Err) := session (.tx op)

def count (counter : Counter) : Act Unit := Program.perform (Op.shared (.count counter))

def environment (op : EnvironmentOp) : Act op.Reply := Program.perform (Op.environment op)

/-- A loop of the source that its unrolling here does not reach the end of. -/
def exhausted {α : Type} : Act α := .request (.environment .exhausted) Empty.elim

/-- The steps of a lock request are steps of the loop that makes it. -/
def ofRequest {α : Type} (program : RequestProgram α) : Act α :=
  program.translate
    (fun
      | .locks op => .shared (.locks op)
      | .select channel => .environment (.select channel)
      | .remaining => .environment .remaining
      | .exhausted => .environment .exhausted)
    (fun
      | .locks _, reply => reply
      | .select _, reply => reply
      | .remaining, reply => reply
      | .exhausted, reply => reply)

end Act

/-- The state the two loops of a session share. Operation contexts are numbered
as they are made. -/
structure Shared (σ : Type) where
  session : Session σ
  locks : LockManager := {}
  contexts : Nat := 0
  cancelled : List Nat := []
  counters : Counter → Nat := fun _ => 0

def SharedOp.apply {σ : Type} (policy : ResponsePolicy σ) : (op : SharedOp) → Shared σ → op.Reply × Shared σ
  | .session op, shared =>
    ((op.apply policy shared.session).1, { shared with session := (op.apply policy shared.session).2 })
  | .locks op, shared => ((op.apply shared.locks).1, { shared with locks := (op.apply shared.locks).2 })
  | .withCancel, shared => (shared.contexts, { shared with contexts := shared.contexts + 1 })
  | .cancel operation, shared => ((), { shared with cancelled := operation :: shared.cancelled })
  | .count counter, shared =>
    ((), { shared with counters := Function.update shared.counters counter (shared.counters counter + 1) })

/-- One call into the environment; no reply means that the call never returned. -/
structure Event where
  operation : EnvironmentOp
  reply : Option operation.Reply

abbrev Environment (δ : Type) : Type := Handler EnvironmentOp EnvironmentOp.Reply δ

structure World (σ δ : Type) where
  shared : Shared σ
  environment : δ
  trace : List Event := []

variable {σ δ : Type}

def handler (policy : ResponsePolicy σ) (environment : Environment δ) : Handler Op Op.Reply (World σ δ)
  | .shared op, world =>
    (some (op.apply policy world.shared).1, { world with shared := (op.apply policy world.shared).2 })
  | .environment op, world =>
    ((environment op world.environment).1,
      { world with
        environment := (environment op world.environment).2
        trace := world.trace ++ [⟨op, (environment op world.environment).1⟩] })

end Hislip.Server
