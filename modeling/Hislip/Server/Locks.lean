import Mathlib.Data.List.AList
import Hislip.Program
import Hislip.Protocol.Errors

/-! The server-wide lock manager. Every method body runs under one mutex and is a
function of the manager's state here; `request` is the one method that leaves its
critical section to wait, so it is a program over the others. -/

namespace Hislip.Server

inductive LockResult where
  | failure | granted | releasedShared | error
  deriving DecidableEq, Repr

def LockResult.code : LockResult → UInt8
  | .failure => 0
  | .granted => 1
  | .releasedShared => 2
  | .error => 3

/-- Channels are numbered as they are made; `closed` lists those that were closed. -/
structure LockManager where
  exclusive : UInt16 := 0
  hasExclusive : Bool := false
  key : Bytes := []
  shared : AList (fun _ : UInt16 => Bool) := ∅
  changed : Option Nat := none
  made : Nat := 0
  closed : List Nat := []

namespace LockManager

def sharedBy (manager : LockManager) (id : UInt16) : Bool := (manager.shared.lookup id).getD false

def sharers (manager : LockManager) : Nat := manager.shared.entries.length

def notifyLocked (manager : LockManager) : LockManager :=
  match manager.changed with
  | some channel => { manager with closed := channel :: manager.closed, changed := none }
  | none => manager

def waiterLocked (manager : LockManager) : Nat × LockManager :=
  match manager.changed with
  | some channel => (channel, manager)
  | none => (manager.made, { manager with changed := some manager.made, made := manager.made + 1 })

def tryExclusiveLocked (manager : LockManager) (id : UInt16) : LockResult × LockManager :=
  if manager.hasExclusive then
    if manager.exclusive = id then (.error, manager) else (.failure, manager)
  else if 0 < manager.sharers ∧ ¬ manager.sharedBy id then (.failure, manager)
  else (.granted, { manager with hasExclusive := true, exclusive := id }.notifyLocked)

def trySharedLocked (manager : LockManager) (id : UInt16) (key : Bytes) : LockResult × LockManager :=
  if manager.sharedBy id then (.error, manager)
  else if 0 < manager.sharers then
    if manager.key ≠ key then (.failure, manager)
    else (.granted, { manager with shared := manager.shared.insert id true }.notifyLocked)
  else if manager.hasExclusive ∧ manager.exclusive ≠ id then (.failure, manager)
  else if manager.hasExclusive ∧ manager.exclusive = id then (.error, manager)
  else (.granted, { manager with key, shared := manager.shared.insert id true }.notifyLocked)

def tryRequest (manager : LockManager) (id : UInt16) (lockString : Bytes) : LockResult × LockManager :=
  if lockString = [] then manager.tryExclusiveLocked id else manager.trySharedLocked id lockString

def dropExclusive (manager : LockManager) : LockManager := { manager with hasExclusive := false, exclusive := 0 }

def dropShared (manager : LockManager) (id : UInt16) : LockManager :=
  let shared := manager.shared.erase id
  { manager with shared, key := if shared.entries.length = 0 then [] else manager.key }

def release (manager : LockManager) (id : UInt16) : LockResult × LockManager :=
  if manager.hasExclusive ∧ manager.exclusive = id then (.granted, manager.dropExclusive.notifyLocked)
  else if manager.sharedBy id then (.releasedShared, (manager.dropShared id).notifyLocked)
  else (.error, manager)

def releaseAll (manager : LockManager) (id : UInt16) : LockManager :=
  let holder := manager.hasExclusive ∧ manager.exclusive = id
  let unheld := if holder then manager.dropExclusive else manager
  if unheld.sharedBy id then (unheld.dropShared id).notifyLocked
  else if holder then unheld.notifyLocked
  else unheld

/-- Whether an exclusive lock is granted, and how many sessions hold a lock. -/
def info (manager : LockManager) : Bool × Nat :=
  let holders := manager.shared
  let holders := if manager.hasExclusive then holders.insert manager.exclusive true else holders
  (manager.hasExclusive, holders.entries.length)

def held (manager : LockManager) (id : UInt16) : Bool :=
  (manager.hasExclusive && manager.exclusive == id) || manager.sharedBy id

end LockManager

inductive LockOp where
  | tryRequest (id : UInt16) (lockString : Bytes)
  | waiter
  | release (id : UInt16)
  | releaseAll (id : UInt16)
  | info
  deriving DecidableEq, Repr

namespace LockOp

abbrev Reply : LockOp → Type
  | .tryRequest _ _ => LockResult
  | .waiter => Nat
  | .release _ => LockResult
  | .releaseAll _ => Unit
  | .info => Bool × Nat

def apply : (op : LockOp) → LockManager → op.Reply × LockManager
  | .tryRequest id lockString, manager => manager.tryRequest id lockString
  | .waiter, manager => manager.waiterLocked
  | .release id, manager => manager.release id
  | .releaseAll id, manager => ((), manager.releaseAll id)
  | .info, manager => (manager.info, manager)

end LockOp

/-- What ended a wait: the change channel was closed, the timer fired, or the
context was cancelled. -/
inductive Wake where
  | changed | timer | done
  deriving DecidableEq, Repr

/-- The steps of a lock request: the critical sections it enters, the wait between
them, and the reading of the clock. `exhausted` ends an unrolled loop: nothing
replies to it. -/
inductive RequestOp where
  | locks (op : LockOp)
  | select (channel : Nat)
  | remaining
  | exhausted
  deriving DecidableEq, Repr

abbrev RequestOp.Reply : RequestOp → Type
  | .locks op => op.Reply
  | .select _ => Wake
  | .remaining => Bool
  | .exhausted => Empty

abbrev RequestProgram : Type → Type := Program RequestOp RequestOp.Reply

namespace RequestProgram

def tryRequest (id : UInt16) (lockString : Bytes) : RequestProgram LockResult :=
  Program.perform (RequestOp.locks (.tryRequest id lockString))

def waiter : RequestProgram Nat := Program.perform (RequestOp.locks .waiter)

def select (channel : Nat) : RequestProgram Wake := Program.perform (RequestOp.select channel)

def remaining : RequestProgram Bool := Program.perform RequestOp.remaining

def exhausted {α : Type} : RequestProgram α := .request .exhausted Empty.elim

end RequestProgram

namespace LockManager

/-- The waiting loop of `Request`, unrolled at most `fuel` times. -/
def requestLoop (id : UInt16) (lockString : Bytes) : Nat → RequestProgram LockResult
  | 0 => RequestProgram.exhausted
  | fuel + 1 => do
    let channel ← RequestProgram.waiter
    match ← RequestProgram.select channel with
    | .timer | .done => return .failure
    | .changed =>
      match ← RequestProgram.tryRequest id lockString with
      | .failure => if ← RequestProgram.remaining then requestLoop id lockString fuel else return .failure
      | result => return result

def request (id : UInt16) (lockString : Bytes) (timeout : UInt32) (fuel : Nat) : RequestProgram LockResult := do
  match ← RequestProgram.tryRequest id lockString with
  | .failure => if timeout = 0 then return .failure else requestLoop id lockString fuel
  | result => return result

end LockManager

end Hislip.Server
