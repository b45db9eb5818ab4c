import Mathlib.Logic.Function.Basic

/-! Exclusive and shared locks on one resource. A table says what every client holds;
the answer to a request depends on what its own client holds and on whether some other
client stands in the way. -/

namespace Hislip.SharedLock

/-- What one client holds: the exclusive lock, and the shared lock under a key. -/
structure Holding (κ : Type) where
  exclusive : Bool := false
  shared : Option κ := none
  deriving DecidableEq, Repr

inductive Request (κ : Type) where
  | exclusive
  | shared (key : κ)
  deriving DecidableEq, Repr

inductive Verdict where
  | granted | failure | error
  deriving DecidableEq, Repr

abbrev Table (ι κ : Type) : Type := ι → Holding κ

variable {ι κ : Type}

namespace Holding

def add (holding : Holding κ) : Request κ → Holding κ
  | .exclusive => { holding with exclusive := true }
  | .shared key => { holding with shared := some key }

/-- A client gives up the exclusive lock before the shared one. -/
def dropOne (holding : Holding κ) : Holding κ := if holding.exclusive then { holding with exclusive := false } else {}

/-- The client asks for what it holds, or for a shared lock beside its exclusive one. -/
def Refuses (holding : Holding κ) : Request κ → Prop
  | .exclusive => holding.exclusive = true
  | .shared _ => holding.exclusive = true ∨ holding.shared ≠ none

/-- What the other client holds stands in the way of the request. -/
def Bars (other own : Holding κ) : Request κ → Prop
  | .exclusive => other.exclusive = true ∨ other.shared ≠ none ∧ own.shared = none
  | .shared key => (∃ held, other.shared = some held ∧ held ≠ key) ∨ other.exclusive = true ∧ other.shared = none

theorem not_bars_empty (own : Holding κ) (request : Request κ) : ¬ Bars {} own request := by
  cases request <;> simp [Bars]

theorem dropOne_dropOne (holding : Holding κ) : holding.dropOne.dropOne = {} := by
  obtain ⟨exclusive, shared⟩ := holding
  cases exclusive <;> rfl

end Holding

namespace Table

open Classical in
/-- A request that no wait can help is an error, one that another client bars a
failure, and every other one is granted. -/
noncomputable def verdict (table : Table ι κ) (client : ι) (request : Request κ) : Verdict :=
  if (table client).Refuses request then .error
  else if ∃ other, other ≠ client ∧ (table other).Bars (table client) request then .failure
  else .granted

variable {table after : Table ι κ} {client : ι} {request : Request κ}

theorem verdict_error_iff : table.verdict client request = .error ↔ (table client).Refuses request := by
  unfold verdict
  split
  next refuses => exact iff_of_true rfl refuses
  next accepts => split <;> simp [accepts]

theorem verdict_failure_iff : table.verdict client request = .failure ↔
    ¬ (table client).Refuses request ∧ ∃ other, other ≠ client ∧ (table other).Bars (table client) request := by
  unfold verdict
  split
  next refuses => simp [refuses]
  next accepts =>
    split
    next barred => exact iff_of_true rfl ⟨accepts, barred⟩
    next free => simp [free]

theorem verdict_granted_iff : table.verdict client request = .granted ↔
    ¬ (table client).Refuses request ∧ ∀ other, other ≠ client → ¬ (table other).Bars (table client) request := by
  unfold verdict
  split
  next refuses => simp [refuses]
  next accepts =>
    split
    next barred =>
      obtain ⟨other, differs, bars⟩ := barred
      exact iff_of_false nofun fun free => free.2 other differs bars
    next free => exact iff_of_true rfl ⟨accepts, fun other differs bars => free ⟨other, differs, bars⟩⟩

end Table

end Hislip.SharedLock
