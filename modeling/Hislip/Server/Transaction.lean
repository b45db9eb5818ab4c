import Hislip.Protocol.Constants

/-! The synchronized input and response transaction of one session: the adjacency
set, the transition function, and the named transitions the server performs. -/

namespace Hislip.Server

inductive TxState where
  | idle | receivingInput | inputComplete | responsePending | sendingResponse | interrupted | clearing | closed
  deriving DecidableEq, Repr

def txTransitions : TxState → List TxState
  | .idle => [.receivingInput, .inputComplete]
  | .receivingInput => [.receivingInput, .inputComplete, .interrupted]
  | .inputComplete => [.responsePending, .idle, .receivingInput, .interrupted]
  | .responsePending => [.sendingResponse, .idle, .interrupted]
  | .sendingResponse => [.sendingResponse, .idle, .interrupted]
  | .interrupted => [.idle]
  | .clearing => [.idle]
  | .closed => []

def selfEdge (state : TxState) : Bool := state == .receivingInput || state == .sendingResponse

/-- The zero transaction is idle; its identifier is the zero value, not
`noMessageID`. -/
structure Transaction where
  state : TxState := .idle
  id : MessageID := 0
  deriving DecidableEq, Repr

namespace Transaction

/-- Move to `next`. Clearing and closed are reachable from everywhere but from
themselves: the self-edge check comes first. -/
def moveTo (transaction : Transaction) (next : TxState) : Option Err × Transaction :=
  if next = transaction.state ∧ ¬ selfEdge transaction.state then
    (some Sentinel.invalidTransition, transaction)
  else if next = .clearing ∨ next = .closed then (none, { transaction with state := next })
  else if transaction.state = .closed then (some Sentinel.invalidTransition, transaction)
  else if next ∈ txTransitions transaction.state then (none, { transaction with state := next })
  else (some Sentinel.invalidTransition, transaction)

/-- Move to `next` and record `id` when the move is allowed. -/
def toWith (transaction : Transaction) (next : TxState) (id : MessageID) : Option Err × Transaction :=
  match transaction.moveTo next with
  | (none, moved) => (none, { moved with id })
  | refused => refused

end Transaction

inductive TxOp where
  | beginInput
  | completeInput (id : MessageID)
  | expectResponse
  | beginResponse
  | complete
  | interrupt
  | clear
  | reset
  deriving DecidableEq, Repr

namespace TxOp

def apply : TxOp → Transaction → Option Err × Transaction
  | .beginInput, transaction => transaction.moveTo .receivingInput
  | .completeInput id, transaction => transaction.toWith .inputComplete id
  | .expectResponse, transaction => transaction.moveTo .responsePending
  | .beginResponse, transaction => transaction.moveTo .sendingResponse
  | .complete, transaction => transaction.toWith .idle MessageID.noMessageID
  | .interrupt, transaction => transaction.moveTo .interrupted
  | .clear, transaction => transaction.moveTo .clearing
  | .reset, _ => (none, ⟨.idle, MessageID.noMessageID⟩)

/-- Only the state of a transaction decides whether it moves and where to. -/
theorem apply_state (op : TxOp) {left right : Transaction} (same : left.state = right.state) :
    (op.apply left).1 = (op.apply right).1 ∧ (op.apply left).2.state = (op.apply right).2.state := by
  obtain ⟨state, first⟩ := left
  obtain ⟨_, second⟩ := right
  cases same
  cases op <;> cases state <;> exact ⟨rfl, rfl⟩

end TxOp

end Hislip.Server
