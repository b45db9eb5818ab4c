import Hislip.Server.Channels

/-! The listener of a host: it accepts connections, hands each to the server in a goroutine
of its own, and closes them when it is shut down. -/

namespace Hislip
open Server

/-- `conns` is the set of tracked connections and `running` the counter of the wait group.
`spawned` has the goroutines that have not begun to run; `accepted` and `shut` are what the
network knows: the connections there are, and those that were closed on this side. -/
structure Listener (σ : Type) where
  registry : Registry σ := {}
  closed : Bool := false
  conns : List Stream := []
  running : Nat := 0
  spawned : List Stream := []
  accepted : List Stream := []
  shut : List Stream := []

/-- The critical sections of the listener, its calls to the network and the wait group, and
the operations of the server. `served` and `stopped` mark the returns of a connection's
`Serve` and of the `Close` that shuts the listener down. -/
inductive ListenerOp where
  | accept
  | isClosed
  | contextEnded
  | wait
  | track (conn : Stream)
  | go (conn : Stream)
  | enter (conn : Stream)
  | served (conn : Stream)
  | report (err : Err)
  | untrack (conn : Stream)
  | done
  | markClosed
  | closeListener
  | closeConn (conn : Stream)
  | stopped
  | server (op : ServerOp)

namespace ListenerOp

abbrev Reply : ListenerOp → Type
  | .accept => Except Err Stream
  | .isClosed | .contextEnded => Bool
  | .markClosed => Option (List Stream)
  | .closeListener | .closeConn _ => Option Err
  | .server op => op.Reply
  | .wait | .track _ | .go _ | .enter _ | .served _ | .report _ | .untrack _ | .done | .stopped => Unit

def closes : ServerOp → List Stream
  | .closeStream stream => [stream]
  | _ => []

variable {σ : Type}

/-- `Accept` may deliver a connection even after the listener was closed, and the outside
chooses in which order the map of connections is walked. -/
def apply (profile : Profile) (policy : ResponsePolicy σ) : (op : ListenerOp) →
    (outside : (op : ListenerOp) → Option op.Reply) →
    Listener σ → Option (op.Reply × Listener σ)
  | .accept, outside, listener =>
    match outside .accept with
    | some (.ok conn) =>
      if conn ∈ listener.accepted then none
      else some (.ok conn, { listener with accepted := conn :: listener.accepted })
    | some (.error err) => some (.error err, listener)
    | none => none
  | .isClosed, _, listener => some (listener.closed, listener)
  | .contextEnded, outside, listener => (outside .contextEnded).map fun ended => (ended, listener)
  | .wait, _, listener => if listener.running = 0 then some ((), listener) else none
  | .track conn, _, listener => some ((), { listener with conns := listener.conns.insert conn })
  | .go conn, _, listener =>
    some ((), { listener with running := listener.running + 1, spawned := conn :: listener.spawned })
  | .enter conn, _, listener =>
    if conn ∈ listener.spawned then some ((), { listener with spawned := listener.spawned.erase conn }) else none
  | .served _, _, listener | .report _, _, listener | .stopped, _, listener => some ((), listener)
  | .untrack conn, _, listener => some ((), { listener with conns := listener.conns.filter (· ≠ conn) })
  | .done, _, listener => some ((), { listener with running := listener.running - 1 })
  | .markClosed, outside, listener =>
    if listener.closed then some (none, listener)
    else
      match outside .markClosed with
      | some (some conns) =>
        if conns.Perm listener.conns then some (some conns, { listener with closed := true }) else none
      | _ => none
  | .closeListener, outside, listener => (outside .closeListener).map fun err => (err, listener)
  | .closeConn conn, outside, listener =>
    (outside (.closeConn conn)).map fun err => (err, { listener with shut := conn :: listener.shut })
  | .server op, outside, listener =>
    (op.apply profile policy (fun op => outside (.server op)) listener.registry).map fun result =>
      (result.1, { listener with registry := result.2, shut := closes op ++ listener.shut })

end ListenerOp

abbrev ListenerProgram : Type → Type := Program ListenerOp ListenerOp.Reply

namespace ListenerProgram

def perform (op : ListenerOp) : ListenerProgram op.Reply := Program.perform op

def ofServer {α : Type} (program : ServerProgram α) : ListenerProgram α :=
  program.translate ListenerOp.server fun _ reply => reply

/-- The accept loop of `Serve`, for at most so many connections. -/
def serve : Nat → ListenerProgram (Option Err)
  | 0 => ofServer (.ofLoop 0 Act.exhausted)
  | connections + 1 => do
    match ← perform .accept with
    | .error err =>
      let closed ← perform .isClosed
      if closed then
        perform .wait
        return none
      else if ← perform .contextEnded then
        perform .wait
        return none
      else return some err
    | .ok conn =>
      perform (.track conn)
      perform (.go conn)
      serve connections

def connection (conn : Stream) (program : ServerProgram (Option Err)) : ListenerProgram (Option Err) := do
  perform (.enter conn)
  let result ← ofServer program
  perform (.served conn)
  match result with
  | some err => perform (.report err)
  | none => Pure.pure ()
  perform (.untrack conn)
  perform .done
  return result

def closeConns : List Stream → ListenerProgram Unit
  | [] => return ()
  | conn :: rest => do
    let _ ← perform (.closeConn conn)
    closeConns rest

def close : ListenerProgram (Option Err) := do
  match ← perform .markClosed with
  | none => return none
  | some conns =>
    let err ← perform .closeListener
    closeConns conns
    let _ ← ofServer ServerProgram.closeAll
    perform .stopped
    return err

end ListenerProgram

end Hislip
