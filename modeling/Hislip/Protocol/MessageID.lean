import Hislip.Protocol.Constants

/-! The MessageID sequence of one session and the counter a client takes it from. -/

namespace Hislip.MessageID

def initialMessageID : MessageID := 0xffffff00

def messageIDIncrement : MessageID := 2

def next (id : MessageID) : MessageID := id + messageIDIncrement

def previous (id : MessageID) : MessageID := id - messageIDIncrement

structure Counter where
  current : MessageID := 0
  started : Bool := false
  deriving DecidableEq, Repr

namespace Counter

def reset (_ : Counter) : Counter where
  current := initialMessageID
  started := true

def newCounter : Counter := ({} : Counter).reset

/-- `Current`: a counter that was not started is reset first. -/
def currentID (counter : Counter) : MessageID × Counter :=
  let counter := if counter.started then counter else counter.reset
  (counter.current, counter)

def take (counter : Counter) : MessageID × Counter :=
  (counter.currentID.1, { counter.currentID.2 with current := counter.currentID.1.next })

def last (counter : Counter) : MessageID × Counter := (counter.currentID.1.previous, counter.currentID.2)

end Counter

end Hislip.MessageID
