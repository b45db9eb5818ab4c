import Mathlib.Logic.Basic

/-! Error values and the wire codes they map to. A Go error is known to the
server only through its text and through the sentinels `errors.Is` finds in it,
so that is all an error carries here. -/

namespace Hislip

abbrev Bytes : Type := List UInt8

def ascii (text : String) : Bytes := text.toList.map fun character => UInt8.ofNat character.toNat

/-- The package-level errors of the codec, of the server and of `io`. -/
inductive Sentinel where
  | shortBuffer | invalidPrologue | unknownMessageType | reservedMessageType | wrongChannel
  | protocolVersion | messageTooLarge | payloadLength
  | sessionNotReady | invalidSession | invalidInitSequence | invalidSubAddress | maxClients
  | unrecognizedControlCode | invalidConfig | overlapNotImplemented | inputQueuedRequired
  | invalidTransition | clientFatal
  | eof | unexpectedEOF
  deriving DecidableEq, Repr

def Sentinel.text : Sentinel → Bytes
  | .shortBuffer => ascii "hislip: buffer too short"
  | .invalidPrologue => ascii "hislip: invalid message prologue"
  | .unknownMessageType => ascii "hislip: unknown message type"
  | .reservedMessageType => ascii "hislip: reserved message type"
  | .wrongChannel => ascii "hislip: message not legal on this channel"
  | .protocolVersion => ascii "hislip: unsupported protocol version"
  | .messageTooLarge => ascii "hislip: message exceeds maximum size"
  | .payloadLength => ascii "hislip: payload length does not match header"
  | .sessionNotReady => ascii "hislip: session not ready, both channels required"
  | .invalidSession => ascii "hislip: unknown or already paired session ID"
  | .invalidInitSequence => ascii "hislip: invalid initialization sequence"
  | .invalidSubAddress => ascii "hislip: unknown sub-address"
  | .maxClients => ascii "hislip: maximum number of clients exceeded"
  | .unrecognizedControlCode => ascii "hislip: unrecognized control code"
  | .invalidConfig => ascii "hislip: invalid server configuration"
  | .overlapNotImplemented => ascii "hislip: overlap mode is not implemented"
  | .inputQueuedRequired =>
    ascii "hislip: Response.InputQueued must be supplied to implement the interrupted check"
  | .invalidTransition => ascii "hislip: invalid transaction state transition"
  | .clientFatal => ascii "hislip: peer reported a fatal error"
  | .eof => ascii "EOF"
  | .unexpectedEOF => ascii "unexpected EOF"

/-- An error from outside the package, a device or a stream, has any text and
may wrap any sentinels. -/
inductive Err where
  | sentinel (value : Sentinel)
  | other (text : Bytes) (wraps : List Sentinel)
  deriving DecidableEq, Repr

instance : Coe Sentinel Err := ⟨.sentinel⟩

namespace Err

def text : Err → Bytes
  | .sentinel value => value.text
  | .other text _ => text

def is : Err → Sentinel → Bool
  | .sentinel value, target => value == target
  | .other _ wraps, target => wraps.contains target

end Err

abbrev FatalErrorCode : Type := UInt8
abbrev ErrorCode : Type := UInt8

namespace FatalErrorCode
def unidentified : FatalErrorCode := 0
def poorlyFormedHeader : FatalErrorCode := 1
def channelsNotEstablished : FatalErrorCode := 2
def invalidInitSequence : FatalErrorCode := 3
def maxClientsExceeded : FatalErrorCode := 4
end FatalErrorCode

namespace ErrorCode
def unidentified : ErrorCode := 0
def unrecognizedMessageType : ErrorCode := 1
def unrecognizedControlCode : ErrorCode := 2
def unrecognizedVendorMsg : ErrorCode := 3
def messageTooLarge : ErrorCode := 4
def handshakeTimeout : ErrorCode := 128
def responseTimeout : ErrorCode := 129
end ErrorCode

def fatalCodeFor (err : Err) : Option FatalErrorCode :=
  if err.is .invalidPrologue || err.is .shortBuffer then some FatalErrorCode.poorlyFormedHeader
  else if err.is .protocolVersion then some FatalErrorCode.invalidInitSequence
  else none

def errorCodeFor (err : Err) : ErrorCode :=
  if err.is .unknownMessageType || err.is .reservedMessageType || err.is .wrongChannel then
    ErrorCode.unrecognizedMessageType
  else if err.is .messageTooLarge then ErrorCode.messageTooLarge
  else ErrorCode.unidentified

inductive WireError where
  | fatal (code : FatalErrorCode)
  | nonFatal (code : ErrorCode)
  deriving DecidableEq, Repr

def wireErrorFor (err : Err) : WireError :=
  match fatalCodeFor err with
  | some code => .fatal code
  | none =>
    if err.is .sessionNotReady then .fatal FatalErrorCode.channelsNotEstablished
    else if err.is .invalidSession || err.is .invalidSubAddress || err.is .invalidInitSequence then
      .fatal FatalErrorCode.invalidInitSequence
    else if err.is .maxClients then .fatal FatalErrorCode.maxClientsExceeded
    else if err.is .unrecognizedControlCode then .nonFatal ErrorCode.unrecognizedControlCode
    else .nonFatal (errorCodeFor err)

end Hislip
