import Hislip.Protocol.Errors

/-! Message types with the properties the server reads of them, protocol versions
and message identifiers. A message type is any byte: undefined, reserved and
vendor types decode too and are refused later. -/

namespace Hislip

structure Version where
  major : UInt8
  minor : UInt8
  deriving DecidableEq, Repr

namespace Version

def version10 : Version := ⟨1, 0⟩
def version20 : Version := ⟨2, 0⟩

def less (version other : Version) : Bool :=
  if version.major != other.major then version.major < other.major else version.minor < other.minor

theorem version10_current : version10.less .version10 = false := rfl

def negotiate (client server : Version) : Version := if client.less server then client else server

end Version

inductive Channel where
  | none | synchronous | asynchronous | either
  deriving DecidableEq, Repr

structure MessageType where
  code : UInt8
  deriving DecidableEq, Repr

namespace MessageType

def initializeRequest : MessageType := ⟨0⟩
def initializeResponse : MessageType := ⟨1⟩
def fatalError : MessageType := ⟨2⟩
def error : MessageType := ⟨3⟩
def asyncLock : MessageType := ⟨4⟩
def asyncLockResponse : MessageType := ⟨5⟩
def data : MessageType := ⟨6⟩
def dataEnd : MessageType := ⟨7⟩
def deviceClearComplete : MessageType := ⟨8⟩
def deviceClearAcknowledge : MessageType := ⟨9⟩
def asyncRemoteLocalControl : MessageType := ⟨10⟩
def asyncRemoteLocalResponse : MessageType := ⟨11⟩
def trigger : MessageType := ⟨12⟩
def interrupted : MessageType := ⟨13⟩
def asyncInterrupted : MessageType := ⟨14⟩
def asyncMaximumMessageSize : MessageType := ⟨15⟩
def asyncMaximumMessageSizeResponse : MessageType := ⟨16⟩
def asyncInitialize : MessageType := ⟨17⟩
def asyncInitializeResponse : MessageType := ⟨18⟩
def asyncDeviceClear : MessageType := ⟨19⟩
def asyncServiceRequest : MessageType := ⟨20⟩
def asyncStatusQuery : MessageType := ⟨21⟩
def asyncStatusResponse : MessageType := ⟨22⟩
def asyncDeviceClearAcknowledge : MessageType := ⟨23⟩
def asyncLockInfo : MessageType := ⟨24⟩
def asyncLockInfoResponse : MessageType := ⟨25⟩

end MessageType

structure MessageInfo where
  channel : Channel
  minVersion : Version
  deriving DecidableEq, Repr

/-- Indexed by message type. Types 26 to 38 are the version 2.0 messages. -/
def messages : List MessageInfo :=
  let sync : MessageInfo := ⟨.synchronous, .version10⟩
  let async : MessageInfo := ⟨.asynchronous, .version10⟩
  let either : MessageInfo := ⟨.either, .version10⟩
  let secureSync : MessageInfo := ⟨.synchronous, .version20⟩
  let secureAsync : MessageInfo := ⟨.asynchronous, .version20⟩
  [sync, sync, either, either, async, async, sync, sync, sync, sync, async, async, sync, sync, async,
    async, async, async, async, async, async, async, async, async, async, async,
    ⟨.either, .version20⟩, ⟨.either, .version20⟩, secureSync, secureAsync, secureAsync, secureSync,
    secureAsync, secureAsync, secureSync, secureSync, secureSync, secureSync, secureSync]

namespace MessageType

def info (type : MessageType) : Option MessageInfo := messages[type.code.toNat]?

def defined (type : MessageType) : Bool :=
  match type.info with
  | some info => info.channel != .none
  | none => false

def vendorSpecific (type : MessageType) : Bool := 128 ≤ type.code

def reserved (type : MessageType) : Bool := 39 ≤ type.code && type.code < 128

def channel (type : MessageType) : Channel :=
  if type.vendorSpecific then .either
  else match type.info with
    | some info => info.channel
    | none => .none

def legalOn (type : MessageType) (channel : Channel) : Bool :=
  if channel != .synchronous && channel != .asynchronous then false
  else type.channel == .either || type.channel == channel

def minVersion (type : MessageType) : Version :=
  match type.info with
  | some info => if info.channel != .none then info.minVersion else ⟨0, 0⟩
  | none => ⟨0, 0⟩

end MessageType

abbrev MessageID : Type := UInt32

namespace MessageID

def noMessageID : MessageID := 0xffffffff
def statusQueryInitialMessageID : MessageID := 0xfffffefe

end MessageID

/-- Control code bit 0 of the client messages that carry the RMT-delivered flag. -/
def controlRMTDelivered : UInt8 := 1

/-- Bit 0 of the feature bitmap of the Device Clear messages. -/
def featureOverlapped : UInt8 := 1

structure Header where
  type : MessageType
  control : UInt8 := 0
  parameter : UInt32 := 0
  length : UInt64 := 0
  deriving DecidableEq, Repr

namespace Header

def messageID (header : Header) : MessageID := header.parameter

def rmtDelivered (header : Header) : Bool := header.control &&& controlRMTDelivered != 0

end Header

def checkLength (length max : UInt64) : Option Err :=
  if max != 0 && length > max then some Sentinel.messageTooLarge else none

end Hislip
