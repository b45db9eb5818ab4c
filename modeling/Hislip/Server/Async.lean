import Hislip.Server.Data

/-! Device Clear and the operations of the asynchronous channel. -/

namespace Hislip.Server
open Act

/-- Step 2 of a Device Clear. Its critical sections are separate: the synchronous
loop may run between them. -/
def beginDeviceClear (config : Config) : Act (Except Err Header) := do
  match ← requireReady with
  | some err => return .error err
  | none =>
    abortOperation
    session (.setResponsePending false)
    match ← tx .clear with
    | some err => return .error err
    | none =>
      session .beginClear
      return .ok { type := .asyncDeviceClearAcknowledge, control := config.featureBitmap featureOverlapped }

/-- Step 4 of a Device Clear: protocol state first, then the instrument. The
acknowledgement is sent even when the instrument fails. -/
def completeDeviceClear (config : Config) (header : Header) : Act (Header × Option Err) := do
  if header.type ≠ .deviceClearComplete then
    return ({ type := .initializeRequest }, some Sentinel.unknownMessageType)
  else
    let agreed := config.featureBitmap header.control
    session (.completeClear (agreed &&& featureOverlapped != 0))
    let _ ← tx .reset
    let err ← environment (.clear .server)
    return ({ type := .deviceClearAcknowledge, control := agreed }, err)

def discardDuringClear (header : Header) : Act Bool := do
  if (← session .state) ≠ .clearing then return false
  else return header.type ≠ .deviceClearComplete

def statusQuery (header : Header) : Act (Except Err Header) := do
  if header.type ≠ .asyncStatusQuery then return .error Sentinel.unknownMessageType
  else
    match ← requireReady with
    | some err => return .error err
    | none =>
      let _ ← session (.rmt (.receivedStatusQuery header.rmtDelivered))
      match ← environment (.readStatusByte .server) with
      | .error err => return .error err
      | .ok device =>
        let byte ← session (.statusByte device header.messageID header.rmtDelivered)
        if ← session .takeServiceRequest then
          return .ok { type := .asyncStatusResponse, control := byte ||| statusRQS }
        else return .ok { type := .asyncStatusResponse, control := byte }

/-- `ServiceRequest`: `none` when the event coalesces or the session is not ready. -/
def serviceRequest (status : UInt8) : Act (Option Header) := do
  if (← session .state) ≠ .ready then return none
  else if ← session (.latchServiceRequest status) then
    return some { type := .asyncServiceRequest, control := status }
  else return none

def remoteLocal (header : Header) : Act (Except Err Header) := do
  if header.type ≠ .asyncRemoteLocalControl then return .error Sentinel.unknownMessageType
  else
    match ← requireReady with
    | some err => return .error err
    | none =>
      if 6 < header.control then return .error Sentinel.unrecognizedControlCode
      else
        match ← environment (.remoteLocal .server header.control) with
        | some err => return .error err
        | none => return .ok { type := .asyncRemoteLocalResponse }

/-- `Lock`: control code 1 requests with the timeout of the parameter field, 0
releases. -/
def lock (header : Header) (lockString : Bytes) (fuel : Nat) : Act (Except Err Header) := do
  if header.type ≠ .asyncLock then return .error Sentinel.unknownMessageType
  else
    match ← requireReady with
    | some err => return .error err
    | none =>
      if header.control = 1 then
        let id ← session .id
        let result ← ofRequest (LockManager.request id lockString header.parameter fuel)
        return .ok { type := .asyncLockResponse, control := result.code }
      else if header.control = 0 then
        let id ← session .id
        let result ← Program.perform (Op.shared (.locks (.release id)))
        return .ok { type := .asyncLockResponse, control := result.code }
      else return .error Sentinel.unrecognizedControlCode

def lockInfo (header : Header) : Act (Except Err Header) := do
  if header.type ≠ .asyncLockInfo then return .error Sentinel.unknownMessageType
  else
    match ← requireReady with
    | some err => return .error err
    | none =>
      let (exclusive, holders) ← Program.perform (Op.shared (.locks .info))
      return .ok
        { type := .asyncLockInfoResponse
          control := if exclusive then 1 else 0
          parameter := UInt32.ofNat holders }

/-- `MaximumMessageSize`: limits below 256 are ignored, and the reply carries the
server's own receive limit. -/
def maximumMessageSize (config : Config) (clientMax : UInt64) : Act (Header × UInt64) := do
  if large : 256 ≤ clientMax then session (.setMaxTx ⟨clientMax, large⟩)
  return ({ type := .asyncMaximumMessageSizeResponse, length := 8 }, config.maxRxPayload)

end Hislip.Server
