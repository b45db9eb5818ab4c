import Hislip.Proofs.ReaderSync
import Hislip.Proofs.SyncChannel

/-! Messages that a ready session does not serve. The reader, `Accept` and the end of
each loop refuse them, and the two channels differ for vendor messages only. -/

namespace Hislip.Proofs.Refusals
open Hislip.Server Hislip.Proofs.Codec Hislip.Proofs.ReaderSync Act Program

variable {σ δ : Type}

inductive Loop where
  | sync | async
  deriving DecidableEq, Repr

namespace Loop

def channel : Loop → Channel
  | .sync => .synchronous
  | .async => .asynchronous

def handle (config : Config) (message : Message) (fuel : Nat) : Loop → Act (Option Err)
  | .sync => handleSync config message fuel
  | .async => handleAsync config message fuel

def writer (session : Session σ) : Loop → Option MessageWriter
  | .sync => session.syncW
  | .async => session.asyncW

def serves : Loop → List MessageType
  | .sync => [.data, .dataEnd, .trigger, .deviceClearComplete, .fatalError, .error, .initializeRequest]
  | .async =>
    [.asyncDeviceClear, .asyncStatusQuery, .asyncLock, .asyncLockInfo, .asyncRemoteLocalControl,
      .asyncMaximumMessageSize, .asyncInitialize, .fatalError, .error]

end Loop

/-- The reply to a refused message, by the first rule that applies. -/
def refusal (session : Session σ) (channel : Channel) (packet : Packet) : Header :=
  if session.maxRx < packet.payload.len then { type := .error, control := ErrorCode.messageTooLarge }
  else if packet.header.type.reserved then { type := .error, control := ErrorCode.unrecognizedMessageType }
  else if ¬ packet.header.type.legalOn channel then { type := .error, control := ErrorCode.unrecognizedMessageType }
  else if session.version.less packet.header.type.minVersion then
    { type := .fatalError, control := FatalErrorCode.invalidInitSequence }
  else if packet.header.type.vendorSpecific then { type := .error, control := ErrorCode.unrecognizedVendorMsg }
  else { type := .error, control := ErrorCode.unrecognizedMessageType }

/-- The reply, with some text, is all that happens: no other call is made, the session
stays as it is, and the loop ends only after a FatalError. -/
structure Refused (channel : Channel) (reply : Header) (before : World σ δ) (result : Option Err) (after : World σ δ) :
    Prop where
  answered : ∃ text : Bytes, after.trace = before.trace ++
    [⟨.send channel { reply with length := UInt64.ofNat text.length } text, some none⟩]
  kept : after.session = before.session
  continues : result = none ↔ reply.type ≠ .fatalError

theorem Refused.shown {channel : Channel} {reply header : Header} {payload : Bytes} {before after : World σ δ}
    {result : Option Err} (refused : Refused channel reply before result after)
    (trace : after.trace = before.trace ++ [⟨.send channel header payload, some none⟩]) :
    header.type = reply.type ∧ header.control = reply.control := by
  obtain ⟨text, told⟩ := refused.answered
  have same := List.append_cancel_left (trace.symm.trans told)
  simp only [List.cons.injEq, Event.mk.injEq, EnvironmentOp.send.injEq, and_true] at same
  obtain ⟨⟨-, rfl, -⟩, -⟩ := same
  exact ⟨rfl, rfl⟩

section Accept
variable {policy : ResponsePolicy σ} {environment : Environment δ} {world : World σ δ}

def verdict (session : Session σ) (header : Header) (channel : Channel) : Except Err Server.Class :=
  if header.type.reserved then .error Sentinel.reservedMessageType
  else if ¬ header.type.defined ∧ ¬ header.type.vendorSpecific then .error Sentinel.unknownMessageType
  else if ¬ header.type.legalOn channel then .error Sentinel.wrongChannel
  else if session.version.less header.type.minVersion then .error Sentinel.protocolVersion
  else if classOf header.type = .undefined then .error Sentinel.unknownMessageType
  else
    match checkLength header.length session.maxRx with
    | some err => .error err
    | none => .ok (classOf header.type)

theorem verdict_accepts {session : Session σ} {header : Header} {channel : Channel}
    (plain : header.type.reserved = false) (defined : header.type.defined = true)
    (legal : header.type.legalOn channel = true) (current : session.version.less header.type.minVersion = false)
    (known : classOf header.type ≠ .undefined) (fits : checkLength header.length session.maxRx = none) :
    verdict session header channel = .ok (classOf header.type) := by
  simp only [verdict, plain, defined, legal, current, known, fits, Bool.false_eq_true, if_false, not_true_eq_false,
    false_and]

theorem exec_requireReady_paired (paired : world.session.state = .ready ∨ world.session.state = .clearing) :
    exec (handler policy environment) requireReady world = (some none, world) := by
  simp only [requireReady, exec_bind, exec_state, andThen_some]
  rcases paired with same | same <;> simp only [same, pure_eq, exec_pure]

theorem exec_accept_paired (paired : world.session.state = .ready ∨ world.session.state = .clearing) (header : Header)
    (channel : Channel) :
    exec (handler policy environment) (accept header channel) world =
      (some (verdict world.session header channel), world) := by
  unfold accept verdict
  split
  next => rfl
  split
  next => rfl
  split
  next => rfl
  simp only [exec_bind, exec_version, andThen_some]
  split
  next => rfl
  split
  next => rfl
  simp only [exec_bind, exec_maxRx, andThen_some]
  cases checkLength header.length world.session.maxRx with
  | some err => rfl
  | none =>
    simp only
    split
    next => rfl
    next => simp only [exec_bind, exec_requireReady_paired paired, andThen_some, pure_eq, exec_pure]

end Accept

section Types

variable {type : MessageType}

theorem ordinary_types {P : MessageType → Prop} (all : ∀ code < 39, P ⟨UInt8.ofNat code⟩)
    (plain : type.reserved = false) (ordinary : type.vendorSpecific = false) : P type := by
  obtain ⟨code⟩ := type
  have small : code.toNat < 39 := by
    have below : code < 128 := UInt8.not_le.mp (of_decide_eq_false ordinary)
    have outside : code < 39 := by
      by_contra within
      have both : MessageType.reserved ⟨code⟩ = true :=
        Bool.and_eq_true_iff.mpr ⟨decide_eq_true (UInt8.not_lt.mp within), decide_eq_true below⟩
      rw [both] at plain
      cases plain
    exact UInt8.lt_iff_toNat_lt.mp outside
  rw [← UInt8.ofNat_toNat (x := code)]
  exact all code.toNat small

theorem defined_of_ordinary (plain : type.reserved = false) (ordinary : type.vendorSpecific = false) :
    type.defined = true :=
  ordinary_types (P := fun type => type.defined = true) (by decide) plain ordinary

/-- A type that its channel admits and its handler has no case for is of no class. -/
theorem undefined_of_unserved {loop : Loop} (plain : type.reserved = false) (ordinary : type.vendorSpecific = false)
    (unserved : type ∉ loop.serves) (legal : type.legalOn loop.channel = true) : classOf type = .undefined := by
  have all : type ∈ loop.serves ∨ type.legalOn loop.channel = false ∨ classOf type = .undefined := by
    cases loop with
    | sync => exact ordinary_types (P := fun type => type ∈ Loop.sync.serves ∨
        type.legalOn Loop.sync.channel = false ∨ classOf type = .undefined) (by decide) plain ordinary
    | async => exact ordinary_types (P := fun type => type ∈ Loop.async.serves ∨
        type.legalOn Loop.async.channel = false ∨ classOf type = .undefined) (by decide) plain ordinary
  rcases all with served | illegal | undefined
  · exact absurd served unserved
  · exact absurd (legal.symm.trans illegal) Bool.noConfusion
  · exact undefined

end Types

section Replies
variable {policy : ResponsePolicy σ} {environment : Environment δ}

abbrev Takes (environment : Environment δ) : Prop :=
  ∀ channel header payload state, (environment (.send channel header payload) state).1 = some none

/-- Wherever the program is run, it refuses a message with this reply. -/
abbrev Refuses (policy : ResponsePolicy σ) (environment : Environment δ) (channel : Channel) (reply : Header)
    (program : Act (Option Err)) : Prop :=
  ∀ world : World σ δ, Yields (handler policy environment) program world (Refused channel reply world)

variable {loop : Loop} {reply : Header} {err : Err}

theorem refuses_count {program : Act (Option Err)} (counter : Counter)
    (refuses : Refuses policy environment loop.channel reply program) :
    Refuses policy environment loop.channel reply (count counter >>= fun _ => program) := by
  intro world
  obtain ⟨result, after, run, refused⟩ :=
    refuses { world with shared := (SharedOp.apply policy (.count counter) world.shared).2 }
  refine ⟨result, after, ?_, refused.answered, refused.kept, refused.continues⟩
  rw [exec_bind, exec_count, andThen_some, run]

theorem exec_write_taken (takes : Takes environment) {writer : MessageWriter} {header : Header} {payload : Bytes}
    (legal : header.type.legalOn writer.channel) (undeclared : header.length = 0) (world : World σ δ) :
    exec (handler policy environment) (writer.write header payload) world =
      (some none, world.call environment
        (.send writer.channel { header with length := UInt64.ofNat payload.length } payload)) := by
  rw [MessageWriter.write_eq legal (.inl undeclared), exec_send, takes]

theorem refused_call (takes : Takes environment) (channel : Channel) (reply : Header) (text : Bytes) (world : World σ δ)
    {result : Option Err} (continues : result = none ↔ reply.type ≠ .fatalError) :
    Refused channel reply world result
      (world.call environment (.send channel { reply with length := UInt64.ofNat text.length } text)) := by
  refine ⟨⟨text, ?_⟩, rfl, continues⟩
  rw [World.trace_call, takes]

theorem error_legal (loop : Loop) : MessageType.error.legalOn loop.channel = true := by cases loop <;> rfl

theorem fatalError_legal (loop : Loop) : MessageType.fatalError.legalOn loop.channel = true := by cases loop <;> rfl

theorem writeError_refuses (takes : Takes environment) (loop : Loop) (code : ErrorCode) (text : Bytes) :
    Refuses policy environment loop.channel { type := .error, control := code }
      (MessageWriter.writeError ⟨loop.channel⟩ code text) := by
  intro world
  refine ⟨none, _, exec_write_taken takes (error_legal loop) rfl world, ?_⟩
  exact refused_call takes loop.channel { type := .error, control := code } text world
    (iff_of_true rfl (show MessageType.error ≠ .fatalError by decide))

theorem reportReadError_refuses (takes : Takes environment) (loop : Loop) :
    Refuses policy environment loop.channel { type := .error, control := ErrorCode.messageTooLarge }
      (reportReadError (some ⟨loop.channel⟩) Sentinel.messageTooLarge) :=
  refuses_count _ (refuses_count _ (writeError_refuses takes loop _ _))

theorem reportError_refuses (takes : Takes environment) (loop : Loop) {found : ErrorCode}
    (mapped : wireErrorFor err = .nonFatal found) (code : ErrorCode → ErrorCode) :
    Refuses policy environment loop.channel { type := .error, control := code found }
      (reportError (some ⟨loop.channel⟩) err code) := by
  unfold reportError
  rw [mapped]
  exact refuses_count _ (writeError_refuses takes loop _ _)

theorem reportError_refuses_fatal (takes : Takes environment) (loop : Loop) {code : FatalErrorCode}
    (mapped : wireErrorFor err = .fatal code) :
    Refuses policy environment loop.channel { type := .fatalError, control := code }
      (reportError (some ⟨loop.channel⟩) err id) := by
  unfold reportError
  rw [mapped]
  refine refuses_count _ fun world => ?_
  refine ⟨some err, world.call environment
    (.send loop.channel { type := .fatalError, control := code, length := UInt64.ofNat err.text.length } err.text), ?_, ?_⟩
  · rw [exec_bind, MessageWriter.writeFatalError, exec_write_taken takes (fatalError_legal loop) rfl]
    rfl
  · refine refused_call takes loop.channel { type := .fatalError, control := code } err.text world ?_
    exact iff_of_false (Option.some_ne_none err) fun other => other rfl

theorem reportAcceptError_refuses
    (refuses : Refuses policy environment loop.channel reply (reportError (some ⟨loop.channel⟩) err id)) :
    Refuses policy environment loop.channel reply (reportAcceptError (some ⟨loop.channel⟩) err) := by
  unfold reportAcceptError
  split
  next => exact refuses_count _ refuses
  next => exact refuses

end Replies

section Handlers
variable {policy : ResponsePolicy σ} {environment : Environment δ} {loop : Loop} {world : World σ δ}
  {message : Message} (config : Config)

theorem handle_oversized (takes : Takes environment) (config : Config) (fuel : Nat)
    (wired : loop.writer world.session = some ⟨loop.channel⟩) (header : Header) :
    Yields (handler policy environment)
      (loop.handle config { header, err := some Sentinel.messageTooLarge } fuel) world
      (Refused loop.channel { type := .error, control := ErrorCode.messageTooLarge } world) := by
  have refuses : Refuses policy environment loop.channel _ _ := reportReadError_refuses takes loop
  obtain ⟨result, after, run, refused⟩ := refuses world
  refine ⟨result, after, ?_, refused⟩
  rw [← run]
  cases loop with
  | sync =>
    have syncW : world.session.syncW = some ⟨.synchronous⟩ := wired
    simp only [Loop.handle, handleSync, exec_bind, exec_syncWriter, syncW, andThen_some, Loop.channel]
  | async =>
    have asyncW : world.session.asyncW = some ⟨.asynchronous⟩ := wired
    simp only [Loop.handle, handleAsync, exec_bind, exec_asyncWriter, asyncW, andThen_some, Loop.channel]

theorem exec_handle (fuel : Nat) (ready : world.session.state = .ready)
    (wired : loop.writer world.session = some ⟨loop.channel⟩) (fine : message.err = none) {err : Err}
    (denied : verdict world.session message.header loop.channel = .error err) :
    exec (handler policy environment) (loop.handle config message fuel) world =
      exec (handler policy environment) (reportAcceptError (some ⟨loop.channel⟩) err) world := by
  cases loop with
  | sync =>
    have syncW : world.session.syncW = some ⟨.synchronous⟩ := wired
    have refused : verdict world.session message.header .synchronous = .error err := denied
    simp [Loop.handle, handleSync, syncW, fine, discardDuringClear, ready, exec_accept_paired (.inl ready), refused,
      Loop.channel]
  | async =>
    have asyncW : world.session.asyncW = some ⟨.asynchronous⟩ := wired
    have refused : verdict world.session message.header .asynchronous = .error err := denied
    simp [Loop.handle, handleAsync, asyncW, fine, exec_accept_paired (.inl ready), refused, Loop.channel]

def Loop.vendorReply : Loop → ErrorCode × Bytes
  | .sync => (ErrorCode.unrecognizedVendorMsg, ascii "vendor extension not enabled")
  | .async => (ErrorCode.unrecognizedMessageType, ascii "unsupported message")

theorem other_of_vendor {type known : MessageType} (vendor : type.vendorSpecific = true)
    (ordinary : known.vendorSpecific = false) : type ≠ known := by
  rintro rfl
  exact absurd (vendor.symm.trans ordinary) Bool.noConfusion

theorem vendor_plain {type : MessageType} (vendor : type.vendorSpecific = true) (loop : Loop) :
    type.reserved = false ∧ type.legalOn loop.channel = true ∧
      (∀ version : Version, version.less type.minVersion = false) ∧
      classOf type = .syncOrdered := by
  have large : 128 ≤ type.code := of_decide_eq_true vendor
  have outside : type.info = none := by
    refine List.getElem?_eq_none ?_
    have code : 128 ≤ type.code.toNat := UInt8.le_iff_toNat_le.mp large
    exact Nat.le_trans (by decide) code
  refine ⟨?_, ?_, fun version => ?_, ?_⟩
  · simp only [MessageType.reserved, Bool.and_eq_false_iff, decide_eq_false_iff_not, UInt8.not_lt]
    exact .inr large
  · cases loop <;> simp [MessageType.legalOn, MessageType.channel, vendor, Loop.channel]
  · simp only [MessageType.minVersion, outside, Version.less]
    split
    next => exact decide_eq_false UInt8.not_lt_zero
    next => exact decide_eq_false UInt8.not_lt_zero
  · have other : ∀ known : MessageType, known.vendorSpecific = false → type ≠ known :=
      fun _ ordinary => other_of_vendor vendor ordinary
    simp only [classOf, other .asyncLock rfl, other .asyncLockInfo rfl, other .asyncMaximumMessageSize rfl,
      other .asyncDeviceClear rfl, other .asyncStatusQuery rfl, other .asyncRemoteLocalControl rfl, other .data rfl,
      other .dataEnd rfl, other .trigger rfl, other .initializeRequest rfl, other .asyncInitialize rfl,
      other .deviceClearComplete rfl, other .error rfl, other .fatalError rfl, or_self, if_false, vendor, if_true]

theorem handle_vendor (takes : Takes environment) (config : Config) (fuel : Nat)
    (ready : world.session.state = .ready) (wired : loop.writer world.session = some ⟨loop.channel⟩)
    (fine : message.err = none) (fits : checkLength message.header.length world.session.maxRx = none)
    (vendor : message.header.type.vendorSpecific = true) :
    Yields (handler policy environment) (loop.handle config message fuel) world
      (Refused loop.channel { type := .error, control := loop.vendorReply.1 } world) := by
  have refuses : Refuses policy environment loop.channel { type := .error, control := loop.vendorReply.1 }
      (count .nonFatalErrors >>= fun _ => MessageWriter.writeError ⟨loop.channel⟩ loop.vendorReply.1 loop.vendorReply.2) :=
    refuses_count _ (writeError_refuses takes loop _ _)
  obtain ⟨result, after, run, refused⟩ := refuses world
  refine ⟨result, after, ?_, refused⟩
  rw [← run]
  obtain ⟨plain, legal, current, ordered⟩ := vendor_plain vendor loop
  have accepted : verdict world.session message.header loop.channel = .ok .syncOrdered := by
    simp only [verdict, plain, vendor, legal, current, ordered, fits, Bool.false_eq_true, if_false, not_true_eq_false,
      and_false, reduceCtorEq]
  have other : ∀ known : MessageType, known.vendorSpecific = false → message.header.type ≠ known :=
    fun _ ordinary => other_of_vendor vendor ordinary
  cases loop with
  | sync =>
    have syncW : world.session.syncW = some ⟨.synchronous⟩ := wired
    have found : verdict world.session message.header .synchronous = .ok .syncOrdered := accepted
    simp [Loop.handle, handleSync, syncW, fine, discardDuringClear, ready, exec_accept_paired (.inl ready), found,
      Loop.channel, other .data rfl, other .dataEnd rfl, other .trigger rfl, other .deviceClearComplete rfl,
      other .fatalError rfl, other .error rfl, other .initializeRequest rfl, vendor, writeVia, Loop.vendorReply,
      MessageWriter.writeError]
  | async =>
    have asyncW : world.session.asyncW = some ⟨.asynchronous⟩ := wired
    have found : verdict world.session message.header .asynchronous = .ok .syncOrdered := accepted
    simp [Loop.handle, handleAsync, asyncW, fine, exec_accept_paired (.inl ready), found, Loop.channel,
      other .asyncDeviceClear rfl, other .asyncStatusQuery rfl, other .asyncLock rfl, other .asyncLockInfo rfl,
      other .asyncRemoteLocalControl rfl, other .asyncMaximumMessageSize rfl, other .asyncInitialize rfl,
      other .fatalError rfl, other .error rfl, Loop.vendorReply]

theorem handle_denied {reply : Header} (fuel : Nat) (ready : world.session.state = .ready)
    (wired : loop.writer world.session = some ⟨loop.channel⟩) (fine : message.err = none) {err : Err}
    (denied : verdict world.session message.header loop.channel = .error err)
    (refuses : Refuses policy environment loop.channel reply (reportError (some ⟨loop.channel⟩) err id)) :
    Yields (handler policy environment) (loop.handle config message fuel) world (Refused loop.channel reply world) := by
  obtain ⟨result, after, run, refused⟩ := reportAcceptError_refuses refuses world
  exact ⟨result, after, (exec_handle config fuel ready wired fine denied).trans run, refused⟩

/-- A message that is neither too large nor for vendors, and that the handler has no case
for, does not pass `Accept`. -/
theorem handle_unserved (takes : Takes environment) (config : Config) (fuel : Nat)
    (ready : world.session.state = .ready) (wired : loop.writer world.session = some ⟨loop.channel⟩) (packet : Packet)
    (fine : message.err = none) (sent : message.header.type = packet.header.type)
    (fits : ¬ world.session.maxRx < packet.payload.len) (ordinary : packet.header.type.vendorSpecific = false)
    (unserved : packet.header.type ∉ loop.serves) :
    Yields (handler policy environment) (loop.handle config message fuel) world
      (Refused loop.channel (refusal world.session loop.channel packet) world) := by
  unfold refusal
  rw [if_neg fits]
  split
  next reserved =>
    have denied : verdict world.session message.header loop.channel = .error Sentinel.reservedMessageType := by
      rw [verdict, sent, if_pos reserved]
    exact handle_denied config fuel ready wired fine denied (reportError_refuses takes loop rfl id)
  next plain =>
    rw [Bool.not_eq_true] at plain
    have defined := defined_of_ordinary plain ordinary
    split
    next illegal =>
      have denied : verdict world.session message.header loop.channel = .error Sentinel.wrongChannel := by
        simp only [verdict, sent, plain, defined, Bool.false_eq_true, if_false, not_true_eq_false, false_and, if_pos illegal]
      exact handle_denied config fuel ready wired fine denied (reportError_refuses takes loop rfl id)
    next legal =>
      rw [not_not] at legal
      split
      next newer =>
        have denied : verdict world.session message.header loop.channel = .error Sentinel.protocolVersion := by
          simp only [verdict, sent, plain, defined, legal, newer, Bool.false_eq_true, if_false, not_true_eq_false,
            false_and, if_true]
        exact handle_denied config fuel ready wired fine denied (reportError_refuses_fatal takes loop rfl)
      next current =>
        rw [if_neg (by simp [ordinary])]
        have undefined := undefined_of_unserved plain ordinary unserved legal
        have denied : verdict world.session message.header loop.channel = .error Sentinel.unknownMessageType := by
          simp only [verdict, sent, plain, defined, legal, current, undefined, Bool.false_eq_true, if_false,
            not_true_eq_false, false_and, if_true]
        exact handle_denied config fuel ready wired fine denied (reportError_refuses takes loop rfl id)

end Handlers

/-- A refused message is answered by the rule that applies on both channels, but for a
vendor message on the asynchronous one. -/
theorem refused_uniformly_iff (policy : ResponsePolicy σ) (environment : Environment δ) (takes : Takes environment)
    (config : Config) (fuel : Nat) (loop : Loop) (world : World σ δ) (ready : world.session.state = .ready)
    (wired : loop.writer world.session = some ⟨loop.channel⟩) (packet : Packet)
    (refused : world.session.maxRx < packet.payload.len ∨ packet.header.type ∉ loop.serves) :
    Yields (handler policy environment) (loop.handle config (delivered world.session.maxRx packet) fuel) world
        (Refused loop.channel (refusal world.session loop.channel packet) world) ↔
      loop = .sync ∨ packet.header.type.vendorSpecific = false ∨ world.session.maxRx < packet.payload.len := by
  by_cases large : world.session.maxRx < packet.payload.len
  · refine iff_of_true ?_ (.inr (.inr large))
    rw [refusal, if_pos large, delivered, if_neg (UInt64.not_le.mpr large)]
    exact handle_oversized takes config fuel wired packet.sent
  have within : packet.payload.len ≤ world.session.maxRx := UInt64.not_lt.mp large
  rw [delivered, if_pos within]
  cases vendor : packet.header.type.vendorSpecific with
  | false =>
    refine iff_of_true ?_ (.inr (.inl rfl))
    exact handle_unserved takes config fuel ready wired packet rfl rfl large vendor (refused.resolve_left large)
  | true =>
    obtain ⟨plain, legal, current, -⟩ := vendor_plain vendor loop
    have expected : refusal world.session loop.channel packet =
        { type := .error, control := ErrorCode.unrecognizedVendorMsg } := by
      simp only [refusal, large, plain, legal, current, vendor, Bool.false_eq_true, if_false, not_true_eq_false, if_true]
    have fits : checkLength packet.sent.length world.session.maxRx = none := by
      simp [checkLength, WriteCall.sent, within]
    have replied : Yields (handler policy environment)
        (loop.handle config { header := packet.sent, payload := packet.payload.bytes } fuel) world _ :=
      handle_vendor takes config fuel ready wired rfl fits vendor
    rw [expected]
    cases loop with
    | sync => exact iff_of_true replied (.inl rfl)
    | async =>
      refine iff_of_false (fun uniform => ?_) (by simp [large])
      obtain ⟨result, after, run, actual⟩ := replied
      obtain ⟨_, _, again, claimed⟩ := uniform
      rw [run] at again
      cases again
      obtain ⟨text, told⟩ := actual.answered
      exact absurd (claimed.shown told).2 (show Loop.async.vendorReply.1 ≠ ErrorCode.unrecognizedVendorMsg by decide)

def pairedWorld : World SCPIQueryPolicy (List ReadResult) where
  shared := { session := .paired .standard scpiQueryPolicy 1 .version10 Version.version10_current 0 1 }
  environment := []

theorem empty_fits : ([] : Bytes).length < 2 ^ 63 := by decide

def vendorPacket : Packet := ⟨⟨{ type := ⟨200⟩ }, ⟨[], empty_fits⟩⟩, .inl rfl⟩

theorem vendor_refused_uniformly :
    Yields (handler scpiQueryPolicy scripted)
      (Loop.sync.handle Profile.standard.toConfig (delivered pairedWorld.session.maxRx vendorPacket) 0) pairedWorld
      (Refused .synchronous { type := .error, control := ErrorCode.unrecognizedVendorMsg } pairedWorld) :=
  (refused_uniformly_iff scpiQueryPolicy scripted (fun _ _ _ _ => rfl) Profile.standard.toConfig 0 .sync pairedWorld rfl rfl
    vendorPacket (.inr (by decide))).mpr (.inl rfl)

/-- On the asynchronous channel the same message gets error 1 instead of error 3. -/
theorem vendor_refused_otherwise :
    (exec (handler scpiQueryPolicy scripted)
        (Loop.async.handle Profile.standard.toConfig (delivered pairedWorld.session.maxRx vendorPacket) 0)
        pairedWorld).2.trace =
      [⟨.send .asynchronous { type := .error, control := 1, length := 19 } (ascii "unsupported message"), some none⟩] ∧
    ¬ Yields (handler scpiQueryPolicy scripted)
      (Loop.async.handle Profile.standard.toConfig (delivered pairedWorld.session.maxRx vendorPacket) 0) pairedWorld
      (Refused .asynchronous { type := .error, control := ErrorCode.unrecognizedVendorMsg } pairedWorld) := by
  refine ⟨rfl, ?_⟩
  rintro ⟨result, after, run, refused⟩
  obtain rfl := congrArg Prod.snd run
  exact absurd (refused.shown rfl).2 (by decide)

end Hislip.Proofs.Refusals
