import Hislip.Protocol.Constants

/-! Server profiles: defaults, validation, and the values the handlers take from a
profile. The policy factory is a parameter of the server and not a field here. -/

namespace Hislip.Server

structure Config where
  subAddresses : List Bytes := []
  maxVersion : Version := ⟨0, 0⟩
  supportsOverlap : Bool := false
  maxSessions : Int := 0
  maxRxPayload : UInt64 := 0
  maxTxPayload : UInt64 := 0
  vendorID : UInt8 × UInt8 := (0, 0)
  deriving DecidableEq, Repr

namespace Config

def withDefaults (config : Config) : Config where
  subAddresses := if config.subAddresses.length = 0 then [ascii "hislip0"] else config.subAddresses
  maxVersion := if config.maxVersion = ⟨0, 0⟩ then .version10 else config.maxVersion
  supportsOverlap := config.supportsOverlap
  maxSessions := if config.maxSessions = 0 then 1 else config.maxSessions
  maxRxPayload := if config.maxRxPayload = 0 then 8192 else config.maxRxPayload
  maxTxPayload := if config.maxTxPayload = 0 then 8192 else config.maxTxPayload
  vendorID := config.vendorID

def validate (config : Config) : Option Err :=
  if config.maxSessions < 1 then some Sentinel.invalidConfig
  else if config.maxVersion.less .version10 then some Sentinel.invalidConfig
  else if config.maxRxPayload < 16 ∨ config.maxTxPayload < 16 then some Sentinel.invalidConfig
  else if config.supportsOverlap then some Sentinel.overlapNotImplemented
  else none

def acceptsSubAddress (config : Config) (subAddress : Bytes) : Bool :=
  subAddress.length == 0 || config.subAddresses.contains subAddress

def preferOverlapBit (config : Config) : UInt8 := if config.supportsOverlap then 1 else 0

def featureBitmap (config : Config) (clientRequest : UInt8) : UInt8 :=
  if config.supportsOverlap ∧ clientRequest &&& featureOverlapped ≠ 0 then featureOverlapped else 0

end Config

/-- A configuration that `New` accepted. -/
structure Profile extends Config where
  accepted : toConfig.validate = none

namespace Profile

/-- What `New` does with the configuration it is given. -/
def new (config : Config) : Except Err Profile :=
  match accepted : config.withDefaults.validate with
  | some err => .error err
  | none => .ok ⟨config.withDefaults, accepted⟩

def standard : Profile := ⟨({} : Config).withDefaults, by decide⟩

def forTwo : Profile := ⟨{ ({} : Config).withDefaults with maxSessions := 2, maxVersion := .version20 }, by decide⟩

private theorem validated {config : Config} (accepted : config.validate = none) :
    ¬ config.maxSessions < 1 ∧ config.maxVersion.less .version10 = false ∧
      ¬ (config.maxRxPayload < 16 ∨ config.maxTxPayload < 16) ∧ config.supportsOverlap = false := by
  unfold Config.validate at accepted
  split at accepted
  · cases accepted
  next sessions =>
    split at accepted
    · cases accepted
    next version =>
      split at accepted
      · cases accepted
      next sizes =>
        split at accepted
        · cases accepted
        next overlap => exact ⟨sessions, by simpa using version, sizes, by simpa using overlap⟩

variable (profile : Profile)

theorem maxSessions_ge : 1 ≤ profile.maxSessions := by
  have sessions := (validated profile.accepted).1
  omega

theorem maxVersion_ge : profile.maxVersion.less .version10 = false := (validated profile.accepted).2.1

theorem maxRxPayload_ge : 16 ≤ profile.maxRxPayload := by
  have sizes := (validated profile.accepted).2.2.1
  simpa using (not_or.mp sizes).1

theorem maxTxPayload_ge : 16 ≤ profile.maxTxPayload := by
  have sizes := (validated profile.accepted).2.2.1
  simpa using (not_or.mp sizes).2

theorem no_overlap : profile.supportsOverlap = false := (validated profile.accepted).2.2.2

@[simp] theorem featureBitmap_eq (clientRequest : UInt8) : profile.featureBitmap clientRequest = 0 := by
  simp [Config.featureBitmap, profile.no_overlap]

end Profile

end Hislip.Server
