import Mathlib.Data.Prod.Lex
import Hislip.Protocol.Constants

/-! How a protocol version is packed into the parameter of the initialization
messages, next to the client's vendor ID or the session ID. -/

namespace Hislip

namespace Version

def upperWord (version : Version) : UInt32 := version.major.toUInt32 <<< 24 ||| version.minor.toUInt32 <<< 16

def fromParameter (parameter : UInt32) : Version := ⟨(parameter >>> 24).toUInt8, (parameter >>> 16).toUInt8⟩

theorem negotiate_current {client server : Version} (first : client.less .version10 = false)
    (second : server.less .version10 = false) : (negotiate client server).less .version10 = false := by
  unfold negotiate
  split
  · exact first
  · exact second

theorem fromParameter_session (version : Version) (id : UInt16) :
    fromParameter (version.upperWord ||| id.toUInt32) = version := by
  obtain ⟨major, minor⟩ := version
  simp only [fromParameter, upperWord, Version.mk.injEq, ← UInt8.toBitVec_inj]
  constructor <;>
  · ext bit
    simp
    grind

theorem fromParameter_vendor (version : Version) (first second : UInt8) :
    fromParameter (version.upperWord ||| first.toUInt32 <<< 8 ||| second.toUInt32) = version := by
  obtain ⟨major, minor⟩ := version
  simp only [fromParameter, upperWord, Version.mk.injEq, ← UInt8.toBitVec_inj]
  constructor <;>
  · ext bit
    simp
    grind

/-- Versions are ordered by their major and then by their minor number. -/
def rank (version : Version) : Nat ×ₗ Nat := toLex (version.major.toNat, version.minor.toNat)

theorem less_iff {version other : Version} : version.less other = true ↔ version.rank < other.rank := by
  simp only [less, rank, Prod.Lex.toLex_lt_toLex, bne_iff_ne, ne_eq, UInt8.toNat_inj, ← UInt8.lt_iff_toNat_lt]
  split
  next differ => simp [differ]
  next same => simp [not_not.mp same]

theorem rank_negotiate (client server : Version) : (negotiate client server).rank = min client.rank server.rank := by
  unfold negotiate
  split
  next earlier => exact (min_eq_left (less_iff.mp earlier).le).symm
  next later => exact (min_eq_right (not_lt.mp fun earlier => later (less_iff.mpr earlier))).symm

end Version

def encodeInitializeParameter (version : Version) (vendorID : UInt8 × UInt8) : UInt32 :=
  version.upperWord ||| vendorID.1.toUInt32 <<< 8 ||| vendorID.2.toUInt32

def decodeInitializeParameter (parameter : UInt32) : Version × UInt8 × UInt8 :=
  (.fromParameter parameter, (parameter >>> 8).toUInt8, parameter.toUInt8)

def encodeInitializeResponseParameter (version : Version) (sessionID : UInt16) : UInt32 :=
  version.upperWord ||| sessionID.toUInt32

def decodeInitializeResponseParameter (parameter : UInt32) : Version × UInt16 :=
  (.fromParameter parameter, parameter.toUInt16)

theorem decodeInitializeParameter_encode (version : Version) (vendorID : UInt8 × UInt8) :
    decodeInitializeParameter (encodeInitializeParameter version vendorID) = (version, vendorID) := by
  obtain ⟨first, second⟩ := vendorID
  refine Prod.ext (Version.fromParameter_vendor version first second) (Prod.ext ?_ ?_)
  all_goals
    simp only [decodeInitializeParameter, encodeInitializeParameter, Version.upperWord, ← UInt8.toBitVec_inj]
    ext bit
    simp
    try grind

theorem decodeInitializeResponseParameter_encode (version : Version) (sessionID : UInt16) :
    decodeInitializeResponseParameter (encodeInitializeResponseParameter version sessionID) = (version, sessionID) := by
  refine Prod.ext (Version.fromParameter_session version sessionID) ?_
  simp only [decodeInitializeResponseParameter, encodeInitializeResponseParameter, Version.upperWord,
    ← UInt16.toBitVec_inj]
  ext bit
  simp

end Hislip
