import Lvms.Api.Types
import Lvms.Host.Types
import Mathlib.Algebra.Group.Int.Defs
import Mathlib.Algebra.Group.Nat.Defs

/-!
# Logical volume attributes and RAID

The parser of `lv_attr`, the options of RAID volumes, and the health of a RAID
volume group computed from its logical and physical volumes. Parsing and
printing of numbers is a parameter.
-/

namespace Lvms

/-- `strconv` and the float arithmetic on its results. -/
structure Numerals where
  /-- `strconv.ParseFloat(text, 32)`. -/
  parseFloat32 : String → Except GoError Rat
  /-- `strconv.ParseFloat(text, 64)`. -/
  parseFloat64 : String → Except GoError Rat
  /-- `strconv.ParseInt(text, 10, 64)`. -/
  parseInt : String → Except GoError Int
  /-- `int((part / whole) * 100)`. -/
  percentOf : Rat → Rat → Int
  /-- The `%v` verb. -/
  format : Rat → String

/-! ## Attributes -/

/-- The characters of `lv_attr` by their meaning. -/
structure LvAttr where
  volumeType : Char
  permissions : Char
  allocationPolicy : Char
  minor : Char
  state : Char
  openFlag : Char
  openTarget : Char
  zero : Char
  partialFlag : Char
  deriving DecidableEq, Repr

/-- `VolumeTypeThinPool`. -/
def volumeTypeThinPool : Char := 't'

/-- `VolumeTypeRAID`. -/
def volumeTypeRAID : Char := 'r'

/-- `VolumeTypeRAIDNoInitialSync`. -/
def volumeTypeRAIDNoInitialSync : Char := 'R'

/-- `StateActive`. -/
def stateActive : Char := 'a'

/-- `PartialTrue`. -/
def partialTrue : Char := 'p'

/-- `ParsedLvAttr`: ten characters, of which the last is not used. The source counts bytes,
which is the same for the ASCII texts of LVM. -/
def parsedLvAttr (raw : String) : Except GoError LvAttr :=
  match raw.toList with
  | [volumeType, permissions, allocationPolicy, minor, state, openFlag,
      openTarget, zero, partialFlag, _] =>
      .ok { volumeType, permissions, allocationPolicy, minor, state, openFlag,
            openTarget, zero, partialFlag }
  | _ => .error (.new (raw ++ " is an invalid length lv_attr"))

/-- `LvAttr.String`. -/
def LvAttr.string (attr : LvAttr) : String :=
  String.ofList [attr.volumeType, attr.permissions, attr.allocationPolicy,
    attr.minor, attr.state, attr.openFlag, attr.openTarget, attr.zero,
    attr.partialFlag]

/-- The attributes of a RAID volume. -/
def LvAttr.isRAID (attr : LvAttr) : Bool :=
  attr.volumeType == volumeTypeRAID ||
    attr.volumeType == volumeTypeRAIDNoInitialSync

/-! ## Geometry -/

/-- The name of a RAID level. -/
def RAIDType.string : RAIDType → String
  | .raid1 => "raid1"
  | .raid4 => "raid4"
  | .raid5 => "raid5"
  | .raid6 => "raid6"
  | .raid10 => "raid10"

/-- The value of an `int` after an overflow: 64 bits in two's complement. -/
def wrapInt64 (value : Int) : Int :=
  value.bmod (2 ^ 64)

/-- `RAIDConfig.EffectiveMirrors`. -/
def RAIDConfig.effectiveMirrors (config : RAIDConfig) : Int :=
  config.mirrors.getD 1

/-- `RAIDType.MinDeviceCount`. -/
def RAIDType.minDeviceCount
    (type : RAIDType)
    (mirrors : Int)
    (stripes : Option Int) : Int :=
  match type with
  | .raid1 => wrapInt64 (mirrors + 1)
  | .raid4 | .raid5 => wrapInt64 (stripes.getD 2 + 1)
  | .raid6 => wrapInt64 (stripes.getD 3 + 2)
  | .raid10 => wrapInt64 (2 * wrapInt64 (mirrors + 1))

/-- The options for the data stripes. -/
def stripeOptions (config : RAIDConfig) : List String :=
  (match config.stripes with
    | some stripes => ["--stripes", toString stripes]
    | none => []) ++
  match config.stripeSize with
  | some size => ["--stripesize", toString (size.value.tdiv 1024) ++ "k"]
  | none => []

/-- `buildRAIDLVCreateOptions`. -/
def buildRAIDLVCreateOptions (config : RAIDConfig) : List String :=
  ["--type", config.type.string] ++
    match config.type with
    | .raid1 => ["-m", toString config.effectiveMirrors]
    | .raid10 =>
        ["-m", toString config.effectiveMirrors] ++ stripeOptions config
    | .raid4 | .raid5 | .raid6 => stripeOptions config

/-- `validateRAIDDeviceCount`. -/
def validateRAIDDeviceCount (config : RAIDConfig) (deviceCount : Nat) :
    Except GoError Unit := do
  let mirrors := config.effectiveMirrors
  let minDevices := config.type.minDeviceCount mirrors config.stripes
  if (deviceCount : Int) < minDevices then
    throw (.new (config.type.string ++ " requires at least " ++
      toString minDevices ++ " devices, got " ++ toString deviceCount))
  if config.type = .raid10 then
    let groupSize := wrapInt64 (mirrors + 1)
    if (deviceCount : Int).tmod groupSize ≠ 0 then
      if mirrors = 1 then
        throw (.new ("raid10 with mirrors=1 requires an even number of " ++
          "devices, got " ++ toString deviceCount))
      throw (.new ("raid10 with mirrors=" ++ toString mirrors ++
        " requires a device count divisible by " ++ toString groupSize ++
        ", got " ++ toString deviceCount))

/-! ## Health -/

/-- `int(value)`: the fraction is dropped. -/
def truncate (value : Rat) : Int :=
  value.num.tdiv value.den

/-- The part of a RAID volume that is not a volume of its own. -/
def isRAIDSubVolume (lvName : String) : Bool :=
  stringsContains lvName "_rimage_" || stringsContains lvName "_rmeta_"

/-- The health of the RAID volumes of a volume group. -/
def raidLVHealth
    (numerals : Numerals)
    (raidType : RAIDType)
    (lvs : List LogicalVolume) : List RAIDLVHealth :=
  lvs.filterMap fun lv =>
    match parsedLvAttr lv.lvAttr with
    | .error _ => none
    | .ok attr =>
        if !attr.isRAID || isRAIDSubVolume lv.name then none
        else some {
          name := lv.name
          raidType
          syncPercent :=
            if lv.raidSyncPercent = "" then 100
            else match numerals.parseFloat64 lv.raidSyncPercent with
              | .ok percent => truncate percent
              | .error _ => 100
          healthStatus := lv.lvHealthStatus }

/-- A RAID volume that `lvs` reports as lacking a device. -/
def isPartialRAID (lv : LogicalVolume) : Bool :=
  match parsedLvAttr lv.lvAttr with
  | .error _ => false
  | .ok attr => attr.isRAID && attr.partialFlag == partialTrue

/-- `buildRAIDStatus`. -/
def buildRAIDStatus
    (numerals : Numerals)
    (lvs : List LogicalVolume)
    (pvs : List PhysicalVolume)
    (raidType : RAIDType) : Option RAIDStatus :=
  let lvHealth := raidLVHealth numerals raidType lvs
  if lvHealth.isEmpty && pvs.isEmpty then none
  else
    let degradedCount := lvHealth.countP fun health =>
      health.healthStatus == "partial"
    let failedCount := lvHealth.countP fun health =>
      health.healthStatus != "" && health.healthStatus != "partial"
    let ofVolumes : RAIDHealthStatus :=
      if lvHealth.isEmpty then .healthy
      else if failedCount = lvHealth.length then .failed
      else if 0 < failedCount || 0 < degradedCount then .degraded
      else .healthy
    let ofAttributes : RAIDHealthStatus :=
      if ofVolumes = .healthy && lvs.any isPartialRAID then .degraded
      else ofVolumes
    let degradedMemberCount := pvs.countP fun pv => pv.pvMissing != ""
    let status : RAIDHealthStatus :=
      if 0 < degradedMemberCount && ofAttributes = .healthy then .degraded
      else ofAttributes
    some {
      status
      memberCount := pvs.length
      degradedMemberCount
      minSyncPercent :=
        if lvHealth.isEmpty then none
        else some (lvHealth.foldl (fun least health =>
          min least health.syncPercent) 100)
      lvHealth }

end Lvms
