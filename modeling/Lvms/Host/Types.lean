import Lvms.Api.Error
import Mathlib.Data.Rat.Defs

/-!
# What the host reports

The rows of `lsblk`, `vgs`, `pvs` and `lvs`, and the configuration file of lvmd,
with the columns and fields that the vg-manager reads or writes.
-/

namespace Lvms

/-! ## Block devices -/

/-- A block device as `lsblk` prints it, with the devices on top of it. -/
inductive BlockDevice
  | mk (name kname type state fsType : String) (readOnly : Bool)
      (partLabel : String) (children : List BlockDevice)

namespace BlockDevice

/-- `NAME`, which can be a name under `/dev/mapper`. -/
def name : BlockDevice → String
  | mk name _ _ _ _ _ _ _ => name

/-- `KNAME`, the name of the kernel. -/
def kname : BlockDevice → String
  | mk _ kname _ _ _ _ _ _ => kname

/-- `TYPE`. -/
def type : BlockDevice → String
  | mk _ _ type _ _ _ _ _ => type

/-- `STATE`. -/
def state : BlockDevice → String
  | mk _ _ _ state _ _ _ _ => state

/-- `FSTYPE`. -/
def fsType : BlockDevice → String
  | mk _ _ _ _ fsType _ _ _ => fsType

/-- `RO`. -/
def readOnly : BlockDevice → Bool
  | mk _ _ _ _ _ readOnly _ _ => readOnly

/-- `PARTLABEL`. -/
def partLabel : BlockDevice → String
  | mk _ _ _ _ _ _ partLabel _ => partLabel

/-- The devices on top of this one. -/
def children : BlockDevice → List BlockDevice
  | mk _ _ _ _ _ _ _ children => children

/-- `BlockDevice.HasChildren`. -/
def hasChildren (device : BlockDevice) : Bool :=
  !device.children.isEmpty

end BlockDevice

/-! ## Rows of the LVM reports -/

/-- The tag of the volume groups that belong to LVMS. -/
def defaultTag : String := "@lvms"

/-- A row of `vgs`. -/
structure VGRow where
  name : String
  vgSize : String := ""
  tags : List String := []
  deriving DecidableEq, Repr

/-- A row of `pvs`. -/
structure PhysicalVolume where
  pvName : String
  uuid : String := ""
  vgName : String := ""
  pvFree : String := ""
  /-- Not empty when the device of the volume is gone. -/
  pvMissing : String := ""
  deriving DecidableEq, Repr

/-- A row of `lvs`. -/
structure LogicalVolume where
  name : String
  vgName : String := ""
  lvAttr : String := ""
  lvSize : String := ""
  metadataPercent : String := ""
  chunkSize : String := ""
  metadataSize : String := ""
  raidSyncPercent : String := ""
  lvHealthStatus : String := ""
  deriving DecidableEq, Repr

/-- A volume group with its physical volumes, as `ListVGs` puts it together. -/
structure VolumeGroup where
  name : String
  vgSize : String := ""
  pvs : List PhysicalVolume := []
  tags : List String := []
  deriving DecidableEq, Repr

/-- `VolumeGroup.IsMissingDevices`. -/
def VolumeGroup.isMissingDevices (volumeGroup : VolumeGroup) : Bool :=
  volumeGroup.pvs.any fun pv => pv.pvMissing != ""

/-! ## The configuration of lvmd -/

namespace Lvmd

/-- The types of device classes. -/
inductive DeviceType
  | thin | thick
  deriving DecidableEq, Repr

/-- The thin pool of a device class. -/
structure ThinPoolConfig where
  name : String
  overprovisionRatio : Rat
  deriving DecidableEq, Repr

/-- A device class of lvmd. -/
structure DeviceClass where
  name : String
  volumeGroup : String
  default : Bool := false
  spareGB : Option Nat := none
  stripe : Option Nat := none
  stripeSize : String := ""
  lvcreateOptions : List String := []
  type : DeviceType := .thick
  thinPoolConfig : Option ThinPoolConfig := none
  deriving DecidableEq, Repr

/-- A named set of options for `lvcreate`. -/
structure LvcreateOptionClass where
  name : String
  options : List String := []
  deriving DecidableEq, Repr

/-- The configuration file of lvmd. -/
structure Config where
  socketName : String := ""
  deviceClasses : List DeviceClass := []
  lvcreateOptionClasses : List LvcreateOptionClass := []
  deriving DecidableEq, Repr

/-- What is stored under the path of the configuration: a configuration, a text
over the read limit, or a text that cannot be parsed. -/
inductive FileContent
  | config (config : Config)
  | tooLong
  | malformed (reason : String)
  deriving DecidableEq, Repr

end Lvmd
end Lvms
