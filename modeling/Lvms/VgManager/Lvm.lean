import Lvms.World

/-!
# LVM on the host

`HostLVM`: the operations of the vg-manager on volume groups, physical volumes
and logical volumes, each made of one or more commands.
-/

namespace Lvms

open Interaction

namespace Lvm

/-- `ErrVolumeGroupNotFound`. -/
def errVolumeGroupNotFound : GoError := .new "volume group not found"

/-- `fmt.Errorf` with a `%v` verb at the end: only the text of the cause is
kept. -/
def formatted (text : String) (cause : GoError) : GoError :=
  .new (text ++ cause.error)

/-- `fmt.Errorf` with a `%w` verb at the end. -/
def wrappedAt (text : String) (cause : GoError) : GoError :=
  .wrap text cause ""

/-! ## Volume groups -/

/-- `HostLVM.CreateVG`. -/
def createVG (vg : VolumeGroup) (isWiped : Bool) : Go Unit := do
  if vg.name = "" then
    throw (.new "failed to create volume group: volume group name is empty")
  if vg.pvs.isEmpty then
    throw (.new "failed to create volume group: physical volume list is empty")
  Fallible.mapError
    (formatted ("failed to create volume group " ++ quoted vg.name ++ ". "))
    (command (.vgcreate vg.name isWiped (vg.pvs.map (·.pvName))))

/-- `HostLVM.ExtendVG`. -/
def extendVG (vg : VolumeGroup) (pvs : List String) : Go VolumeGroup := do
  if vg.name = "" then
    throw (.new "failed to extend volume group: volume group name is empty")
  if pvs.isEmpty then
    throw (.new "failed to extend volume group: physical volume list is empty")
  Fallible.mapError
    (formatted ("failed to extend volume group " ++ quoted vg.name ++ ". "))
    (command (.vgextend vg.name pvs))
  return { vg with pvs := vg.pvs ++ pvs.map fun pv => { pvName := pv } }

/-- The last loop of `DeleteVG`: remove the volumes from the devices file. Exit
code 5 means that the volume is not there any more. -/
def deletePVIDs (vgName : String) : List PhysicalVolume → Go Unit
  | [] => return
  | pv :: rest => do
      match ← (command (.lvmdevicesDelpvid pv.uuid)).attempt with
      | .ok () => deletePVIDs vgName rest
      | .error error =>
          if error.exitCode = some 5 then
            deletePVIDs vgName rest
          else
            throw (GoError.wrapped ("failed to delete PV " ++ pv.uuid ++
              " from device file for the volume group " ++ vgName) error)

/-- `HostLVM.DeleteVG`. -/
def deleteVG (vg : VolumeGroup) : Go Unit := do
  Fallible.mapError
    (GoError.wrapped ("failed to remove volume group " ++ quoted vg.name))
    (command (.vgchangeDeactivate vg.name))
  Fallible.mapError
    (GoError.wrapped ("failed to remove volume group " ++ quoted vg.name))
    (command (.vgremove vg.name))
  Fallible.mapError
    (GoError.wrapped ("failed to remove physical volumes for the volume group " ++
      quoted vg.name))
    (command (.pvremove (vg.pvs.map (·.pvName))))
  deletePVIDs vg.name vg.pvs

/-- `HostLVM.ListPVs`. -/
def listPVs (vgName : String) : Go (List PhysicalVolume) := do
  let report ← query (.pvs vgName)
  return report.flatten

/-- `HostLVM.GetVG`. A later report overrides an earlier one. -/
def getVG (name : String) : Go VolumeGroup := do
  let report ← Fallible.mapError (formatted "failed to list volume groups. ")
    (query (.vgs true))
  match (report.filterMap fun rows => rows.find? (·.name == name)).getLast? with
  | none => throw errVolumeGroupNotFound
  | some row =>
      let pvs ← Fallible.mapError
        (formatted ("failed to list physical volumes for volume group " ++
          quoted name ++ ". "))
        (listPVs name)
      return { name := row.name, vgSize := row.vgSize, pvs }

/-- The volume groups of a report, with the physical volumes of each. -/
def assembleVGs (rows : List VGRow) (pvs : List PhysicalVolume) :
    List VolumeGroup :=
  rows.map fun row =>
    { name := row.name
      vgSize := row.vgSize
      pvs := pvs.filter fun pv => row.name == pv.vgName
      tags := row.tags }

/-- `untaggedVGs`. -/
def untaggedVGs (vgs : List VolumeGroup) : List VolumeGroup :=
  vgs.filter fun vg => !vg.tags.contains defaultTag

/-- `HostLVM.ListVGs`. -/
def listVGs (tagged : Bool) : Go (List VolumeGroup) := do
  let report ← Fallible.mapError (formatted "failed to list volume groups. ")
    (query (.vgs tagged))
  let pvs ← Fallible.mapError
    (GoError.wrapped "failed to list physical volumes") (listPVs "")
  let vgList := assembleVGs report.flatten pvs
  return if tagged then vgList else untaggedVGs vgList

/-- `HostLVM.ReduceVG`. -/
def reduceVG (vgName device : String) : Go Unit :=
  Fallible.mapError
    (GoError.wrapped ("failed to reduce volume group " ++ vgName ++
      " by removing device " ++ device))
    (command (.vgreduce vgName device))

/-- `HostLVM.RemovePV`. -/
def removePV (devicePath : String) : Go Unit :=
  Fallible.mapError
    (GoError.wrapped ("failed to remove PV signature from device " ++ devicePath))
    (command (.pvremove [devicePath]))

/-! ## Logical volumes -/

/-- `HostLVM.ListLVs`; one list of rows for each report. -/
def listLVs (vgName : String) : Go (List (List LogicalVolume)) :=
  query (.lvs vgName)

/-- `HostLVM.ListLVsByName`. -/
def listLVsByName (vgName : String) : Go (List String) := do
  if vgName = "" then
    throw (.new
      "failed to list lvs by volume group: volume group name is empty")
  let report ← listLVs vgName
  return report.flatten.map (·.name)

/-- `HostLVM.LVExists`. -/
def lvExists (lvName vgName : String) : Go Bool := do
  let lvs ← listLVsByName vgName
  return lvs.contains lvName

/-- The checks at the start of the operations on one logical volume. -/
def checkNames (action lvName vgName : String) : Go Unit := do
  if vgName = "" then
    throw (.new ("failed to " ++ action ++
      " in volume group: volume group name is empty"))
  if lvName = "" then
    throw (.new ("failed to " ++ action ++
      " in volume group: logical volume name is empty"))

/-- `HostLVM.DeleteLV`. -/
def deleteLV (lvName vgName : String) : Go Unit := do
  checkNames "delete logical volume" lvName vgName
  Fallible.mapError
    (wrappedAt ("failed to deactivate thin pool " ++ quoted lvName ++
      " in volume group " ++ quoted vgName ++ ". "))
    (command (.lvchangeDeactivate vgName lvName))
  Fallible.mapError
    (wrappedAt ("failed to delete logical volume " ++ quoted lvName ++
      " in volume group " ++ quoted vgName ++ ". "))
    (command (.lvremove vgName lvName))

/-- `HostLVM.CreateLV`. A chunk or metadata size that is not positive is left to
the host. -/
def createLV
    (lvName vgName : String)
    (sizePercent chunkSizeBytes metadataSizeBytes : Int) : Go Unit := do
  checkNames "create logical volume" lvName vgName
  if sizePercent ≤ 0 then
    throw (.new ("failed to create logical volume in volume group: " ++
      "size percent should be greater than 0"))
  let args := "-l " ++ toString sizePercent ++ "%FREE -Z y -T" ++
    (if 0 < chunkSizeBytes then " -c " ++ toString chunkSizeBytes ++ "b" else "") ++
    (if 0 < metadataSizeBytes then
      " --poolmetadatasize " ++ toString metadataSizeBytes ++ "b" else "") ++
    " " ++ vgName ++ "/" ++ lvName
  Fallible.mapError
    (GoError.wrapped ("failed to create logical volume " ++ quoted lvName ++
      " in the volume group " ++ quoted vgName ++
      " using command '/usr/sbin/lvcreate " ++ args ++ "'"))
    (command (.lvcreate vgName lvName sizePercent chunkSizeBytes
      metadataSizeBytes))

/-- `HostLVM.ExtendLV`. -/
def extendLV (lvName vgName : String) (sizePercent : Int) : Go Unit := do
  checkNames "extend logical volume" lvName vgName
  if sizePercent ≤ 0 then
    throw (.new ("failed to extend logical volume in volume group: " ++
      "size percent should be greater than 0"))
  Fallible.mapError
    (GoError.wrapped ("failed to extend logical volume " ++ quoted lvName ++
      " in the volume group " ++ quoted vgName ++
      " using command '/usr/sbin/lvextend -l " ++ toString sizePercent ++
      "%Vg " ++ vgName ++ "/" ++ lvName ++ "'"))
    (command (.lvextend vgName lvName sizePercent))

/-- `HostLVM.ExtendThinPoolMetadata`. -/
def extendThinPoolMetadata
    (lvName vgName : String)
    (metadataSizeBytes : Int) : Go Unit := do
  checkNames "extend logical volume metadata size" lvName vgName
  if metadataSizeBytes ≤ 0 then
    throw (.new ("failed to extend logical volume metadata size in volume " ++
      "group: size value should be greater than 0"))
  Fallible.mapError
    (GoError.wrapped ("failed to extend logical volume metadata size " ++
      quoted lvName ++ " in the volume group " ++ quoted vgName ++
      " using command '/usr/sbin/lvextend --poolmetadatasize " ++
      toString metadataSizeBytes ++ "b " ++ vgName ++ "/" ++ lvName ++ "'"))
    (command (.lvextendMetadata vgName lvName metadataSizeBytes))

/-- `HostLVM.ActivateLV`. -/
def activateLV (lvName vgName : String) : Go Unit := do
  checkNames "activate logical volume" lvName vgName
  Fallible.mapError
    (wrappedAt ("failed to activate thin pool " ++ quoted lvName ++
      " in volume group " ++ quoted vgName ++ ". "))
    (command (.lvchangeActivate vgName lvName))

end Lvm
end Lvms
