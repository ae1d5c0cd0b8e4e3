import Lvms.VgManager.Devices

/-!
# Wiping devices

With `forceWipeDevicesAndDestroyAllData` the devices of a selector are wiped
before they are used for the first time. An annotation on the volume group
records for each node that this has happened.
-/

namespace Lvms

open Interaction

/-- `ErrReferenceNotFound`. -/
def errReferenceNotFound : GoError :=
  .new "device-mapper reference not found"

/-- `HostDmsetup.Remove`. -/
def dmsetupRemove (deviceName : String) : Go Unit := do
  if deviceName = "" then
    throw (.new ("failed to remove device-mapper reference. " ++
      "Device name is empty"))
  match ← (command (.dmsetupRemove deviceName)).attempt with
  | .ok () => return
  | .error error =>
      if stringsContains error.error "not found" then
        throw errReferenceNotFound
      throw (GoError.wrapped ("failed to remove the reference from " ++
        "device-mapper " ++ quoted deviceName) error)

/-- `HostWipefs.Wipe`. -/
def wipe (deviceName : String) : Go Unit := do
  if deviceName = "" then
    throw (.new "failed to wipe the device. Device name is empty")
  Fallible.mapError
    (Lvm.formatted ("failed to wipe the device " ++ quoted deviceName ++ ". "))
    (command (.wipefs deviceName))

mutual

/-- `removeMapperReference`: innermost children first; partitions have no
reference, and a failing removal is only logged. -/
def removeMapperReference : BlockDevice → Program sig Unit
  | .mk _ kname type _ _ _ _ children => do
      removeMapperReferences children
      if type = "part" then
        return
      let _ ← (dmsetupRemove kname).run

/-- `removeMapperReference` for each device of a list. -/
def removeMapperReferences : List BlockDevice → Program sig Unit
  | [] => return
  | device :: rest => do
      removeMapperReference device
      removeMapperReferences rest

end

mutual

/-- The body of the loop of `wipeDevice`: whether the device was wiped, and
whether the loop ends here. -/
def wipeIfNamed (deviceName : String) : BlockDevice → Go (Bool × Bool)
  | .mk _ kname _ _ _ _ _ children => do
      if kname = deviceName then
        removeMapperReferences children
        wipe kname
        return (true, true)
      return (← wipeDevice deviceName children, false)

/-- `wipeDevice`. -/
def wipeDevice (deviceName : String) : List BlockDevice → Go Bool
  | [] => return false
  | device :: rest => do
      let (wiped, stop) ← wipeIfNamed deviceName device
      if stop then
        return wiped
      return (← wipeDevice deviceName rest) || wiped

end

/-- The annotation with which a node records that it has wiped the devices. -/
def devicesWipedKey (nodeName : String) : String :=
  devicesWipedAnnotationPrefix ++ nodeName

/-- `shouldWipeDevicesOnVolumeGroup`. -/
def shouldWipeDevicesOnVolumeGroup
    (nodeName : String)
    (vg : LVMVolumeGroup) : Bool :=
  match vg.spec.deviceSelector with
  | none => false
  | some selector =>
      selector.forceWipeDevicesAndDestroyAllData == some true &&
        !vg.metadata.annotations.has (devicesWipedKey nodeName)

/-- The loop over the mandatory paths: every error ends it. -/
def wipePaths (blockDevices : List BlockDevice) : List DevicePath → Go Bool
  | [] => return false
  | path :: rest => do
      let resolved ← Fallible.mapError
        (GoError.wrapped ("failed to wipe device " ++ path)) (resolve path)
      let wiped ← Fallible.mapError
        (GoError.wrapped ("failed to wipe device " ++ path))
        (wipeDevice resolved blockDevices)
      return (← wipePaths blockDevices rest) || wiped

/-- The loop over the optional paths: errors are only logged, and a path that
cannot be resolved is looked up as the empty name. -/
def wipeOptionalPaths (blockDevices : List BlockDevice) :
    List DevicePath → Program sig Bool
  | [] => return false
  | path :: rest => do
      let resolved := match ← (resolve path).run with
        | .ok target => target
        | .error _ => ""
      let wiped := match ← (wipeDevice resolved blockDevices).run with
        | .ok wiped => wiped
        | .error _ => false
      return (← wipeOptionalPaths blockDevices rest) || wiped

/-- A path that cannot be resolved counts as the empty path, and a wipe that fails as
none. -/
theorem wipeOptionalPaths_cons
    (blockDevices : List BlockDevice)
    (path : DevicePath)
    (rest : List DevicePath) :
    wipeOptionalPaths blockDevices (path :: rest) = do
      let resolved ← (resolve path).run
      let wiped ← (wipeDevice (resolved.toOption.getD "") blockDevices).run
      return (← wipeOptionalPaths blockDevices rest) || wiped.toOption.getD false := by
  rw [wipeOptionalPaths]
  refine bind_congr fun resolved => ?_
  cases resolved <;>
  · refine bind_congr fun wiped => ?_
    cases wiped <;> rfl

/-- The text of the annotation. -/
def devicesWipedText (time : String) : String :=
  "the devices of this volume group have been wiped at " ++ time ++
    " by lvms according to policy. This marker" ++
    "serves as indicator that the devices have been wiped before and should " ++
    "not be wiped again." ++
    "removal of this annotation is unsupported and may lead to data loss due " ++
    "to additional wiping."

/-- The volume group with the annotation of a node. -/
def annotatedAsWiped (nodeName time : String) (vg : LVMVolumeGroup) :
    LVMVolumeGroup :=
  { vg with metadata := { vg.metadata with
    annotations := vg.metadata.annotations.set
      (devicesWipedKey nodeName) (devicesWipedText time) } }

/-- `wipeDevices`: the volume group with the annotation, if a device was
wiped. -/
def wipeDevices
    (nodeName : String)
    (vg : LVMVolumeGroup)
    (blockDevices : List BlockDevice) : Go (Option LVMVolumeGroup) := do
  if !shouldWipeDevicesOnVolumeGroup nodeName vg then
    return none
  let selector := vg.spec.deviceSelector.getD {}
  let wiped ← wipePaths blockDevices selector.paths
  let wipedOptional ← wipeOptionalPaths blockDevices selector.optionalPaths
  if wiped || wipedOptional then
    return some (annotatedAsWiped nodeName (← now) vg)
  return none

end Lvms
