import Lvms.Client
import Lvms.VgManager.Lvmd
import Lvms.VgManager.Raid
import Lvms.VgManager.Wipe
import Mathlib.Data.List.Sort

/-!
# Status of a volume group on a node

The vg-manager reports the state of each volume group in the
`LVMVolumeGroupNodeStatus` of its node, and sends events about it.
-/

namespace Lvms

open Interaction

/-- The vg-manager of a node, with the library functions it calls. -/
structure Reconciler where
  nodeName : String
  ns : String := "openshift-lvm-storage"
  numerals : Numerals
  /-- `corev1helper.MatchNodeSelectorTerms`. -/
  matchNodeSelectorTerms : Node → NodeSelector → Except GoError Bool
  /-- The log level at which normal events are sent. -/
  verbose : Bool := false
  lvmd : Lvmd.FileConfig := {}

namespace Reconciler

variable (r : Reconciler)

/-! ## Events -/

/-- The name of an object of the namespace, as the events print it. -/
def key (name : String) : String :=
  r.ns ++ "/" ++ name

/-- The events about a volume group on the objects that own it. -/
def ownerEvents
    (warning : Bool)
    (reason message : String) : List OwnerReference → Program sig Unit
  | [] => return
  | reference :: rest => do
      eventf reference.name warning reason message
      ownerEvents warning reason message rest

/-- `WarningEvent`. -/
def warningEvent (vg : LVMVolumeGroup) (reason : String) (error : GoError) :
    Program sig Unit := do
  match ← (Client.get .nodeStatus r.nodeName).run with
  | .ok _ => eventf r.nodeName true reason error.error
  | .error _ => pure ()
  ownerEvents true reason ("error on node " ++ r.key r.nodeName ++
    " in volume group " ++ r.key vg.name ++ ": " ++ error.error)
    vg.metadata.ownerReferences
  eventf vg.name true reason
    ("error on node " ++ r.key r.nodeName ++ ": " ++ error.error)

/-- `NormalEvent`, which is only sent at a high log level. -/
def normalEvent (vg : LVMVolumeGroup) (reason message : String) :
    Program sig Unit := do
  if !r.verbose then
    return
  match ← (Client.get .nodeStatus r.nodeName).run with
  | .ok _ => eventf r.nodeName false reason message
  | .error _ => pure ()
  ownerEvents false reason ("update on node " ++ r.key r.nodeName ++
    " in volume group " ++ r.key vg.name ++ ": " ++ message)
    vg.metadata.ownerReferences
  eventf vg.name false reason
    ("update on node " ++ r.key r.nodeName ++ ": " ++ message)

end Reconciler

/-! ## Status -/

/-- `hasExplicitDevicePaths`. -/
def hasExplicitDevicePaths (vg : LVMVolumeGroup) : Bool :=
  match vg.spec.deviceSelector with
  | none => false
  | some selector =>
      !selector.paths.isEmpty || !selector.optionalPaths.isEmpty

/-- The excluded devices of the status, without those that are excluded because
the volume group is set up. -/
def excludedDevices (devices : FilteredBlockDevices) : List ExcludedDevice :=
  let reported := devices.excluded.filterMap fun filtered =>
    if filtered.filterErrors.any isExpectedDeviceErrorAfterSetup then none
    else some {
      name := filtered.device.name
      reasons := (filtered.filterErrors.map GoError.error).insertionSort
        (fun left right => left ≤ right) : ExcludedDevice }
  reported.insertionSort fun left right => left.name ≤ right.name

/-- `setDevices`: the status with its devices, and whether there are any. -/
def setDevices
    (status : VGStatus)
    (vgs : List VolumeGroup)
    (devices : FilteredBlockDevices) : VGStatus × Bool :=
  let named := vgs.filter fun vg => status.name == vg.name && !vg.pvs.isEmpty
  ({ status with
      devices := match named.getLast? with
        | some vg => vg.pvs.map (·.pvName)
        | none => status.devices
      excluded := excludedDevices devices },
    !named.isEmpty)

/-- The policy the status reports. -/
def discoveryPolicyStatus (vg : LVMVolumeGroup) : DeviceDiscoveryPolicyStatus :=
  if hasExplicitDevicePaths vg then .preconfigured
  else match vg.spec.deviceDiscoveryPolicy with
    | none | some .dynamic => .runtimeDynamic
    | some .static => .runtimeStatic

/-- Replace the status of a volume group, or add it. -/
def putVGStatus (status : VGStatus) (entries : List VGStatus) :
    List VGStatus :=
  if entries.any (·.name == status.name) then
    entries.map fun old => if old.name == status.name then status else old
  else entries ++ [status]

/-- Remove the last status of a volume group. -/
def dropVGStatus (name : String) (entries : List VGStatus) : List VGStatus :=
  (entries.reverse.eraseP (·.name == name)).reverse

namespace Reconciler

variable (r : Reconciler)

/-- `applyRAIDStatus`. -/
def applyRAIDStatus
    (vg : LVMVolumeGroup)
    (config : RAIDConfig)
    (vgs : List VolumeGroup)
    (status : VGStatus) : Go VGStatus := do
  let report ← Fallible.mapError
    (GoError.wrapped "failed to list logical volumes for RAID status")
    (Lvm.listLVs vg.name)
  let pvs := match vgs.find? (·.name == vg.name) with
    | some existing => existing.pvs
    | none => []
  let raidStatus := buildRAIDStatus r.numerals report.flatten pvs config.type
  updateRAIDMetrics vg.name raidStatus
  match raidStatus with
  | none => return status
  | some raid =>
      return { status with
        raidStatus := some raid
        status := if raid.status = .healthy then status.status else .degraded }

/-- `setVolumeGroupStatus`. -/
def setVolumeGroupStatus (vg : LVMVolumeGroup) (status : VGStatus) :
    Go Bool := do
  let status := { status with
    deviceDiscoveryPolicy := discoveryPolicyStatus vg }
  let result ← Fallible.mapError
    (GoError.wrapped "LVMVolumeGroupNodeStatus could not be updated")
    (Client.createOrUpdate .nodeStatus { metadata := { name := r.nodeName } }
      fun nodeStatus => .ok { nodeStatus with
        metadata := nodeStatus.metadata.setOwnerReference vg.metadata
        lvmVGStatus := putVGStatus status nodeStatus.lvmVGStatus })
  return result ≠ .none

/-- The end that the three setters share: the RAID status and the update. -/
def finishStatus
    (vg : LVMVolumeGroup)
    (vgs : List VolumeGroup)
    (status : VGStatus) : Go Bool := do
  match vg.spec.raidConfig with
  | none => r.setVolumeGroupStatus vg status
  | some config =>
      let status ← Fallible.mapError
        (GoError.wrapped "failed to collect RAID status")
        (r.applyRAIDStatus vg config vgs status)
      r.setVolumeGroupStatus vg status

/-- `setVolumeGroupProgressingStatus`. -/
def setVolumeGroupProgressingStatus
    (vg : LVMVolumeGroup)
    (vgs : List VolumeGroup)
    (devices : FilteredBlockDevices) : Go Bool :=
  r.finishStatus vg vgs
    (setDevices { name := vg.name, status := .progressing } vgs devices).1

/-- `setVolumeGroupReadyStatus`. -/
def setVolumeGroupReadyStatus
    (vg : LVMVolumeGroup)
    (vgs : List VolumeGroup)
    (devices : FilteredBlockDevices) : Go Bool :=
  r.finishStatus vg vgs
    (setDevices { name := vg.name, status := .ready } vgs devices).1

/-- `setVolumeGroupFailedStatus`: degraded instead of failed while the volume
group has devices. -/
def setVolumeGroupFailedStatus
    (vg : LVMVolumeGroup)
    (vgs : List VolumeGroup)
    (devices : FilteredBlockDevices)
    (error : GoError) : Go Bool :=
  let (status, devicesExist) := setDevices
    { name := vg.name, status := .failed, reason := error.error } vgs devices
  r.finishStatus vg vgs
    (if devicesExist then { status with status := .degraded } else status)

/-- `setVolumeGroupFailedStatus` where its own error is only logged. -/
def reportFailure
    (vg : LVMVolumeGroup)
    (vgs : List VolumeGroup)
    (devices : FilteredBlockDevices)
    (error : GoError) : Program sig Unit := do
  let _ ← (r.setVolumeGroupFailedStatus vg vgs devices error).run

/-- `removeVolumeGroupStatus`. -/
def removeVolumeGroupStatus (vg : LVMVolumeGroup) : Go Unit := do
  if vg.spec.raidConfig.isSome then
    deleteRAIDMetrics vg.name
  let _ ← Fallible.mapError
    (Lvm.wrappedAt ("failed to create or update LVMVolumeGroupNodeStatus " ++
      r.nodeName ++ ", "))
    (Client.createOrUpdate .nodeStatus { metadata := { name := r.nodeName } }
      fun nodeStatus => .ok <|
        if nodeStatus.lvmVGStatus.any (·.name == vg.name) then
          { nodeStatus with
            metadata := { nodeStatus.metadata with
              ownerReferences := nodeStatus.metadata.ownerReferences.eraseP
                (·.uid == vg.metadata.uid) }
            lvmVGStatus := dropVGStatus vg.name nodeStatus.lvmVGStatus }
        else nodeStatus)

end Reconciler
end Lvms
