import Lvms.Client
import Lvms.VgManager.Wipe

/-!
# The migration to wiped annotations

Earlier releases wiped devices without a record on the volume group. At every start
the operator therefore adds the annotation that a node has wiped the devices to the
volume groups that are to be wiped by force and that have an entry in the status of the
node.
-/

namespace Lvms.WipeRefactor

open Interaction

/-- The volume group is to be wiped by force. -/
def wipingEnabled (vg : LVMVolumeGroup) : Bool :=
  match vg.spec.deviceSelector with
  | none => false
  | some selector => selector.forceWipeDevicesAndDestroyAllData == some true

/-- The loop over the entries of the status of a node, with the volume group and
whether it has been changed so far. -/
def annotateForEntries (nodeName : String) :
    List VGStatus → LVMVolumeGroup → Bool → Program sig (LVMVolumeGroup × Bool)
  | [], volumeGroup, updated => return (volumeGroup, updated)
  | vgStatus :: rest, volumeGroup, updated => do
      if vgStatus.name = volumeGroup.name ∧ wipingEnabled volumeGroup = true then
        let time ← now
        annotateForEntries nodeName rest (annotatedAsWiped nodeName time volumeGroup)
          true
      else
        annotateForEntries nodeName rest volumeGroup updated

/-- The loop over the statuses of the nodes. -/
def annotateForNodes :
    List LVMVolumeGroupNodeStatus → LVMVolumeGroup → Bool →
      Program sig (LVMVolumeGroup × Bool)
  | [], volumeGroup, updated => return (volumeGroup, updated)
  | nodeStatus :: rest, volumeGroup, updated => do
      let (volumeGroup, updated) ← annotateForEntries nodeStatus.metadata.name
        nodeStatus.lvmVGStatus volumeGroup updated
      annotateForNodes rest volumeGroup updated

/-- The body of the loop over the volume groups. -/
def annotateVolumeGroup
    (nodeStatuses : List LVMVolumeGroupNodeStatus)
    (volumeGroup : LVMVolumeGroup) : Go Unit := do
  let (volumeGroup, updated) ← annotateForNodes nodeStatuses volumeGroup false
  if updated then
    let _ ← Fallible.mapError
      (GoError.wrapped "failed to add wiped annotation to LVMVolumeGroup instance")
      (Client.update .volumeGroup volumeGroup)

/-- `AnnotateExistingLVMVolumeGroupsIfWipingEnabled`. -/
def annotateExistingLVMVolumeGroupsIfWipingEnabled : Go Unit := do
  let nodeStatuses ← Fallible.mapError
    (GoError.wrapped "failed to list LVMVolumeGroupNodeStatus instances")
    (Client.list .nodeStatus)
  if nodeStatuses.isEmpty then
    return
  let volumeGroups ← Fallible.mapError
    (GoError.wrapped "failed to list LVMVolumeGroup instances")
    (Client.list .volumeGroup)
  if volumeGroups.isEmpty then
    return
  forM volumeGroups (annotateVolumeGroup nodeStatuses)

end Lvms.WipeRefactor
