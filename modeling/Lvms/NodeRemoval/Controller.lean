import Lvms.Operator.Controller

/-!
# The node removal controller

The third controller watches the node statuses. When the node of a status does not exist
any more, it deletes the status and releases it, and then removes the cleanup finalizer
and the wiped annotation of the node from all volume groups.
-/

namespace Lvms.NodeRemoval

open Interaction

/-- The volume group without the finalizer and the annotation of a node, and whether one
of them was there. -/
def withoutNode (nodeName : String) (vg : LVMVolumeGroup) : LVMVolumeGroup × Bool :=
  let (metadata, needsUpdate) := vg.metadata.removeFinalizer (getFinalizer nodeName)
  let annotationKey := devicesWipedKey nodeName
  if metadata.annotations.has annotationKey then
    ({ vg with metadata := { metadata with
        annotations := metadata.annotations.delete annotationKey } }, true)
  else ({ vg with metadata }, needsUpdate)

/-- The body of the loop of `cleanupVolumeGroupsForNode`. -/
def cleanupVolumeGroup (nodeName : String) (vg : LVMVolumeGroup) : Go Unit := do
  let (cleaned, needsUpdate) := withoutNode nodeName vg
  if needsUpdate then
    let _ ← Fallible.mapError
      (GoError.wrapped ("failed to update LVMVolumeGroup " ++ vg.name))
      (Client.update .volumeGroup cleaned)

/-- `cleanupVolumeGroupsForNode`. -/
def cleanupVolumeGroupsForNode (nodeName : String) : Go Unit := do
  let volumeGroups ← Fallible.mapError
    (GoError.wrapped "failed to list LVMVolumeGroups")
    (Client.list .volumeGroup)
  forM volumeGroups (cleanupVolumeGroup nodeName)

/-- The part of `Reconcile` that deletes and releases the status of a removed node. The
update gives the version that was read before the deletion. -/
def releaseNodeStatus (nodeStatus : LVMVolumeGroupNodeStatus) : Go Unit := do
  Fallible.mapError
    (GoError.wrapped ("error deleting LVMVolumeGroupNodeStatus for Node " ++
      nodeStatus.metadata.name))
    (Client.delete .nodeStatus nodeStatus.metadata.name)
  match removeDeleteProtectionFinalizer nodeStatus with
  | none => return
  | some released =>
      let _ ← Fallible.mapError
        (GoError.wrapped "failed to remove finalizer from LVMVolumeGroupNodeStatus")
        (Client.update .nodeStatus released)

/-- The part of `Reconcile` for a node that does not exist. -/
def removeNode (nodeStatus : LVMVolumeGroupNodeStatus) : Go Result := do
  releaseNodeStatus nodeStatus
  Fallible.mapError
    (GoError.wrapped ("failed to clean up VolumeGroups for Node " ++
      nodeStatus.metadata.name))
    (cleanupVolumeGroupsForNode nodeStatus.metadata.name)
  return {}

/-- `Reconcile`, of the node status with a name. -/
def reconcile (name : String) : Go Result := do
  match ← (Client.get .nodeStatus name).attempt with
  | .error err =>
      if err.isNotFound then
        return {}
      throw err
  | .ok nodeStatus =>
      match ← (Client.get .node nodeStatus.metadata.name).attempt with
      | .ok _ => return {}
      | .error err =>
          if err.isNotFound then
            removeNode nodeStatus
          else
            throw (GoError.wrapped ("error retrieving fitting " ++
              "LVMVolumeGroupNodeStatus for Node " ++ nodeStatus.metadata.name) err)

end Lvms.NodeRemoval
