import Lvms.Operator.DaemonSet
import Lvms.VgManager.Controller

/-!
# The operator

The reconciliation of the cluster object: all resource managers run at the same
time, device classes that are gone are cleaned up, and the status is updated. The
deletion of the cluster waits for its users and removes one resource after the
other.
-/

namespace Lvms

open Interaction

/-- `lvmClusterFinalizer`. -/
def lvmClusterFinalizer : String := "lvmcluster.topolvm.io"

/-- The device class keeps the volumes of deleted claims. -/
def DeviceClass.retains (deviceClass : DeviceClass) : Bool :=
  (deviceClass.storageClassOptions.bind (·.reclaimPolicy)) == some .retain

/-- A manager whose objects no modelled function reads. -/
def otherManager (name : String) : Manager where
  getName := name
  ensureCreated _ := .ofProgram (call (.otherManager name))
  ensureDeleted _ := .ofProgram (call (.otherManager name))

namespace Operator

variable (r : Operator)

/-- `WarningEvent`. -/
def warningEvent (cluster : LVMCluster) (reason : String) (err : GoError) :
    Program sig Unit :=
  eventf cluster.metadata.name true reason err.error

/-- `NormalEvent`, which is only sent at a high log level. -/
def normalEvent (cluster : LVMCluster) (reason message : String) :
    Program sig Unit := do
  if r.verbose then
    eventf cluster.metadata.name false reason message

/-! ## Status -/

/-- The part of `updateLVMClusterStatus` about the volume groups. -/
def withVolumeGroupStatus (cluster : LVMCluster) : Go LVMCluster := do
  if cluster.spec.deviceClasses.isEmpty then
    return setVolumeGroupsReadyConditionUnmanaged cluster
  let vgNodeStatusList ← Fallible.mapError
    (GoError.wrapped "failed to list LVMVolumeGroupNodeStatus")
    (Client.list .nodeStatus)
  let nodes ← Fallible.mapError (GoError.wrapped "failed to list Nodes")
    (Client.list .node)
  let cluster := r.scheduling.setVolumeGroupsReadyCondition cluster nodes
    vgNodeStatusList
  let deviceClassStatuses ← computeDeviceClassStatuses vgNodeStatusList
  return { cluster with status := { cluster.status with deviceClassStatuses } }

/-- The cluster with the state that its conditions give. -/
def withReadiness (cluster : LVMCluster) : LVMCluster :=
  let (state, ready) := computeLVMClusterReadiness cluster.status.conditions
  { cluster with status := { cluster.status with state, ready } }

/-- `updateLVMClusterStatus`. -/
def updateLVMClusterStatus (cluster : LVMCluster) : Go Unit := do
  let cluster ← r.withVolumeGroupStatus cluster
  Fallible.mapError (GoError.wrapped "failed to update LVMCluster status")
    (Client.updateStatus (withReadiness cluster))

/-! ## Device classes that are gone -/

/-- Delete an object unless it is gone or being deleted; the first part of the
cleanup in `checkForDeletedDeviceClasses`. -/
def deleteIfPresent (kind : Kind) (getError deleteError name : String) : Go Unit := do
  match ← (Client.get kind name).attempt with
  | .error err =>
      if !err.isNotFound then
        throw (.wrap getError err "")
  | .ok existing =>
      if (kind.metadata existing).deletionTimestamp.isNone then
        Fallible.mapError (GoError.wrapped (deleteError ++ " " ++ name))
          (Client.delete kind name)

/-- The body of the loop of `checkForDeletedDeviceClasses`. -/
def deleteOrphan (currentVG : LVMVolumeGroup) : Go Unit := do
  deleteIfPresent .storageClass "failed to get storage class, "
    "failed to delete StorageClass" (getStorageClassName currentVG.name)
  if r.snapshotsEnabled then
    deleteIfPresent .volumeSnapshotClass "failed to get volume snapshot class: "
      "failed to delete VolumeSnapshotClass"
      (getVolumeSnapshotClassName currentVG.name)
  if currentVG.metadata.deletionTimestamp.isNone then
    Fallible.mapError
      (GoError.wrapped ("failed to delete orphaned LVMVolumeGroup " ++
        currentVG.name))
      (Client.delete .volumeGroup currentVG.name)

/-- The volume group belongs to the cluster and to none of its device classes. -/
def isOrphan (cluster : LVMCluster) (currentVG : LVMVolumeGroup) : Bool :=
  currentVG.metadata.isControlledBy cluster.metadata.uid &&
    !cluster.spec.deviceClasses.any (·.name == currentVG.name)

/-- `checkForDeletedDeviceClasses`. -/
def checkForDeletedDeviceClasses (cluster : LVMCluster) : Go Unit := do
  let currentVGs ← Fallible.mapError
    (GoError.wrapped "failed to list existing LVMVolumeGroups")
    (Client.list .volumeGroup)
  forM (currentVGs.filter (isOrphan cluster)) r.deleteOrphan

/-! ## Reconciliation -/

/-- The managers of `reconcile`. -/
def resources : List Manager :=
  [otherManager "networkPolicies", otherManager "topolvm-csi-driver", r.vgManager,
    r.lvmVGs, r.lvmVGNodeStatus, topoLVMStorageClass,
    otherManager "topolvm-csi-node-registrations",
    otherManager "lvms-operator-metrics-monitor"] ++
  (if r.clusterType = .openshift then [otherManager "topolvm-scc"] else []) ++
  (if r.snapshotsEnabled then [topoLVMVolumeSnapshotClass] else [])

/-- Run all managers at the same time. -/
@[irreducible] def createResources (cluster : LVMCluster) :
    Program sig (List (Except GoError Unit)) :=
  Program.interleaveAll .turn id
    (r.resources.map fun manager => (manager.ensureCreated cluster).run)

/-- The errors of the managers that failed. -/
def failures (results : List (Except GoError Unit)) : List GoError :=
  results.filterMap fun
    | .error err => some err
    | .ok () => none

/-- Add the finalizer; the object is then as the API server stored it. -/
def ensureFinalizer (cluster : LVMCluster) : Go LVMCluster := do
  let (metadata, updated) := cluster.metadata.addFinalizer lvmClusterFinalizer
  if updated then
    Fallible.mapError (GoError.wrapped "failed to update LvmCluster with finalizer")
      (Client.update .lvmCluster { cluster with metadata })
  else
    return cluster

/-- The end of `reconcile` when a manager failed. -/
def reportIncomplete (cluster : LVMCluster) (errs : GoError) : Go Result := do
  let err := GoError.wrapped
    "LVMCluster's resources are not yet fully synchronized" errs
  warningEvent cluster "ResourceReconciliationIncomplete" err
  let _ ← (r.updateLVMClusterStatus
    (setResourcesAvailableConditionFalse cluster err)).attempt
  throw err

/-- The end of `reconcile` when all managers succeeded. -/
def finishReconcile (cluster : LVMCluster) : Go Result := do
  Fallible.mapError (.wrap "failed to check for deleted device classes, " · "")
    (r.checkForDeletedDeviceClasses cluster)
  r.normalEvent cluster "ResourceReconciliationSuccess"
    "successfully reconciled LVMCluster"
  r.updateLVMClusterStatus (setResourcesAvailableConditionTrue cluster)
  return { requeue := true, requeueAfter := 60 }

/-- `reconcile`. -/
def reconcile (cluster : LVMCluster) : Go Result := do
  let cluster ← ensureFinalizer (setVolumeGroupsReadyConditionInProgress
    (setResourcesAvailableConditionInProgress cluster))
  let results ← r.createResources cluster
  match GoError.joinAll (failures results) with
  | some errs => r.reportIncomplete cluster errs
  | none => r.finishReconcile cluster

/-! ## Deletion of the cluster -/

/-- `clusterNodes`. -/
def clusterNodes : Go (List String) := do
  let nodes ← Fallible.mapError (GoError.wrapped "failed to get node list")
    (Client.list .node)
  return nodes.map (·.metadata.name)

/-- The inner loop of `checkStaleNodeFinalizers`, from a position on. The loop
ranges over the array of the finalizers while `RemoveFinalizer` shifts the
remaining ones to its front, so a finalizer can be passed over. -/
def removeStaleFinalizers
    (nodes : List String)
    (vg : LVMVolumeGroup)
    (array : List String) : List Nat → Go Unit
  | [] => return
  | position :: rest => do
      let finalizer := array.getD position ""
      let nodeName := stringsTrimPrefix finalizer (nodeCleanupFinalizer ++ "/")
      if !stringsHasPrefix finalizer nodeCleanupFinalizer ||
          nodes.contains nodeName then
        removeStaleFinalizers nodes vg array rest
      else
        let (metadata, _) := vg.metadata.removeFinalizer finalizer
        let remaining := metadata.finalizers
        let updated ← Fallible.mapError
          (GoError.wrapped ("failed to delete finalizer from volumegroup " ++
            vg.name ++ ", error"))
          (Client.update .volumeGroup { vg with metadata })
        removeStaleFinalizers nodes updated
          (remaining ++ array.drop remaining.length) rest

/-- `checkStaleNodeFinalizers`. -/
def checkStaleNodeFinalizers (nodes : List String) : Go Unit := do
  match ← (Client.list .volumeGroup).attempt with
  | .error err =>
      if !err.isNotFound then
        throw (GoError.wrapped "failed to list volume groups" err)
  | .ok volumeGroups =>
      forM volumeGroups fun vg =>
        removeStaleFinalizers nodes vg vg.metadata.finalizers
          (List.range vg.metadata.finalizers.length)

/-- The loop of `logicalVolumesExist`. -/
def releaseLogicalVolumes (nodes : List String) :
    List TopolvmLogicalVolume → Go Bool
  | [] => return false
  | logicalVolume :: rest => do
      if nodes.contains logicalVolume.nodeName then
        return true
      let (metadata, _) :=
        logicalVolume.metadata.removeFinalizer "topolvm.io/logicalvolume"
      let _ ← Fallible.mapError
        (GoError.wrapped ("failed to delete finalizer from logicalvolume " ++
          logicalVolume.metadata.name ++ ", error"))
        (Client.update .logicalVolume { logicalVolume with metadata })
      releaseLogicalVolumes nodes rest

/-- `logicalVolumesExist`. -/
def logicalVolumesExist (nodes : List String) : Go Bool := do
  let logicalVolumes ← Fallible.mapError
    (GoError.wrapped "failed to get TopoLVM LogicalVolume list")
    (Client.list .logicalVolume)
  releaseLogicalVolumes nodes logicalVolumes

/-- `activePVCsExistForClusterStorageClasses`, for some device classes. -/
def activePVCsExist : List DeviceClass → Go Bool
  | [] => return false
  | deviceClass :: rest => do
      let scName := getStorageClassName deviceClass.name
      let pvcs ← Fallible.mapError
        (GoError.wrapped ("failed to list PVCs for StorageClass " ++ scName))
        (Client.listPVCs scName)
      if !pvcs.isEmpty then
        return true
      activePVCsExist rest

/-- `retainPVsExistForCluster`, for some device classes. -/
def retainPVsExist : List DeviceClass → Go Bool
  | [] => return false
  | deviceClass :: rest => do
      if !deviceClass.retains then
        retainPVsExist rest
      else
        let scName := getStorageClassName deviceClass.name
        let pvs ← Fallible.mapError
          (GoError.wrapped ("failed to list PVs for StorageClass " ++ scName))
          (Client.listPVs scName)
        if !pvs.isEmpty then
          return true
        retainPVsExist rest

/-- The managers of `processDelete` that come after the node statuses. -/
def resourcesAfterStatuses : List Manager :=
  [topoLVMStorageClass, otherManager "topolvm-csi-driver",
    otherManager "topolvm-csi-node-registrations",
    otherManager "lvms-operator-metrics-monitor", otherManager "networkPolicies"] ++
  (if r.clusterType = .openshift then [otherManager "topolvm-scc"] else []) ++
  (if r.snapshotsEnabled then [topoLVMVolumeSnapshotClass] else [])

/-- The managers of `processDelete`, in the order of their deletion. -/
def resourceDeletionList : List Manager :=
  [r.lvmVGs, r.vgManager] ++ r.lvmVGNodeStatus :: r.resourcesAfterStatuses

/-- The body of the loop of `processDelete`. -/
def deleteResource (cluster : LVMCluster) (unit : Manager) : Go Unit := do
  match ← (unit.ensureDeleted cluster).attempt with
  | .ok () => return
  | .error err =>
      let err := GoError.wrapped ("failed cleaning up " ++ unit.getName) err
      warningEvent cluster "DeletionPending" err
      throw err

/-- The end of `processDelete`, after the resources. -/
def releaseCluster (cluster : LVMCluster) : Go Unit := do
  let (metadata, removed) := cluster.metadata.removeFinalizer lvmClusterFinalizer
  if removed then
    let _ ← Fallible.mapError
      (GoError.wrapped ("failed to remove finalizer from LVMCluster " ++
        cluster.metadata.name))
      (Client.update .lvmCluster { cluster with metadata })

/-- `processDelete`. -/
def processDelete (cluster : LVMCluster) : Go Unit := do
  if cluster.metadata.finalizers.contains lvmClusterFinalizer then
    forM r.resourceDeletionList (deleteResource cluster)
  releaseCluster cluster

/-- The end of a deletion that has to wait. -/
def waitForDeletion (cluster : LVMCluster) (found : String) : Go Result := do
  warningEvent cluster "DeletionPending" (.new found)
  return { requeueAfter := 10 }

/-- The end of `Reconcile` for a deleted cluster whose gates are open. An error is
only logged. -/
def finishDeletion (cluster : LVMCluster) : Go Result := do
  match ← (r.processDelete cluster).attempt with
  | .ok () => return {}
  | .error _ => return { requeueAfter := 10 }

/-- The part of `Reconcile` for a deleted cluster. -/
def reconcileDeleted (cluster : LVMCluster) : Go Result := do
  let nodes ← Fallible.mapError (GoError.wrapped "failed to get unhealthy nodes")
    clusterNodes
  Fallible.mapError (GoError.wrapped "failed to check for deleted nodes")
    (checkStaleNodeFinalizers nodes)
  let _ ← Fallible.mapError (GoError.wrapped "failed to check LogicalVolumes")
    (logicalVolumesExist nodes)
  if ← Fallible.mapError (GoError.wrapped "failed to check for active PVCs")
      (activePVCsExist cluster.spec.deviceClasses) then
    waitForDeletion cluster
      "found PVCs provisioned by LVMS, waiting 10s for their deletion"
  else if ← Fallible.mapError (GoError.wrapped "failed to check for Retain PVs")
      (retainPVsExist cluster.spec.deviceClasses) then
    waitForDeletion cluster
      "found PVs with Retain policy from LVMS, waiting 10s for manual cleanup"
  else
    r.finishDeletion cluster

/-- `setRunningPodImage`: the operator with the image of its own pod. -/
def setRunningPodImage : Go Operator := do
  if r.imageName ≠ "" then
    return r
  if r.podName = "" then
    throw (.new ("failed to get pod name env variable, NAME env variable is not " ++
      "set"))
  let pod ← Fallible.mapError
    (GoError.wrapped ("failed to get pod " ++ r.podName))
    (Client.get .pod r.podName)
  match pod.images.get? "manager" with
  | some image => return { r with imageName := image }
  | none => throw (.new ("failed to get container image for manager in pod " ++
      r.podName))

/-- `Reconcile`, of the cluster with a name. -/
def reconcileRequest (name : String) : Go Result := do
  let clusters ← Fallible.mapError
    (GoError.wrapped "failed to list LVMCluster instances")
    (Client.list .lvmCluster)
  if 1 < clusters.length then
    throw (.new ("there should be a single LVMCluster but multiple were found, " ++
      toString clusters.length ++ " clusters found"))
  match ← (Client.get .lvmCluster name).attempt with
  | .error err =>
      if err.isNotFound then
        return {}
      throw err
  | .ok cluster =>
      let r ← Fallible.mapError
        (GoError.wrapped "failed to introspect running pod image")
        r.setRunningPodImage
      if cluster.metadata.deletionTimestamp.isSome then
        r.reconcileDeleted cluster
      else
        r.reconcile cluster

end Operator
end Lvms
