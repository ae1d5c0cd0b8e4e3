import Lvms.Operator.Selector
import Lvms.World
import Lvms.Interaction.Checks

/-!
# Status of the cluster

The operator summarises the state of its resources and of the volume groups on
all nodes in two conditions, and computes the state of the cluster from them.
-/

namespace Lvms

open Interaction

/-! ## Conditions -/

/-- `lvmv1alpha1.ResourcesAvailable`. -/
def resourcesAvailable : String := "ResourcesAvailable"

/-- `lvmv1alpha1.VolumeGroupsReady`. -/
def volumeGroupsReady : String := "VolumeGroupsReady"

def reasonReconciliationInProgress : String := "ReconciliationInProgress"
def reasonResourcesAvailable : String := "ResourcesAvailable"
def reasonResourcesIncomplete : String := "ResourcesSyncIncomplete"
def reasonVGReadinessInProgress : String := "VGReadinessInProgress"
def reasonVGsFailed : String := "VGsFailed"
def reasonVGsDegraded : String := "VGsDegraded"
def reasonVGsReady : String := "VGsReady"
def reasonVGsUnmanaged : String := "VGsUnmanaged"

/-- `meta.SetStatusCondition`: replace the first condition of the type, or add
one. -/
def setStatusCondition (condition : Condition) : List Condition → List Condition
  | [] => [condition]
  | old :: rest =>
      if old.type = condition.type then condition :: rest
      else old :: setStatusCondition condition rest

/-- Set a condition of a cluster. -/
def LVMCluster.setCondition (cluster : LVMCluster) (condition : Condition) :
    LVMCluster :=
  { cluster with status := { cluster.status with
      conditions := setStatusCondition condition cluster.status.conditions } }

/-- `setResourcesAvailableConditionTrue`. -/
def setResourcesAvailableConditionTrue (cluster : LVMCluster) : LVMCluster :=
  cluster.setCondition {
    type := resourcesAvailable
    status := true
    reason := reasonResourcesAvailable
    message := "Reconciliation is complete and all the resources are available" }

/-- `setResourcesAvailableConditionFalse`. -/
def setResourcesAvailableConditionFalse
    (cluster : LVMCluster)
    (resourceSyncError : GoError) : LVMCluster :=
  cluster.setCondition {
    type := resourcesAvailable
    status := false
    reason := reasonResourcesIncomplete
    message := "Resources have not yet been fully synced to the cluster: " ++
      resourceSyncError.error }

/-- `setResourcesAvailableConditionInProgress`. -/
def setResourcesAvailableConditionInProgress (cluster : LVMCluster) : LVMCluster :=
  cluster.setCondition {
    type := resourcesAvailable
    status := false
    reason := reasonReconciliationInProgress
    message := "Reconciliation is still in progress" }

/-- `setVolumeGroupsReadyConditionTrue`. -/
def setVolumeGroupsReadyConditionTrue (cluster : LVMCluster) : LVMCluster :=
  cluster.setCondition {
    type := volumeGroupsReady
    status := true
    reason := reasonVGsReady
    message := "All the VGs are ready" }

/-- `setVolumeGroupsReadyConditionFailed`. -/
def setVolumeGroupsReadyConditionFailed (cluster : LVMCluster) : LVMCluster :=
  cluster.setCondition {
    type := volumeGroupsReady
    status := false
    reason := reasonVGsFailed
    message := "One or more VGs are failed" }

/-- `setVolumeGroupsReadyConditionDegraded`. -/
def setVolumeGroupsReadyConditionDegraded (cluster : LVMCluster) : LVMCluster :=
  cluster.setCondition {
    type := volumeGroupsReady
    status := false
    reason := reasonVGsDegraded
    message := "One or more VGs are degraded" }

/-- `setVolumeGroupsReadyConditionInProgress`. -/
def setVolumeGroupsReadyConditionInProgress (cluster : LVMCluster) : LVMCluster :=
  cluster.setCondition {
    type := volumeGroupsReady
    status := false
    reason := reasonVGReadinessInProgress
    message := "VG readiness check is still in progress" }

/-- `setVolumeGroupsReadyConditionUnmanaged`. -/
def setVolumeGroupsReadyConditionUnmanaged (cluster : LVMCluster) : LVMCluster :=
  cluster.setCondition {
    type := volumeGroupsReady
    status := true
    reason := reasonVGsUnmanaged
    message := "VGs are unmanaged and not part of the LVMCluster, but the " ++
      "manager is running" }

/-- `translateReasonToState`. -/
def translateReasonToState (reason : String) (currentState : LVMStateType) :
    LVMStateType :=
  if reason = reasonVGsFailed then .failed
  else if reason = reasonVGsDegraded then
    if currentState ≠ .failed then .degraded else currentState
  else if reason = reasonReconciliationInProgress ∨
      reason = reasonVGReadinessInProgress ∨ reason = reasonResourcesIncomplete then
    if currentState ≠ .failed ∧ currentState ≠ .degraded then .progressing
    else currentState
  else if reason = reasonResourcesAvailable ∨ reason = reasonVGsReady ∨
      reason = reasonVGsUnmanaged then
    -- Only a state without any problem so far becomes ready.
    if currentState ∈ [.failed, .degraded, .progressing] then currentState
    else .ready
  else .unknown

/-- `computeLVMClusterReadiness`. -/
def computeLVMClusterReadiness (conditions : List Condition) :
    LVMStateType × Bool :=
  let state := conditions.foldl
    (fun state condition => translateReasonToState condition.reason state) .unknown
  (state, state = .ready)

/-! ## Device classes -/

/-- The text of a state of a volume group. -/
def VGStatusType.string : VGStatusType → String
  | .progressing => "Progressing"
  | .ready => "Ready"
  | .failed => "Failed"
  | .degraded => "Degraded"

/-- The map that `computeDeviceClassStatuses` fills: the states of each volume
group on the nodes. -/
def vgNodeMap (vgNodeStatusList : List LVMVolumeGroupNodeStatus) :
    GoMap (List NodeStatus) :=
  vgNodeStatusList.foldl (fun entries nodeItem =>
    nodeItem.lvmVGStatus.foldl (fun entries item =>
      entries.set item.name ((entries.get? item.name).getD [] ++
        [{ node := nodeItem.metadata.name, vgStatus := item }])) entries) []

/-- `computeDeviceClassStatuses`; the order is that of a map. -/
def computeDeviceClassStatuses
    (vgNodeStatusList : List LVMVolumeGroupNodeStatus) :
    Program sig (List DeviceClassStatus) := do
  let entries := vgNodeMap vgNodeStatusList
  let names ← mapOrder entries.keys
  return names.map fun name =>
    { name, nodeStatus := (entries.get? name).getD [] }

namespace Scheduling

variable (scheduling : Scheduling)

/-- `isNodeValid`. -/
def isNodeValid
    (node : Node)
    (cluster : LVMCluster)
    (deviceClass : DeviceClass) : Except GoError Bool :=
  match scheduling.toleratesAllTaints cluster.spec.tolerations node.taints with
  | (_, some err) => .error err
  | (false, none) => .ok false
  | (true, none) =>
      match deviceClass.nodeSelector with
      | none => .ok true
      | some selector =>
          match scheduling.matchNodeSelectorTerms node selector with
          | .error err =>
              .error (.new ("error matching node selector terms: " ++ err.error))
          | .ok found => .ok found

end Scheduling

/-- The part of `validateDeviceClassSetup` about one valid node of a device class:
its status has the volume group in the ready state. -/
def checkNodeStatus
    (nodeStatusList : List LVMVolumeGroupNodeStatus)
    (deviceClass : DeviceClass)
    (node : Node) : Except GoError Unit :=
  match nodeStatusList.find? (node.metadata.name == ·.metadata.name) with
  | none => .error (.new ("no node status found for node " ++ node.metadata.name ++
      ",that is part of the expected nodes for device class " ++ deviceClass.name))
  | some nodeStatus =>
      match nodeStatus.lvmVGStatus.find? (·.name == deviceClass.name) with
      | none => .error (.new ("no VGStatus found for VG " ++ deviceClass.name ++
          " on node " ++ node.metadata.name ++
          ",that is part of the expected nodes for device class " ++
          deviceClass.name))
      | some vgStatus =>
          -- The source gives the state where the message names the node.
          failIf (vgStatus.status != .ready)
            (.new ("VG " ++ deviceClass.name ++ " on node " ++
              vgStatus.status.string ++ " is not in ready state (" ++
              node.metadata.name ++
              "),that is part of the expected nodes for device class " ++
              deviceClass.name))

namespace Scheduling

variable (scheduling : Scheduling)

/-- The inner loop of `validateDeviceClassSetup`; the flag says whether a valid
node has been found. -/
def checkDeviceClassNodes
    (cluster : LVMCluster)
    (nodeStatusList : List LVMVolumeGroupNodeStatus)
    (deviceClass : DeviceClass)
    (validNodeExists : Bool) : List Node → Except GoError Bool
  | [] => return validNodeExists
  | node :: rest => do
      if ← scheduling.isNodeValid node cluster deviceClass then
        checkNodeStatus nodeStatusList deviceClass node
        checkDeviceClassNodes cluster nodeStatusList deviceClass true rest
      else
        checkDeviceClassNodes cluster nodeStatusList deviceClass validNodeExists rest

/-- `validateDeviceClassSetup`. -/
def validateDeviceClassSetup
    (cluster : LVMCluster)
    (nodes : List Node)
    (nodeStatusList : List LVMVolumeGroupNodeStatus) : Except GoError Unit :=
  forM cluster.spec.deviceClasses fun deviceClass => do
    let validNodeExists ← scheduling.checkDeviceClassNodes cluster nodeStatusList
      deviceClass false nodes
    failIf (!validNodeExists)
      (.new ("no valid node found for device class " ++ deviceClass.name))

/-- `setVolumeGroupsReadyCondition`. -/
def setVolumeGroupsReadyCondition
    (cluster : LVMCluster)
    (nodes : List Node)
    (vgNodeStatusList : List LVMVolumeGroupNodeStatus) : LVMCluster :=
  match scheduling.validateDeviceClassSetup cluster nodes vgNodeStatusList with
  | .ok () => setVolumeGroupsReadyConditionTrue cluster
  | .error _ =>
      let listed := vgNodeStatusList.flatMap (·.lvmVGStatus)
      if listed.any (·.status == .failed) then
        setVolumeGroupsReadyConditionFailed cluster
      else if listed.any (·.status == .degraded) then
        setVolumeGroupsReadyConditionDegraded cluster
      else cluster

end Scheduling
end Lvms
