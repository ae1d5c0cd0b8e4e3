import Lvms.Client
import Lvms.Operator.Status

/-!
# Resource managers

Each manager of the operator keeps the objects of one kind in line with the
cluster, and removes them when the cluster is deleted. Managers whose objects no
other function reads are calls that succeed or fail.
-/

namespace Lvms

open Interaction

/-- `cluster.Type`. -/
inductive ClusterType
  | openshift | other | microShift
  deriving DecidableEq, Repr

/-- The operator: the `Reconciler` of the cluster, with its configuration. -/
structure Operator where
  ns : String := "openshift-lvm-storage"
  clusterType : ClusterType := .openshift
  snapshotsEnabled : Bool := true
  /-- `ImageName`, which is looked up while it is empty. -/
  imageName : String := ""
  /-- The `NAME` variable of the environment. -/
  podName : String := ""
  vgManagerCommand : List String := []
  /-- The options that set the log level of the vg-manager. -/
  vgManagerArgs : List String := []
  scheduling : Scheduling
  /-- The log level at which normal events are sent. -/
  verbose : Bool := false

/-- `resource.Manager`. -/
structure Manager where
  getName : String
  ensureCreated : LVMCluster → Go Unit
  ensureDeleted : LVMCluster → Go Unit

/-- `fmt.Errorf("%s failed to reconcile: %w", name, err)`. -/
def failedToReconcile (name : String) : GoError → GoError :=
  GoError.wrapped (name ++ " failed to reconcile")

/-! ## Volume groups -/

/-- `legacyVGFinalizer`. -/
def legacyVGFinalizer : String := "lvm.openshift.io/lvmvolumegroup"

/-- The volume group of a device class. A single device class is the default. -/
def lvmVolumeGroup
    (ns : String)
    (deviceClasses : List DeviceClass)
    (deviceClass : DeviceClass) : LVMVolumeGroup where
  metadata := { name := deviceClass.name, inNamespace := ns }
  spec := {
    nodeSelector := deviceClass.nodeSelector
    deviceSelector := deviceClass.deviceSelector
    thinPoolConfig := deviceClass.thinPoolConfig
    raidConfig := deviceClass.raidConfig
    default := deviceClasses.length = 1 || deviceClass.default
    deviceDiscoveryPolicy := deviceClass.deviceDiscoveryPolicy }

/-- `lvmVolumeGroups`. -/
def lvmVolumeGroups (ns : String) (deviceClasses : List DeviceClass) :
    List LVMVolumeGroup :=
  deviceClasses.map (lvmVolumeGroup ns deviceClasses)

/-- The change that `lvmVG.EnsureCreated` makes to a volume group. -/
def updateVolumeGroup (desired existing : LVMVolumeGroup) : LVMVolumeGroup where
  metadata := (existing.metadata.removeFinalizer legacyVGFinalizer).1
  spec := desired.spec

/-- The body of the loop of `lvmVG.EnsureCreated`. The reference to the cluster is
set on a new object only: an existing one replaces it when it is read. -/
def applyVolumeGroup (lvmCluster : LVMCluster) (volumeGroup : LVMVolumeGroup) :
    Go Unit := do
  let metadata ← Fallible.mapError
    (GoError.wrapped "failed to set controller reference to LVMVolumeGroup")
    (.ofProgram (pure (volumeGroup.metadata.setControllerReference
      lvmCluster.metadata)))
  let _ ← Fallible.mapError (failedToReconcile "lvmvg-manager")
    (Client.createOrUpdate .volumeGroup { metadata, spec := {} } fun existing =>
      .ok (updateVolumeGroup volumeGroup existing))

/-- The body of the loop of `lvmVG.EnsureDeleted`: whether the volume group is still
there. -/
def deleteVolumeGroupObject (volumeGroup : LVMVolumeGroup) : Go Bool := do
  match ← (Client.get .volumeGroup volumeGroup.name).attempt with
  | .error err =>
      if err.isNotFound then
        return false
      throw err
  | .ok existing =>
      if existing.metadata.deletionTimestamp.isNone then
        Fallible.mapError
          (GoError.wrapped ("failed to delete LVMVolumeGroup " ++ existing.name))
          (Client.delete .volumeGroup existing.name)
      return true

/-- The loop of `lvmVG.EnsureDeleted`: the names of the volume groups that are still
there. -/
def volumeGroupsPendingDelete (ns : String) :
    List LVMVolumeGroup → Go (List String)
  | [] => return []
  | volumeGroup :: rest => do
      let pending ← deleteVolumeGroupObject volumeGroup
      let others ← volumeGroupsPendingDelete ns rest
      return if pending then (ns ++ "/" ++ volumeGroup.name) :: others else others

/-- `resource.LVMVGs`. -/
def Operator.lvmVGs (r : Operator) : Manager where
  getName := "lvmvg-manager"
  ensureCreated lvmCluster :=
    forM (lvmVolumeGroups r.ns lvmCluster.spec.deviceClasses)
      (applyVolumeGroup lvmCluster)
  ensureDeleted lvmCluster := do
    let pending ← volumeGroupsPendingDelete r.ns
      (lvmVolumeGroups r.ns lvmCluster.spec.deviceClasses)
    if !pending.isEmpty then
      throw (.new ("waiting for LVMVolumeGroup's to be removed of " ++
        lvmCluster.metadata.inNamespace ++ "/" ++ lvmCluster.metadata.name ++ ": " ++
        goList pending))

/-! ## Node statuses -/

/-- `constants.DeleteProtectionFinalizer`. -/
def deleteProtectionFinalizer : String := "delete-protection.lvm.openshift.io"

/-- The change that `lvmVGNodeStatus.EnsureCreated` makes to a node status. -/
def updateNodeStatus (cluster : LVMCluster) (status : LVMVolumeGroupNodeStatus) :
    Except GoError LVMVolumeGroupNodeStatus := do
  let metadata ← Except.mapError
    (GoError.wrapped "failed to set controller reference")
    (status.metadata.setControllerReference cluster.metadata)
  return { status with
    metadata := (metadata.addFinalizer deleteProtectionFinalizer).1 }

/-- `removeDeleteProtectionFinalizer`: the finalizer is removed once. -/
def removeDeleteProtectionFinalizer (status : LVMVolumeGroupNodeStatus) :
    Option LVMVolumeGroupNodeStatus :=
  if status.metadata.finalizers.contains deleteProtectionFinalizer then
    some { status with metadata := { status.metadata with
      finalizers := status.metadata.finalizers.erase deleteProtectionFinalizer } }
  else none

/-- The part of `deleteNodeStatus` that removes the finalizer. -/
def releaseNodeStatus (status : LVMVolumeGroupNodeStatus) : Go Unit :=
  match removeDeleteProtectionFinalizer status with
  | none => return
  | some released => do
      let _ ← Fallible.mapError
        (GoError.wrapped ("failed to remove finalizer from " ++
          "LVMVolumeGroupNodeStatus"))
        (Client.update .nodeStatus released)

/-- `deleteNodeStatus`. -/
def deleteNodeStatus (status : LVMVolumeGroupNodeStatus) : Go Unit := do
  if status.metadata.deletionTimestamp.isNone then
    Fallible.mapError
      (GoError.wrapped ("failed to delete LVMVolumeGroupNodeStatus " ++
        status.metadata.name))
      (Client.delete .nodeStatus status.metadata.name)
  releaseNodeStatus status

/-- An optional error at the end of a function. -/
def throwIfSome (err : Option GoError) : Go Unit :=
  match err with
  | some err => throw err
  | none => pure ()

/-- `resource.LVMVGNodeStatus`. -/
def Operator.lvmVGNodeStatus (r : Operator) : Manager where
  getName := "lvmvgnodestatus"
  ensureCreated cluster := do
    let nodes ← Fallible.mapError (GoError.wrapped "failed to list nodes")
      (Client.list .node)
    let (validNodes, err) := r.scheduling.validNodes cluster nodes
    forM validNodes fun node => do
      let _ ← Fallible.mapError (failedToReconcile "lvmvgnodestatus")
        (Client.createOrUpdate .nodeStatus
          { metadata := { name := node.metadata.name, inNamespace := r.ns } }
          (updateNodeStatus cluster))
    throwIfSome err
  ensureDeleted cluster := do
    let statuses ← Fallible.mapError
      (GoError.wrapped "failed to list LVMVolumeGroupNodeStatus")
      (Client.list .nodeStatus)
    let nodes ← Fallible.mapError (GoError.wrapped "failed to list nodes")
      (Client.list .node)
    let (validNodes, err) := r.scheduling.validNodes cluster nodes
    forM (statuses.filter fun status =>
        validNodes.any fun node => status.metadata.name == node.metadata.name)
      deleteNodeStatus
    throwIfSome err

/-! ## Storage classes -/

/-- `defaultSCAnnotation`. -/
def defaultSCKey : String := "storageclass.kubernetes.io/is-default-class"

/-- `constants.TopolvmCSIDriverName`. -/
def topolvmCSIDriverName : String := "topolvm.io"

/-- The labels of the objects of an owner. -/
def managedLabels (owner : ObjectMeta) : StringMap :=
  [("owned-by.topolvm.io/name", owner.name),
    ("owned-by.topolvm.io/namespace", owner.inNamespace),
    ("owned-by.topolvm.io/uid", owner.uid),
    ("owned-by.topolvm.io/group", "lvm.topolvm.io"),
    ("owned-by.topolvm.io/version", "v1alpha1"),
    ("owned-by.topolvm.io/kind", "LVMCluster")]

/-- `labels.SetManagedLabels`. -/
def setManagedLabels (labels : StringMap) (owner : ObjectMeta) : StringMap :=
  (managedLabels owner).foldl (fun labels entry => labels.set entry.1 entry.2) labels

/-- The storage class of a device class. -/
def topolvmStorageClass
    (lvmCluster : LVMCluster)
    (deviceClass : DeviceClass)
    (isDefault : Bool) : StorageClass :=
  let options := deviceClass.storageClassOptions
  let additional : StringMap := (options.map (·.additionalParameters)).getD []
  { metadata := {
      name := getStorageClassName deviceClass.name
      annotations := [
        ("description", "Provides RWO and RWOP Filesystem & Block volumes"),
        (defaultSCKey, if isDefault then "true" else "false")]
      labels := setManagedLabels ((options.map (·.additionalLabels)).getD [])
        lvmCluster.metadata }
    provisioner := topolvmCSIDriverName
    reclaimPolicy := some ((options.bind (·.reclaimPolicy)).getD .delete)
    volumeBindingMode :=
      some ((options.bind (·.volumeBindingMode)).getD .waitForFirstConsumer)
    allowVolumeExpansion := true
    -- The keys of LVMS come last, so that they cannot be overwritten.
    parameters := (additional.set deviceClassKey deviceClass.name).set fsTypeKey
      (fstypeText deviceClass.filesystemType) }

/-- The loop of `getTopolvmStorageClasses`, with the name of the default storage
class so far. The first default device class of a cluster without a default storage
class becomes it. -/
def storageClassesOf
    (lvmCluster : LVMCluster)
    (setDefaultStorageClass : Bool)
    (defaultStorageClassName : String) : List DeviceClass → List StorageClass
  | [] => []
  | deviceClass :: rest =>
      let scName := getStorageClassName deviceClass.name
      let isDefault := deviceClass.default && setDefaultStorageClass &&
        (defaultStorageClassName == "" || defaultStorageClassName == scName)
      topolvmStorageClass lvmCluster deviceClass isDefault ::
        storageClassesOf lvmCluster setDefaultStorageClass
          (if isDefault then scName else defaultStorageClassName) rest

/-- `getTopolvmStorageClasses`. -/
def getTopolvmStorageClasses (lvmCluster : LVMCluster) :
    Program sig (List StorageClass) := do
  match ← (Client.list .storageClass).run with
  | .error _ =>
      return storageClassesOf lvmCluster false "" lvmCluster.spec.deviceClasses
  | .ok scList =>
      let current := scList.find? fun sc =>
        sc.metadata.annotations.get? defaultSCKey == some "true"
      return storageClassesOf lvmCluster true
        ((current.map (·.metadata.name)).getD "") lvmCluster.spec.deviceClasses

/-- The body of the loops that delete the classes of a cluster: an object that is
being deleted is waited for. -/
def deleteClass (kind : Kind) (kindName errorName name : String) : Go Unit := do
  match ← (Client.get kind name).attempt with
  | .error err =>
      if err.isNotFound then
        return
      throw err
  | .ok existing =>
      if (kind.metadata existing).deletionTimestamp.isSome then
        throw (.new ("the " ++ kindName ++ " " ++ name ++
          " is still present, waiting for deletion"))
      Fallible.mapError
        (GoError.wrapped ("failed to delete " ++ errorName ++ " " ++ name))
        (Client.delete kind name)

/-- `resource.TopoLVMStorageClass`. -/
def topoLVMStorageClass : Manager where
  getName := "topolvm-storageclass"
  ensureCreated cluster := do
    let topolvmStorageClasses ← getTopolvmStorageClasses cluster
    forM topolvmStorageClasses fun sc =>
      Fallible.mapError
        (GoError.wrapped ("topolvm-storageclass failed to reconcile StorageClass " ++
          sc.metadata.name))
        (Client.applyStorageClass sc)
  ensureDeleted lvmCluster :=
    forM lvmCluster.spec.deviceClasses fun deviceClass =>
      deleteClass .storageClass "StorageClass" "StorageClass"
        (getStorageClassName deviceClass.name)

/-- `getTopolvmSnapshotClasses`. -/
def getTopolvmSnapshotClasses (lvmCluster : LVMCluster) : List VolumeSnapshotClass :=
  lvmCluster.spec.deviceClasses.filterMap fun deviceClass =>
    if deviceClass.thinPoolConfig.isNone then none
    else some { metadata := { name := getVolumeSnapshotClassName deviceClass.name } }

/-- `resource.TopoLVMVolumeSnapshotClass`. -/
def topoLVMVolumeSnapshotClass : Manager where
  getName := "topolvm-volumeSnapshotClass"
  ensureCreated cluster :=
    forM (getTopolvmSnapshotClasses cluster) fun vsc => do
      let _ ← Fallible.mapError (failedToReconcile "topolvm-volumeSnapshotClass")
        (Client.createOrUpdate .volumeSnapshotClass vsc fun existing => .ok
          { existing with metadata := { existing.metadata with
              labels := setManagedLabels existing.metadata.labels
                cluster.metadata } })
  ensureDeleted lvmCluster :=
    forM lvmCluster.spec.deviceClasses fun deviceClass =>
      deleteClass .volumeSnapshotClass "VolumeSnapshotClass"
        "topolvm VolumeSnapshotClass" (getVolumeSnapshotClassName deviceClass.name)

end Lvms
