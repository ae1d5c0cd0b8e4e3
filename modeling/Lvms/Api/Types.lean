import Lvms.Api.Error
import Mathlib.Data.Rat.Defs

/-!
# The custom resources and the Kubernetes objects around them

The types of `api/v1alpha1`, and of the core objects that the controllers read
and write, with the fields that some modelled function uses. Enumerations that
the schema closes are inductive types; optional fields are options.
-/

namespace Lvms

/-- A Go map with string keys. -/
abbrev GoMap (α : Type) := List (String × α)

/-- A Go `map[string]string`. -/
abbrev StringMap := GoMap String

namespace GoMap

variable {α : Type}
variable {key other : String}

/-- `m[key]` with its presence. -/
def get? (entries : GoMap α) (key : String) : Option α :=
  List.lookup key entries

/-- `m[key] = value`. -/
def set (key : String) (value : α) : GoMap α → GoMap α
  | [] => [(key, value)]
  | (other, old) :: rest =>
      if other == key then (key, value) :: rest
      else (other, old) :: set key value rest

/-- `delete(m, key)`. -/
def delete (key : String) (entries : GoMap α) : GoMap α :=
  entries.filter (·.1 != key)

/-- `_, ok := m[key]`. -/
def has (entries : GoMap α) (key : String) : Bool :=
  (entries.get? key).isSome

/-- The keys of a map. -/
def keys (entries : GoMap α) : List String :=
  entries.map Prod.fst

theorem get?_set_self (key : String) (value : α) (entries : GoMap α) :
    (entries.set key value).get? key = some value := by
  induction entries with
  | nil => simp [set, get?]
  | cons entry rest inductionHypothesis =>
      obtain ⟨other, old⟩ := entry
      rw [set]
      split
      · simp [get?]
      · rename_i different
        have unequal : (key == other) = false := by
          rw [beq_eq_false_iff_ne]
          rintro rfl
          exact different (beq_self_eq_true key)
        simpa [get?, List.lookup_cons, unequal] using inductionHypothesis

theorem get?_set_other
    (value : α)
    (entries : GoMap α)
    (different : other ≠ key) :
    (entries.set key value).get? other = entries.get? other := by
  have unequal : (other == key) = false := beq_eq_false_iff_ne.mpr different
  induction entries with
  | nil => simp [set, get?, List.lookup_cons, unequal]
  | cons entry rest inductionHypothesis =>
      obtain ⟨first, old⟩ := entry
      rw [set]
      split
      · rename_i same
        obtain rfl := eq_of_beq same
        simp [get?, List.lookup_cons, unequal]
      · simp only [get?, List.lookup_cons] at inductionHypothesis ⊢
        rw [inductionHypothesis]

theorem has_set_iff
    {value : α}
    {entries : GoMap α} :
    (entries.set key value).has other = true ↔
      entries.has other = true ∨ other = key := by
  by_cases same : other = key
  · simp [has, same, get?_set_self]
  · simp [has, same, get?_set_other _ _ same]

theorem has_set_of_has
    {value : α}
    {entries : GoMap α}
    (there : entries.has other = true) :
    (entries.set key value).has other = true :=
  has_set_iff.mpr (.inl there)

theorem get?_delete (key other : String) (entries : GoMap α) :
    (entries.delete key).get? other = if other = key then none else entries.get? other := by
  induction entries with
  | nil => simp [delete, get?]
  | cons entry rest inductionHypothesis =>
      obtain ⟨first, old⟩ := entry
      simp only [get?, delete] at inductionHypothesis ⊢
      rw [List.filter_cons]
      by_cases found : other = first
      · subst found
        by_cases removed : other = key
        · simpa [removed] using inductionHypothesis
        · simp [removed]
      · have unequal : (other == first) = false := beq_eq_false_iff_ne.mpr found
        split
        · rw [List.lookup_cons, List.lookup_cons, unequal, inductionHypothesis]
        · rw [List.lookup_cons, unequal, inductionHypothesis]

end GoMap

/-! ## Object metadata -/

/-- An owner reference; `controller` marks the managing owner. -/
structure OwnerReference where
  kind : String := ""
  uid : String
  name : String
  controller : Bool := false
  deriving DecidableEq, Repr

/-- The metadata of an object. -/
structure ObjectMeta where
  name : String
  inNamespace : String := ""
  uid : String := ""
  resourceVersion : Nat := 0
  /-- Set when the object has been deleted and waits for its finalizers. -/
  deletionTimestamp : Option Nat := none
  finalizers : List String := []
  labels : StringMap := []
  annotations : StringMap := []
  ownerReferences : List OwnerReference := []
  deriving DecidableEq, Repr

/-- `metav1.IsControlledBy`: the controlling owner has the given UID. -/
def ObjectMeta.isControlledBy (metadata : ObjectMeta) (uid : String) : Bool :=
  match metadata.ownerReferences.find? (·.controller) with
  | some reference => reference.uid == uid
  | none => false

/-- `controllerutil.upsertOwnerRef`: replace the first reference to the object, or
add one. -/
def upsertOwnerRef (reference : OwnerReference) :
    List OwnerReference → List OwnerReference
  | [] => [reference]
  | old :: rest =>
      if old.kind = reference.kind ∧ old.name = reference.name then
        reference :: rest
      else old :: upsertOwnerRef reference rest

/-- `controllerutil.SetOwnerReference` to a volume group. -/
def ObjectMeta.setOwnerReference (metadata owner : ObjectMeta) : ObjectMeta :=
  let reference : OwnerReference :=
    { kind := "LVMVolumeGroup", uid := owner.uid, name := owner.name }
  { metadata with
    ownerReferences := upsertOwnerRef reference metadata.ownerReferences }

/-- `controllerutil.SetControllerReference` to a cluster. An object has one
controller. -/
def ObjectMeta.setControllerReference (metadata owner : ObjectMeta) :
    Except GoError ObjectMeta :=
  let reference : OwnerReference :=
    { kind := "LVMCluster", uid := owner.uid, name := owner.name, controller := true }
  let controlled := { metadata with
    ownerReferences := upsertOwnerRef reference metadata.ownerReferences }
  match metadata.ownerReferences.find? (·.controller) with
  | none => .ok controlled
  | some existing =>
      if existing.kind = reference.kind ∧ existing.name = reference.name then
        .ok controlled
      else .error (.new ("Object " ++ metadata.inNamespace ++ "/" ++ metadata.name ++
        " is already owned by another " ++ existing.kind ++ " controller " ++
        existing.name))

/-- `controllerutil.AddFinalizer`; the flag says whether it was added. -/
def ObjectMeta.addFinalizer
    (metadata : ObjectMeta)
    (finalizer : String) : ObjectMeta × Bool :=
  if metadata.finalizers.contains finalizer then (metadata, false)
  else ({ metadata with finalizers := metadata.finalizers ++ [finalizer] }, true)

@[simp] theorem ObjectMeta.addFinalizer_name (metadata : ObjectMeta) (finalizer : String) :
    (metadata.addFinalizer finalizer).1.name = metadata.name := by
  rw [addFinalizer]
  split <;> rfl

@[simp] theorem ObjectMeta.addFinalizer_uid (metadata : ObjectMeta) (finalizer : String) :
    (metadata.addFinalizer finalizer).1.uid = metadata.uid := by
  rw [addFinalizer]
  split <;> rfl

/-- `controllerutil.RemoveFinalizer`; the flag says whether one was removed. -/
def ObjectMeta.removeFinalizer
    (metadata : ObjectMeta)
    (finalizer : String) : ObjectMeta × Bool :=
  let remaining := metadata.finalizers.filter (· != finalizer)
  ({ metadata with finalizers := remaining },
    remaining.length != metadata.finalizers.length)

/-- Whether a finalizer was removed says whether it was there. -/
theorem ObjectMeta.removeFinalizer_iff
    (metadata : ObjectMeta)
    (finalizer : String) :
    (metadata.removeFinalizer finalizer).2 = true ↔ finalizer ∈ metadata.finalizers := by
  have same : (metadata.finalizers.filter (· != finalizer)).length =
      metadata.finalizers.length ↔ finalizer ∉ metadata.finalizers := by
    rw [List.length_filter_eq_length_iff]
    constructor
    · intro others member
      simpa using others finalizer member
    · rintro absent other member
      rw [bne_iff_ne]
      rintro rfl
      exact absent member
  simp [removeFinalizer, same]

theorem ObjectMeta.not_mem_removeFinalizer
    (metadata : ObjectMeta)
    (finalizer : String) :
    finalizer ∉ (metadata.removeFinalizer finalizer).1.finalizers := by
  simp [removeFinalizer]

/-! ## Core objects -/

/-- The operators of a node selector requirement. -/
inductive NodeSelectorOperator
  | inValues | notInValues | existsKey | doesNotExist | gt | lt
  deriving DecidableEq, Repr

/-- A requirement on one label or field of a node. -/
structure NodeSelectorRequirement where
  key : String
  operator : NodeSelectorOperator
  values : List String := []
  deriving DecidableEq, Repr

/-- A conjunction of requirements. -/
structure NodeSelectorTerm where
  matchExpressions : List NodeSelectorRequirement := []
  matchFields : List NodeSelectorRequirement := []
  deriving DecidableEq, Repr

/-- A disjunction of terms. -/
structure NodeSelector where
  nodeSelectorTerms : List NodeSelectorTerm
  deriving DecidableEq, Repr

/-- A taint of a node. -/
structure Taint where
  key : String
  value : String := ""
  effect : String := ""
  deriving DecidableEq, Repr

/-- A toleration of taints. -/
structure Toleration where
  key : String := ""
  operator : String := ""
  value : String := ""
  effect : String := ""
  deriving DecidableEq, Repr

/-- A node of the cluster. -/
structure Node where
  metadata : ObjectMeta
  taints : List Taint := []
  deriving DecidableEq, Repr

/-- The reclaim policies the schema admits. -/
inductive ReclaimPolicy
  | delete | retain
  deriving DecidableEq, Repr

/-- The volume binding modes the schema admits. -/
inductive VolumeBindingMode
  | waitForFirstConsumer | immediate
  deriving DecidableEq, Repr

/-- A storage class. -/
structure StorageClass where
  metadata : ObjectMeta
  provisioner : String
  reclaimPolicy : Option ReclaimPolicy
  volumeBindingMode : Option VolumeBindingMode
  allowVolumeExpansion : Bool := true
  parameters : StringMap := []
  deriving DecidableEq, Repr

/-- A quantity: its exact amount in units of 10⁻⁹, and the text it was written as. Equality
is finer than `reflect.DeepEqual`, which compares the amount and the format of the text. -/
structure Quantity where
  nano : Int
  text : String := ""
  deriving DecidableEq, Repr

/-- `Quantity.Value`: the amount rounded away from zero to an integer. -/
def Quantity.value (quantity : Quantity) : Int :=
  if 0 ≤ quantity.nano then -((-quantity.nano) / 1000000000)
  else quantity.nano / 1000000000

/-- The phases of a persistent volume claim. -/
inductive ClaimPhase
  | pending | bound | lost
  deriving DecidableEq, Repr

/-- A persistent volume claim, as far as the controllers read it. -/
structure PersistentVolumeClaim where
  metadata : ObjectMeta
  storageClassName : Option String
  /-- The storage of the requests. -/
  requests : Option Quantity := none
  phase : ClaimPhase := .pending
  deriving DecidableEq, Repr

/-- A persistent volume, as far as the deletion gates read it. -/
structure PersistentVolume where
  metadata : ObjectMeta
  storageClassName : String
  deriving DecidableEq, Repr

/-- A volume snapshot class, of which the operator only keeps the labels. -/
structure VolumeSnapshotClass where
  metadata : ObjectMeta
  deriving DecidableEq, Repr

/-- A pod, with the images of its containers by name. -/
structure Pod where
  metadata : ObjectMeta
  images : StringMap := []
  deriving DecidableEq, Repr

/-- A logical volume object of TopoLVM. -/
structure TopolvmLogicalVolume where
  metadata : ObjectMeta
  nodeName : String
  deriving DecidableEq, Repr

/-! ## LVMCluster -/

/-- Where a size comes from. -/
inductive SizePolicy
  | host | static
  deriving DecidableEq, Repr

/-- The thin pool of a device class. -/
structure ThinPoolConfig where
  name : String
  sizePercent : Int := 90
  overprovisionRatio : Int
  chunkSizeCalculationPolicy : SizePolicy := .static
  chunkSize : Option Quantity := none
  metadataSize : Option Quantity := none
  metadataSizeCalculationPolicy : SizePolicy := .host
  deriving DecidableEq, Repr

/-- The RAID levels. -/
inductive RAIDType
  | raid1 | raid4 | raid5 | raid6 | raid10
  deriving DecidableEq, Repr

/-- The RAID geometry of a device class. -/
structure RAIDConfig where
  type : RAIDType
  mirrors : Option Int := none
  stripes : Option Int := none
  stripeSize : Option Quantity := none
  deriving DecidableEq, Repr

/-- A device path as the user wrote it. -/
abbrev DevicePath := String

/-- The devices of a device class. -/
structure DeviceSelector where
  paths : List DevicePath := []
  optionalPaths : List DevicePath := []
  forceWipeDevicesAndDestroyAllData : Option Bool := none
  deriving DecidableEq, Repr

/-- How devices are discovered. -/
inductive DeviceDiscoveryPolicySpec
  | static | dynamic
  deriving DecidableEq, Repr

/-- The file system types the schema admits. -/
inductive DeviceFilesystemType
  | ext4 | xfs
  deriving DecidableEq, Repr

/-- The text of a file system type. -/
def fstypeText : DeviceFilesystemType → String
  | .ext4 => "ext4"
  | .xfs => "xfs"

/-- Overrides for the storage class of a device class. -/
structure StorageClassOptions where
  reclaimPolicy : Option ReclaimPolicy := some .delete
  volumeBindingMode : Option VolumeBindingMode := some .waitForFirstConsumer
  additionalParameters : StringMap := []
  additionalLabels : StringMap := []
  deriving DecidableEq, Repr

/-- A device class of the cluster. -/
structure DeviceClass where
  name : String
  deviceSelector : Option DeviceSelector := none
  nodeSelector : Option NodeSelector := none
  thinPoolConfig : Option ThinPoolConfig := none
  raidConfig : Option RAIDConfig := none
  default : Bool := false
  filesystemType : DeviceFilesystemType := .xfs
  deviceDiscoveryPolicy : Option DeviceDiscoveryPolicySpec := none
  storageClassOptions : Option StorageClassOptions := some {}
  deriving DecidableEq, Repr

/-- `DeviceClass.HasExplicitPaths`. -/
def DeviceClass.hasExplicitPaths (deviceClass : DeviceClass) : Bool :=
  match deviceClass.deviceSelector with
  | none => false
  | some selector =>
      !selector.paths.isEmpty || !selector.optionalPaths.isEmpty

/-- The desired state of the cluster's storage. -/
structure LVMClusterSpec where
  tolerations : List Toleration := []
  deviceClasses : List DeviceClass := []
  deriving DecidableEq, Repr


/-! ## LVMVolumeGroup -/

/-- The desired state of one volume group. -/
structure LVMVolumeGroupSpec where
  deviceSelector : Option DeviceSelector := none
  nodeSelector : Option NodeSelector := none
  thinPoolConfig : Option ThinPoolConfig := none
  raidConfig : Option RAIDConfig := none
  default : Bool := false
  deviceDiscoveryPolicy : Option DeviceDiscoveryPolicySpec := none
  deriving DecidableEq, Repr

/-- The object of one volume group. -/
structure LVMVolumeGroup where
  metadata : ObjectMeta
  spec : LVMVolumeGroupSpec
  deriving DecidableEq, Repr

/-- The name of a volume group object. -/
abbrev LVMVolumeGroup.name (volumeGroup : LVMVolumeGroup) : String :=
  volumeGroup.metadata.name

/-! ## LVMVolumeGroupNodeStatus -/

/-- The states of a volume group on a node. -/
inductive VGStatusType
  | progressing | ready | failed | degraded
  deriving DecidableEq, Repr

/-- The policy reported in the status. -/
inductive DeviceDiscoveryPolicyStatus
  | preconfigured | runtimeDynamic | runtimeStatic
  deriving DecidableEq, Repr

/-- The health of a RAID volume group. -/
inductive RAIDHealthStatus
  | healthy | degraded | failed
  deriving DecidableEq, Repr

/-- The health of one RAID logical volume. -/
structure RAIDLVHealth where
  name : String
  raidType : RAIDType
  syncPercent : Int
  healthStatus : String
  deriving DecidableEq, Repr

/-- The overall health of a RAID volume group. -/
structure RAIDStatus where
  status : RAIDHealthStatus
  memberCount : Nat
  degradedMemberCount : Nat
  minSyncPercent : Option Int
  lvHealth : List RAIDLVHealth
  deriving DecidableEq, Repr

/-- A device that was not used, and why. -/
structure ExcludedDevice where
  name : String
  reasons : List String
  deriving DecidableEq, Repr

/-- The state of one volume group on a node. -/
structure VGStatus where
  name : String
  status : VGStatusType
  reason : String := ""
  devices : List String := []
  excluded : List ExcludedDevice := []
  deviceDiscoveryPolicy : DeviceDiscoveryPolicyStatus := .runtimeStatic
  raidStatus : Option RAIDStatus := none
  deriving DecidableEq, Repr

/-- The states of all volume groups of a node. -/
structure LVMVolumeGroupNodeStatus where
  metadata : ObjectMeta
  lvmVGStatus : List VGStatus := []
  deriving DecidableEq, Repr

/-! ## The status of the cluster -/

/-- A condition; `true` is the status `True`. -/
structure Condition where
  type : String
  status : Bool
  reason : String
  message : String
  deriving DecidableEq, Repr

/-- The states of the cluster. -/
inductive LVMStateType
  | unknown | progressing | ready | failed | degraded
  deriving DecidableEq, Repr

/-- The state of a volume group on one of its nodes. -/
structure NodeStatus where
  node : String
  vgStatus : VGStatus
  deriving DecidableEq, Repr

/-- The states of a device class on its nodes. -/
structure DeviceClassStatus where
  name : String
  nodeStatus : List NodeStatus
  deriving DecidableEq, Repr

/-- The observed state of the cluster. -/
structure LVMClusterStatus where
  ready : Bool := false
  state : LVMStateType := .unknown
  conditions : List Condition := []
  deviceClassStatuses : List DeviceClassStatus := []
  deriving DecidableEq, Repr

/-- The object users create. -/
structure LVMCluster where
  metadata : ObjectMeta
  spec : LVMClusterSpec
  status : LVMClusterStatus := {}
  deriving DecidableEq, Repr

/-! ## The vg-manager daemon set -/

/-- A container of the pod template, with the parts the operator computes. -/
structure Container where
  name : String
  image : String
  command : List String
  deriving DecidableEq, Repr

/-- A volume of the pod template; a secret has no path. -/
structure Volume where
  name : String
  hostPath : String := ""
  deriving DecidableEq, Repr

/-- `intstr.IntOrString`. -/
inductive IntOrPercent
  | int (value : Int)
  | percent (value : Int)
  /-- A text that is not a percentage. -/
  | invalid
  deriving DecidableEq, Repr

/-- How pods are replaced. The API server defaults to rolling updates with one
unavailable pod. -/
inductive UpdateStrategy
  | onDelete
  | rollingUpdate (maxUnavailable : IntOrPercent)
  deriving DecidableEq, Repr

/-- A daemon set, with the parts of its pod template that are kept up to date. -/
structure DaemonSet where
  metadata : ObjectMeta
  matchLabels : StringMap := []
  templateLabels : StringMap := []
  templateAnnotations : StringMap := []
  containers : List Container := []
  volumes : List Volume := []
  serviceAccountName : String := ""
  priorityClassName : String := ""
  tolerations : List Toleration := []
  /-- The required node affinity; `none` when the template has no affinity. -/
  affinity : Option NodeSelector := none
  updateStrategy : UpdateStrategy := .rollingUpdate (.int 1)
  desiredNumberScheduled : Int := 0
  updatedNumberScheduled : Int := 0
  numberReady : Int := 0
  deriving DecidableEq, Repr

/-! ## Names derived from other names -/

/-- `constants.StorageClassPrefix`. -/
def storageClassPrefix : String := "lvms-"

/-- `resource.GetStorageClassName`. -/
def getStorageClassName (deviceName : String) : String :=
  storageClassPrefix ++ deviceName

/-- `constants.VolumeSnapshotClassPrefix`. -/
def volumeSnapshotClassPrefix : String := "lvms-"

/-- `resource.GetVolumeSnapshotClassName`. -/
def getVolumeSnapshotClassName (deviceName : String) : String :=
  volumeSnapshotClassPrefix ++ deviceName

/-- `constants.DeviceClassKey`. -/
def deviceClassKey : String := "topolvm.io/device-class"

/-- `constants.FsTypeKey`. -/
def fsTypeKey : String := "csi.storage.k8s.io/fstype"

/-- `constants.DevicesWipedAnnotationPrefix`. -/
def devicesWipedAnnotationPrefix : String := "wiped.devices.lvms.openshift.io/"

/-- `vgmanager.NodeCleanupFinalizer`. -/
def nodeCleanupFinalizer : String := "cleanup.vgmanager.node.topolvm.io"

/-- The cleanup finalizer of a node. -/
def getFinalizer (nodeName : String) : String :=
  nodeCleanupFinalizer ++ "/" ++ nodeName

theorem getFinalizer_injective : Function.Injective getFinalizer := by
  intro left right equal
  exact (String.append_right_inj _).mp equal

end Lvms
