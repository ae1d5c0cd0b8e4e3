import Lvms.Operator.Webhook
import Lvms.Interaction.Keyed
import Mathlib.Logic.Relation
import Mathlib.Data.List.Pairwise

/-!
# What admission guarantees

Acceptance is the conjunction of the single checks. From it follow the properties
of every cluster that can be stored: which settings an update keeps, which sizes
are in range, when an unchanged object is accepted, which paths are disjoint, and
how many devices a RAID class has.
-/

namespace Lvms

open Interaction

namespace Webhook

/-! ## Acceptance, check by check -/

/-- The checks that both webhooks make. -/
structure WellFormed (v : Validator) (l : LVMCluster) : Prop where
  defaults : ∃ warnings, verifyDeviceClass l = .ok warnings
  raid : verifyRAIDConfig l = .ok ()
  paths : ∃ warnings, verifyPathsAreNotEmpty l = .ok warnings
  absolute : verifyAbsolutePath l = .ok ()
  disjoint : verifyNoDeviceOverlap l = .ok ()
  fstype : verifyFstype l = .ok ()
  parameters : v.validateAdditionalParamsAndLabels l = .ok ()

/-- The checks that only the creation makes, of the spec. -/
structure SizesInRange (l : LVMCluster) : Prop where
  chunkSize : verifyChunkSize l = .ok ()
  metadataSize : ∃ warnings, verifyMetadataSize l = .ok warnings

/-- The checks that only an update makes. -/
structure Compatible (old l : LVMCluster) : Prop where
  options : validateStorageClassOptionsUpgrade old.spec.deviceClasses
    l.spec.deviceClasses = .ok ()
  removal : validateDeviceClassRemoval old.spec.deviceClasses
    l.spec.deviceClasses = .ok ()
  deviceClasses : ∀ deviceClass ∈ l.spec.deviceClasses,
    (validateDeviceClassUpdate old deviceClass).result = .ok ()

section Acceptance

variable {v : Validator} {l old : LVMCluster}

/-- `ValidateUpdate` returns no error. -/
def AcceptsUpdate (v : Validator) (old l : LVMCluster) : Prop :=
  (v.validateUpdate old l).result = .ok ()

instance : Decidable (AcceptsUpdate v old l) :=
  inferInstanceAs (Decidable (_ = _))

/-- `ValidateCreate` returns no error, for some list of existing clusters. -/
def AcceptsCreate (v : Validator) (l : LVMCluster) : Prop :=
  ∃ existing, (v.validateCreate existing l).result = .ok ()

/-- An update is accepted exactly when every check passes. -/
theorem acceptsUpdate_iff :
    AcceptsUpdate v old l ↔ WellFormed v l ∧ Compatible old l := by
  simp only [AcceptsUpdate, Validator.validateUpdate, Checked.bind_result_eq_ok_iff,
    Checked.lift_result, Checked.warn_result, Checked.forM_result_eq_ok_iff,
    Except.mapError_eq_ok_iff, Unique.exists_iff, PUnit.default_eq_unit,
    exists_and_right, true_and]
  constructor
  · rintro ⟨defaults, raid, paths, absolute, disjoint, fstype, parameters, options,
      removal, deviceClasses⟩
    exact ⟨⟨defaults, raid, paths, absolute, disjoint, fstype, parameters⟩,
      ⟨options, removal, deviceClasses⟩⟩
  · rintro ⟨⟨defaults, raid, paths, absolute, disjoint, fstype, parameters⟩,
      ⟨options, removal, deviceClasses⟩⟩
    exact ⟨defaults, raid, paths, absolute, disjoint, fstype, parameters, options,
      removal, deviceClasses⟩

/-- The checks of a creation that do not depend on the spec. -/
def Creatable
    (v : Validator)
    (existing : Except GoError (List LVMCluster))
    (l : LVMCluster) : Prop :=
  v.getOperatorNamespace = .ok l.metadata.inNamespace ∧ existing = .ok []

/-- A creation is accepted exactly when every check passes. -/
theorem validateCreate_eq_ok_iff {existing : Except GoError (List LVMCluster)} :
    (v.validateCreate existing l).result = .ok () ↔
      Creatable v existing l ∧ WellFormed v l ∧ SizesInRange l := by
  have noOther (others : List LVMCluster) :
      refuseDuplicate others = .ok () ↔ others = [] := by
    cases others <;> simp [refuseDuplicate]
  simp only [Validator.validateCreate, Checked.bind_result_eq_ok_iff,
    Checked.lift_result, Checked.warn_result, failIf_eq_ok_iff, bne_eq_false_iff_eq,
    Except.mapError_eq_ok_iff, Unique.exists_iff, PUnit.default_eq_unit,
    exists_and_right, true_and, noOther]
  constructor
  · rintro ⟨_, isNamespace, rfl, _, none, rfl, defaults, raid, paths, absolute,
      disjoint, fstype, chunkSize, metadataSize, parameters⟩
    exact ⟨⟨isNamespace, none⟩,
      ⟨defaults, raid, paths, absolute, disjoint, fstype, parameters⟩,
      ⟨chunkSize, metadataSize⟩⟩
  · rintro ⟨⟨isNamespace, none⟩,
      ⟨defaults, raid, paths, absolute, disjoint, fstype, parameters⟩,
      ⟨chunkSize, metadataSize⟩⟩
    exact ⟨_, isNamespace, rfl, _, none, rfl, defaults, raid, paths, absolute,
      disjoint, fstype, chunkSize, metadataSize, parameters⟩

/-- What is accepted is well formed. -/
theorem AcceptsCreate.wellFormed (accepted : AcceptsCreate v l) : WellFormed v l := by
  obtain ⟨existing, created⟩ := accepted
  exact (validateCreate_eq_ok_iff.mp created).2.1

/-- The sizes of what is accepted are in range. -/
theorem AcceptsCreate.sizesInRange (accepted : AcceptsCreate v l) : SizesInRange l := by
  obtain ⟨existing, created⟩ := accepted
  exact (validateCreate_eq_ok_iff.mp created).2.2

end Acceptance
end Webhook

/-! ## Settings an update keeps -/

/-- The settings of a thin pool that are fixed when it is created. -/
structure ThinPoolSettings where
  name : String
  sizePercent : Int
  chunkSize : Option Quantity
  chunkSizeCalculationPolicy : SizePolicy
  deriving DecidableEq, Repr

/-- The fixed settings of a thin pool. -/
def ThinPoolConfig.settings (config : ThinPoolConfig) : ThinPoolSettings where
  name := config.name
  sizePercent := config.sizePercent
  chunkSize := config.chunkSize
  chunkSizeCalculationPolicy := config.chunkSizeCalculationPolicy

/-- The settings of a volume group that are fixed when it is created. -/
structure Settings where
  thinPool : Option ThinPoolSettings
  raidConfig : Option RAIDConfig
  nodeSelector : Option NodeSelector
  forceWipe : Option Bool
  deriving DecidableEq, Repr

/-- The fixed settings of a device class. -/
def DeviceClass.settings (deviceClass : DeviceClass) : Settings where
  thinPool := deviceClass.thinPoolConfig.map (·.settings)
  raidConfig := deviceClass.raidConfig
  nodeSelector := deviceClass.nodeSelector
  forceWipe :=
    deviceClass.deviceSelector.bind (·.forceWipeDevicesAndDestroyAllData)

namespace Webhook

/-- A part of a device class that was there. -/
theorem partOfDeviceClass_of_found
    {α : Type}
    (part : DeviceClass → Option α)
    (notSet : GoError)
    {old : LVMCluster}
    {name : String}
    {before : DeviceClass}
    (found : deviceClassNamed old name = some before) :
    partOfDeviceClass part notSet old name =
      match part before with
      | some value => .ok value
      | none => .error notSet := by
  cases isPart : part before <;> simp [partOfDeviceClass, found, isPart]

section Update

variable {old : LVMCluster} {deviceClass before : DeviceClass}

theorem validateRAID_eq_ok_iff
    (found : deviceClassNamed old deviceClass.name = some before) :
    validateRAID old deviceClass = .ok () ↔
      deviceClass.raidConfig = before.raidConfig := by
  rw [validateRAID, getRAIDConfigOfDeviceClass, partOfDeviceClass_of_found _ _ found]
  cases deviceClass.raidConfig <;> cases before.raidConfig <;>
    simp [presenceChanged, Except.bind_eq_ok_iff, GoError.is, errRAIDConfigNotSet,
      errDeviceClassNotFound]

theorem validateNodeSelector_eq_ok_iff
    (found : deviceClassNamed old deviceClass.name = some before) :
    validateNodeSelector old deviceClass = .ok () ↔
      deviceClass.nodeSelector = before.nodeSelector := by
  rw [validateNodeSelector, getNodeSelectorOfDeviceClass,
    partOfDeviceClass_of_found _ _ found]
  cases deviceClass.nodeSelector <;> cases before.nodeSelector <;>
    simp [presenceChanged, Except.bind_eq_ok_iff, GoError.is, errNodeSelectorNotSet,
      errDeviceClassNotFound]

theorem validateDevices_eq_ok_iff
    (found : deviceClassNamed old deviceClass.name = some before) :
    validateDevices old deviceClass = .ok () ↔
      (deviceClass.deviceSelector.getD {}).forceWipeDevicesAndDestroyAllData =
          (before.deviceSelector.getD {}).forceWipeDevicesAndDestroyAllData ∧
        hasNoPaths (deviceClass.deviceSelector.getD {}) =
          hasNoPaths (before.deviceSelector.getD {}) := by
  rw [validateDevices, getPathsOfDeviceClass, found]
  simp only [Except.bind_eq_ok_iff, failIf_eq_ok_iff, bne_eq_false_iff_eq,
    Unique.exists_iff]
  refine and_congr eq_comm ?_
  cases hasNoPaths (before.deviceSelector.getD {}) <;>
    cases hasNoPaths (deviceClass.deviceSelector.getD {}) <;> simp

/-- What an update may do to the metadata size of a thin pool. -/
def MetadataGrows (old new : ThinPoolConfig) : Prop :=
  new.metadataSizeCalculationPolicy = .static →
    old.metadataSizeCalculationPolicy = .static →
      (old.metadataSize.getD thinPoolMetadataSizeDefault).value ≤
        (new.metadataSize.getD thinPoolMetadataSizeDefault).value

theorem validateMetadataSizeUpdate_eq_ok_iff {old new : ThinPoolConfig} :
    (validateMetadataSizeUpdate old new).result = .ok () ↔ MetadataGrows old new := by
  unfold validateMetadataSizeUpdate MetadataGrows
  generalize (new.metadataSize.getD thinPoolMetadataSizeDefault).value = newSize
  generalize (old.metadataSize.getD thinPoolMetadataSizeDefault).value = oldSize
  split
  · rename_i isStatic
    simp only [Checked.bind_result_eq_ok_iff, Checked.warn_result, Checked.lift_result,
      failIf_eq_ok_iff, Unique.exists_iff, true_and, isStatic, forall_const,
      Bool.and_eq_false_imp, decide_eq_true_eq, decide_eq_false_iff_not, Int.not_lt]
  · rename_i notStatic
    simp only [Checked.pure_result, notStatic, false_implies]

/-- Of a thin pool only the metadata may change, and only grow. -/
theorem validateThinPoolUpdate_eq_ok_iff {old new : ThinPoolConfig} :
    (validateThinPoolUpdate old new).result = .ok () ↔
      new.settings = old.settings ∧ MetadataGrows old new := by
  simp only [validateThinPoolUpdate, Checked.bind_result_eq_ok_iff,
    Checked.lift_result, failIf_eq_ok_iff, bne_eq_false_iff_eq, Unique.exists_iff,
    validateMetadataSizeUpdate_eq_ok_iff, ThinPoolConfig.settings,
    ThinPoolSettings.mk.injEq]
  tauto

theorem validateThinPool_eq_ok_iff
    (found : deviceClassNamed old deviceClass.name = some before) :
    (validateThinPool old deviceClass).result = .ok () ↔
      deviceClass.thinPoolConfig.map (·.settings) =
          before.thinPoolConfig.map (·.settings) ∧
        ∀ new ∈ deviceClass.thinPoolConfig, ∀ old ∈ before.thinPoolConfig,
          MetadataGrows old new := by
  rw [validateThinPool, getThinPoolsConfigOfDeviceClass,
    partOfDeviceClass_of_found _ _ found]
  cases deviceClass.thinPoolConfig <;> cases before.thinPoolConfig <;>
    simp [presenceChanged, GoError.is, errThinPoolConfigNotSet,
      errDeviceClassNotFound, validateThinPoolUpdate_eq_ok_iff]

/-- What the update of a device class that was there has to keep. -/
structure Kept (before deviceClass : DeviceClass) : Prop where
  settings : deviceClass.settings = before.settings
  metadata : ∀ new ∈ deviceClass.thinPoolConfig, ∀ old ∈ before.thinPoolConfig,
    MetadataGrows old new
  paths : hasNoPaths (deviceClass.deviceSelector.getD {}) =
    hasNoPaths (before.deviceSelector.getD {})

theorem forceWipe_settings (deviceClass : DeviceClass) :
    (deviceClass.deviceSelector.getD {}).forceWipeDevicesAndDestroyAllData =
      deviceClass.settings.forceWipe := by
  cases selected : deviceClass.deviceSelector <;>
    simp [DeviceClass.settings, selected]

/-- The update of a device class that was there is accepted when its fixed settings
stay. -/
theorem validateDeviceClassUpdate_eq_ok_iff
    (found : deviceClassNamed old deviceClass.name = some before) :
    (validateDeviceClassUpdate old deviceClass).result = .ok () ↔
      Kept before deviceClass := by
  simp only [validateDeviceClassUpdate, Checked.bind_result_eq_ok_iff,
    Checked.lift_result, Unique.exists_iff,
    validateThinPool_eq_ok_iff found, validateRAID_eq_ok_iff found,
    validateNodeSelector_eq_ok_iff found, validateDevices_eq_ok_iff found,
    forceWipe_settings]
  constructor
  · rintro ⟨⟨thinPool, metadata⟩, raid, selector, forceWipe, paths⟩
    refine ⟨?_, metadata, paths⟩
    simp only [DeviceClass.settings, Settings.mk.injEq]
    exact ⟨thinPool, raid, selector, forceWipe⟩
  · rintro ⟨settings, metadata, paths⟩
    refine ⟨⟨congrArg Settings.thinPool settings, metadata⟩,
      congrArg Settings.raidConfig settings, congrArg Settings.nodeSelector settings,
      congrArg Settings.forceWipe settings, paths⟩

end Update

/-! ## Sizes in range -/

/-- The rule for the chunk size of a thin pool. -/
def ChunkSizeRule (config : ThinPoolConfig) : Prop :=
  ∀ size ∈ config.chunkSize,
    chunkSizeMinimum.nano ≤ size.nano ∧ size.nano ≤ chunkSizeMaximum.nano ∧
      config.chunkSizeCalculationPolicy ≠ .host

instance (config : ThinPoolConfig) : Decidable (ChunkSizeRule config) :=
  inferInstanceAs (Decidable (∀ size ∈ config.chunkSize, _))

/-- The rule for the metadata size of a thin pool. -/
def MetadataSizeRule (config : ThinPoolConfig) : Prop :=
  ∀ size ∈ config.metadataSize,
    thinPoolMetadataSizeMinimum.nano ≤ size.nano ∧
      size.nano ≤ thinPoolMetadataSizeMaximum.nano ∧
      config.metadataSizeCalculationPolicy ≠ .host

instance (config : ThinPoolConfig) : Decidable (MetadataSizeRule config) :=
  inferInstanceAs (Decidable (∀ size ∈ config.metadataSize, _))

/-- Every thin pool of the cluster keeps both rules. -/
def SizesValid (l : LVMCluster) : Prop :=
  ∀ deviceClass ∈ l.spec.deviceClasses, ∀ config ∈ deviceClass.thinPoolConfig,
    ChunkSizeRule config ∧ MetadataSizeRule config

instance (l : LVMCluster) : Decidable (SizesValid l) :=
  inferInstanceAs (Decidable (∀ deviceClass ∈ l.spec.deviceClasses,
    ∀ config ∈ deviceClass.thinPoolConfig, _))

/-- Both bounds are allowed. -/
theorem requireBetween_eq_ok_iff
    {what : String}
    {least greatest quantity : Quantity} :
    requireBetween what least greatest quantity = .ok () ↔
      least.nano ≤ quantity.nano ∧ quantity.nano ≤ greatest.nano := by
  simp only [requireBetween, Except.bind_eq_ok_iff, failIf_eq_ok_iff,
    Unique.exists_iff, decide_eq_false_iff_not, Int.not_lt]

theorem verifyChunkSizeOf_eq_ok_iff {config : ThinPoolConfig} :
    verifyChunkSizeOf config = .ok () ↔ ChunkSizeRule config := by
  simp only [verifyChunkSizeOf, ChunkSizeRule, Except.bind_eq_ok_iff,
    failIf_eq_ok_iff, Unique.exists_iff]
  cases config.chunkSize with
  | none => simp
  | some size =>
      simp only [requireBetween_eq_ok_iff, Option.isSome_some, Bool.and_true,
        decide_eq_false_iff_not, Option.mem_some_iff, forall_eq']
      tauto

theorem verifyMetadataSizeOf_eq_ok_iff {config : ThinPoolConfig} :
    verifyMetadataSizeOf config = .ok () ↔ MetadataSizeRule config := by
  simp only [verifyMetadataSizeOf, MetadataSizeRule, defaultedMetadataSize,
    Except.bind_eq_ok_iff, failIf_eq_ok_iff, Unique.exists_iff]
  cases config.metadataSize with
  | none =>
      -- The default is in range, so a size that is not set never fails.
      have inRange : requireBetween "metadata size" thinPoolMetadataSizeMinimum
          thinPoolMetadataSizeMaximum thinPoolMetadataSizeDefault = .ok () :=
        requireBetween_eq_ok_iff.mpr (by decide)
      by_cases isStatic : config.metadataSizeCalculationPolicy = .static <;>
        simp [isStatic, inRange]
  | some size =>
      simp only [requireBetween_eq_ok_iff, Option.isSome_some, Option.isNone_some,
        Bool.and_true, Bool.and_false, Bool.false_eq_true, if_false,
        decide_eq_false_iff_not, Option.mem_some_iff, forall_eq']
      tauto

/-- The sizes that the creation checks are in range. -/
theorem SizesInRange.sizesValid
    {l : LVMCluster}
    (inRange : SizesInRange l) :
    SizesValid l := by
  intro deviceClass member config isConfig
  obtain ⟨chunkSize, _, metadataSize⟩ := inRange
  have chunk := Except.forM_eq_ok_iff.mp chunkSize deviceClass member
  obtain ⟨_, metadata, _⟩ := Except.bind_eq_ok_iff.mp metadataSize
  replace metadata := Except.forM_eq_ok_iff.mp metadata deviceClass member
  rw [Option.mem_def.mp isConfig] at chunk metadata
  exact ⟨verifyChunkSizeOf_eq_ok_iff.mp chunk, verifyMetadataSizeOf_eq_ok_iff.mp metadata⟩

/-- The device class had the same metadata settings before the update. -/
def KeepsMetadata
    (old : LVMCluster)
    (deviceClass : DeviceClass)
    (config : ThinPoolConfig) : Prop :=
  ∃ before ∈ deviceClassNamed old deviceClass.name, ∃ oldConfig ∈ before.thinPoolConfig,
    oldConfig.metadataSize = config.metadataSize ∧
      oldConfig.metadataSizeCalculationPolicy = config.metadataSizeCalculationPolicy

instance (old : LVMCluster) (deviceClass : DeviceClass) (config : ThinPoolConfig) :
    Decidable (KeepsMetadata old deviceClass config) :=
  inferInstanceAs (Decidable (∃ before ∈ deviceClassNamed old deviceClass.name,
    ∃ oldConfig ∈ before.thinPoolConfig, _))

/-- An update in which the device classes it adds keep the rule for the chunk size,
and those it adds or whose metadata settings it changes keep the rule for the
metadata size. -/
def CarefulUpdate (old l : LVMCluster) : Prop :=
  ∀ deviceClass ∈ l.spec.deviceClasses, ∀ config ∈ deviceClass.thinPoolConfig,
    (deviceClassNamed old deviceClass.name = none → ChunkSizeRule config) ∧
      (¬KeepsMetadata old deviceClass config → MetadataSizeRule config)

instance (old l : LVMCluster) : Decidable (CarefulUpdate old l) :=
  inferInstanceAs (Decidable (∀ deviceClass ∈ l.spec.deviceClasses,
    ∀ config ∈ deviceClass.thinPoolConfig, _))

theorem ChunkSizeRule.of_settings
    {old new : ThinPoolConfig}
    (rule : ChunkSizeRule old)
    (same : new.settings = old.settings) :
    ChunkSizeRule new := by
  have sameSize : new.chunkSize = old.chunkSize :=
    congrArg ThinPoolSettings.chunkSize same
  have samePolicy : new.chunkSizeCalculationPolicy = old.chunkSizeCalculationPolicy :=
    congrArg ThinPoolSettings.chunkSizeCalculationPolicy same
  unfold ChunkSizeRule
  rw [sameSize, samePolicy]
  exact rule

/-- A thin pool that stays has the settings of a thin pool that was there. -/
theorem Kept.thinPool
    {before deviceClass : DeviceClass}
    {config : ThinPoolConfig}
    (kept : Kept before deviceClass)
    (isConfig : config ∈ deviceClass.thinPoolConfig) :
    ∃ old ∈ before.thinPoolConfig, config.settings = old.settings := by
  have same := congrArg Settings.thinPool kept.settings
  simp only [DeviceClass.settings, Option.mem_def.mp isConfig, Option.map_some] at same
  obtain ⟨old, isOld, equal⟩ := Option.map_eq_some_iff.mp same.symm
  exact ⟨old, isOld, equal.symm⟩

/-- One careful update keeps the sizes in range. -/
theorem SizesValid.update
    {v : Validator}
    {old l : LVMCluster}
    (valid : SizesValid old)
    (accepted : AcceptsUpdate v old l)
    (careful : CarefulUpdate old l) :
    SizesValid l := by
  intro deviceClass member config isConfig
  obtain ⟨ofNew, ofChanged⟩ := careful deviceClass member config isConfig
  have compatible := (acceptsUpdate_iff.mp accepted).2
  cases found : deviceClassNamed old deviceClass.name with
  | none =>
      refine ⟨ofNew found, ofChanged ?_⟩
      rintro ⟨before, isBefore, _⟩
      rw [found] at isBefore
      cases isBefore
  | some before =>
      have kept := (validateDeviceClassUpdate_eq_ok_iff found).mp
        (compatible.deviceClasses deviceClass member)
      have wasThere : before ∈ old.spec.deviceClasses := List.mem_of_find?_eq_some found
      obtain ⟨oldConfig, isOld, same⟩ := kept.thinPool isConfig
      obtain ⟨oldChunk, _⟩ := valid before wasThere oldConfig isOld
      refine ⟨oldChunk.of_settings same, ?_⟩
      by_cases keeps : KeepsMetadata old deviceClass config
      · obtain ⟨other, isOther, otherConfig, isOtherConfig, sameSize, samePolicy⟩ := keeps
        obtain rfl : other = before := by
          rw [found] at isOther
          exact (Option.mem_some_iff.mp isOther).symm
        have oldMetadata := (valid other wasThere otherConfig isOtherConfig).2
        unfold MetadataSizeRule at oldMetadata ⊢
        rw [← sameSize, ← samePolicy]
        exact oldMetadata
      · exact ofChanged keeps

/-- In every chain of accepted and careful updates the sizes stay in range. -/
theorem sizesValid_of_careful
    (v : Validator)
    (first l : LVMCluster)
    (created : AcceptsCreate v first)
    (updates : Relation.ReflTransGen
      (fun old new => AcceptsUpdate v old new ∧ CarefulUpdate old new) first l) :
    SizesValid l := by
  induction updates with
  | refl => exact created.sizesInRange.sizesValid
  | tail _ update inductionHypothesis =>
      exact inductionHypothesis.update update.1 update.2

/-- A validator in a namespace, to which every label is well formed. -/
def Validator.lenient (operatorNamespace : String) : Validator where
  getOperatorNamespace := .ok operatorNamespace
  isQualifiedName := fun _ => []
  isValidLabelValue := fun _ => []

/-- A cluster with some device classes. -/
def clusterOf (deviceClasses : List DeviceClass) : LVMCluster where
  metadata := { name := "cluster", inNamespace := "storage" }
  spec := { deviceClasses }

/-- A device class on one disk, with a thin pool of some chunk size. -/
def thinClass (name path : String) (chunkSize : Option Quantity) : DeviceClass where
  name := name
  deviceSelector := some { paths := [path] }
  thinPoolConfig := some { name := "pool", overprovisionRatio := 10, chunkSize }

theorem sizesValid_of_careful_add :
    SizesValid (clusterOf [thinClass "vg1" "/dev/sda" none,
      thinClass "vg2" "/dev/sdb" (some (bytes 65536 "64Ki"))]) :=
  sizesValid_of_careful (.lenient "storage")
    (clusterOf [thinClass "vg1" "/dev/sda" none]) _ ⟨.ok [], by decide +kernel⟩
    (.single ⟨by decide +kernel, by decide +kernel⟩)

/-- An update adds a device class with a chunk size of one byte. -/
theorem update_admits_small_chunk :
    ¬∀ v first l, AcceptsCreate v first →
      Relation.ReflTransGen (AcceptsUpdate v) first l → SizesValid l := by
  intro always
  have valid := always (.lenient "storage") (clusterOf [thinClass "vg1" "/dev/sda" none])
    (clusterOf [thinClass "vg1" "/dev/sda" none,
      thinClass "vg2" "/dev/sdb" (some (bytes 1 "1"))])
    ⟨.ok [], by decide +kernel⟩ (.single (by decide +kernel))
  exact absurd valid (by decide)

/-! ## Unchanged objects -/

/-- No two device classes have one name, which the schema asks for. -/
def UniqueNames (l : LVMCluster) : Prop :=
  (l.spec.deviceClasses.map (·.name)).Nodup

instance (l : LVMCluster) : Decidable (UniqueNames l) :=
  inferInstanceAs (Decidable (List.Nodup _))

/-- A device class that does not change is kept. -/
theorem Kept.refl (deviceClass : DeviceClass) : Kept deviceClass deviceClass where
  settings := rfl
  metadata := by
    intro new isNew old isOld _ _
    obtain rfl := Option.mem_unique isNew isOld
    exact Int.le_refl _
  paths := rfl

theorem validateOptionsUpgrade_self (deviceClass : DeviceClass) :
    validateOptionsUpgrade (some deviceClass.storageClassOptions) deviceClass =
      .ok () := by
  unfold validateOptionsUpgrade
  cases deviceClass.storageClassOptions <;> rfl

/-- An object is compatible with its own spec, unless it has no device classes. -/
theorem compatible_of_same
    {l l' : LVMCluster}
    (unique : UniqueNames l)
    (same : l'.spec = l.spec) :
    Compatible l l' ↔ l.spec.deviceClasses ≠ [] := by
  constructor
  · intro compatible none
    have removal := compatible.removal
    rw [same, none] at removal
    cases removal
  · intro someClass
    refine ⟨?_, ?_, ?_⟩
    · rw [same]
      refine Except.forM_eq_ok_iff.mpr fun deviceClass member => ?_
      have uniqueReversed :
          (l.spec.deviceClasses.reverse.map (·.name)).Nodup := by
        rw [List.map_reverse, List.nodup_reverse]
        exact unique
      rw [find?_key_of_mem uniqueReversed (List.mem_reverse.mpr member)]
      exact validateOptionsUpgrade_self deviceClass
    · rw [same, validateDeviceClassRemoval, Except.bind_eq_ok_iff]
      refine ⟨(), by simpa using someClass, ?_⟩
      refine Except.forM_eq_ok_iff.mpr fun deviceClass member => ?_
      have stays : l.spec.deviceClasses.any (·.name == deviceClass.name) = true :=
        List.any_eq_true.mpr ⟨deviceClass, member, by simp⟩
      simp [stays]
    · intro deviceClass member
      rw [same] at member
      exact (validateDeviceClassUpdate_eq_ok_iff (find?_key_of_mem unique member)).mpr
        (Kept.refl deviceClass)

theorem WellFormed.of_same
    {v : Validator}
    {l l' : LVMCluster}
    (wellFormed : WellFormed v l)
    (same : l'.spec = l.spec) :
    WellFormed v l' := by
  obtain ⟨metadata, spec, status⟩ := l
  obtain ⟨metadata', spec', status'⟩ := l'
  obtain rfl : spec' = spec := same
  exact ⟨wellFormed.defaults, wellFormed.raid, wellFormed.paths, wellFormed.absolute,
    wellFormed.disjoint, wellFormed.fstype, wellFormed.parameters⟩

/-- A created and updated object can be stored again with the same spec exactly
when it has a device class. -/
theorem unchanged_accepted_iff
    (v : Validator)
    (first l l' : LVMCluster)
    (created : AcceptsCreate v first)
    (unique : UniqueNames first)
    (updates : Relation.ReflTransGen
      (fun old new => AcceptsUpdate v old new ∧ UniqueNames new) first l)
    (same : l'.spec = l.spec) :
    AcceptsUpdate v l l' ↔ l.spec.deviceClasses ≠ [] := by
  have stored : WellFormed v l ∧ UniqueNames l := by
    cases updates with
    | refl => exact ⟨created.wellFormed, unique⟩
    | tail _ update => exact ⟨(acceptsUpdate_iff.mp update.1).1, update.2⟩
  rw [acceptsUpdate_iff, compatible_of_same stored.2 same]
  exact and_iff_right (stored.1.of_same same)

/-- The operator may add its finalizer to a valid cluster. -/
theorem unchanged_accepted_iff_vg1 :
    AcceptsUpdate (.lenient "storage") (clusterOf [thinClass "vg1" "/dev/sda" none])
      { clusterOf [thinClass "vg1" "/dev/sda" none] with
        metadata := { name := "cluster", finalizers := ["lvmcluster.topolvm.io"] } } :=
  (unchanged_accepted_iff (.lenient "storage")
    (clusterOf [thinClass "vg1" "/dev/sda" none]) _ _ ⟨.ok [], by decide +kernel⟩
    (by decide) .refl rfl).mpr (by decide)

/-- A cluster without device classes can be created and not be updated. -/
theorem unchanged_refused :
    ¬∀ v first l l', AcceptsCreate v first → UniqueNames first →
      Relation.ReflTransGen
        (fun old new => AcceptsUpdate v old new ∧ UniqueNames new) first l →
      l'.spec = l.spec → AcceptsUpdate v l l' := by
  intro always
  have accepted := always (.lenient "storage") (clusterOf []) (clusterOf []) (clusterOf [])
    ⟨.ok [], by decide +kernel⟩ (by decide) .refl rfl
  exact absurd accepted (by decide +kernel)

end Webhook
end Lvms
