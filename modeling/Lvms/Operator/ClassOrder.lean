import Lvms.Interaction.Keyed
import Lvms.Operator.Paths

/-!
# The order of device classes

The API keeps device classes as a list, but their order means nothing: they are told apart by
their names. The webhook reads the list with loops that remember what they have seen, with the
first class of a name, and with the last one. Its verdict is nevertheless the same for all orders
of the classes, before and after an update.
-/

namespace Lvms

open Interaction

namespace Webhook

variable {claimed : ClaimedPaths}

/-! ## The overlap check -/

/-- A path that is new is recorded. -/
theorem claimPath_of_new
    {kind : String}
    {deviceClass : DeviceClass}
    {path : DevicePath}
    (isNew : (deviceClass.nodeSelector, path) ∉ keysOf claimed) :
    ∃ later, claimPath kind deviceClass claimed path = .ok later := by
  have missing : claimed.lookup (deviceClass.nodeSelector, path) = none := by
    rw [List.lookup_eq_none_iff]
    intro entry member
    refine bne_iff_ne.mpr fun same => isNew ?_
    rw [keysOf, List.mem_reverse, same]
    exact List.mem_map_of_mem member
  exact ⟨_, by rw [claimPath, missing]⟩

/-- A fold of steps that record new keys succeeds when all keys are new. -/
theorem foldlM_of_new
    {α : Type}
    {step : ClaimedPaths → α → Except GoError ClaimedPaths}
    {keys : α → List (Option NodeSelector × DevicePath)}
    (extend : ∀ claimed element later, step claimed element = .ok later →
      Extends claimed later (keys element))
    (records : ∀ claimed element, (keysOf claimed ++ keys element).Nodup →
      ∃ later, step claimed element = .ok later)
    {elements : List α}
    (distinct : (keysOf claimed ++ elements.flatMap keys).Nodup) :
    ∃ later, elements.foldlM step claimed = .ok later := by
  induction elements generalizing claimed with
  | nil => exact ⟨claimed, rfl⟩
  | cons element rest inductionHypothesis =>
      rw [List.flatMap_cons, ← List.append_assoc] at distinct
      obtain ⟨middle, recorded⟩ :=
        records claimed element (List.Nodup.of_append_left distinct)
      rw [← (extend _ _ _ recorded).keys] at distinct
      obtain ⟨later, others⟩ := inductionHypothesis distinct
      exact ⟨later, by rw [List.foldlM_cons, recorded]; exact others⟩

theorem claimPaths_of_new
    {deviceClass : DeviceClass}
    (distinct : (keysOf claimed ++ claimsOf deviceClass).Nodup) :
    ∃ later, claimPaths claimed deviceClass = .ok later := by
  have record (kind : String) (claimed : ClaimedPaths) (path : DevicePath)
      (distinct : (keysOf claimed ++ [(deviceClass.nodeSelector, path)]).Nodup) :
      ∃ later, claimPath kind deviceClass claimed path = .ok later :=
    claimPath_of_new fun member =>
      (List.nodup_append.mp distinct).2.2 _ member _ (List.mem_singleton_self _) rfl
  have extend (kind : String) (claimed : ClaimedPaths) (path : DevicePath)
      (later : ClaimedPaths) (recorded : claimPath kind deviceClass claimed path = .ok later) :
      Extends claimed later [(deviceClass.nodeSelector, path)] :=
    claimPath_extends recorded
  unfold claimsOf pathsOf at distinct
  unfold claimPaths
  cases isSelector : deviceClass.deviceSelector with
  | none => exact ⟨claimed, rfl⟩
  | some selector =>
      simp only [isSelector, List.map_eq_flatMap, List.flatMap_append,
        ← List.append_assoc] at distinct
      obtain ⟨middle, mandatory⟩ := foldlM_of_new (extend "device path")
        (record "device path") (List.Nodup.of_append_left distinct)
      rw [← (foldlM_extends (extend "device path") mandatory).keys] at distinct
      obtain ⟨later, optional⟩ := foldlM_of_new (extend "optional device path")
        (record "optional device path") distinct
      exact ⟨later, Except.bind_eq_ok_iff.mpr ⟨middle, mandatory, optional⟩⟩

/-- The check passes exactly if no path is given twice under one node selector. -/
theorem verifyNoDeviceOverlap_eq_ok_iff {l : LVMCluster} :
    verifyNoDeviceOverlap l = .ok () ↔ (l.spec.deviceClasses.flatMap claimsOf).Nodup := by
  refine ⟨claims_nodup, fun distinct => ?_⟩
  have fresh : (keysOf [] ++ l.spec.deviceClasses.flatMap claimsOf).Nodup := by
    simpa [keysOf] using distinct
  obtain ⟨claimed, recorded⟩ := foldlM_of_new
    (fun _ _ _ recorded => claimPaths_extends recorded)
    (fun _ _ distinct => claimPaths_of_new distinct) fresh
  exact Except.bind_eq_ok_iff.mpr ⟨claimed, recorded, rfl⟩

/-! ## The checks of one object -/

section Object

variable {l l' : LVMCluster}

/-- A choice between successes succeeds. -/
theorem exists_ite_eq_ok {α : Type} (condition : Prop) [Decidable condition] (first second : α) :
    ∃ value, (if condition then .ok first else .ok second : Except GoError α) = .ok value := by
  split
  · exact ⟨first, rfl⟩
  · exact ⟨second, rfl⟩

theorem verifyDeviceClass_ok_iff :
    (∃ warnings, verifyDeviceClass l = .ok warnings) ↔
      l.spec.deviceClasses.countP (·.default) ≤ 1 := by
  simp only [verifyDeviceClass]
  by_cases many : 1 < l.spec.deviceClasses.countP (·.default)
  · simp only [many, if_true, reduceCtorEq, exists_false, false_iff, Nat.not_le]
  · simp only [many, if_false, exists_ite_eq_ok, true_iff]
    omega

theorem verifyPathsAreNotEmpty_ok_iff :
    (∃ warnings, verifyPathsAreNotEmpty l = .ok warnings) ↔
      (∀ deviceClass ∈ l.spec.deviceClasses,
        deviceClass.deviceSelector.any hasNoPaths = false) ∧
      (1 < l.spec.deviceClasses.length →
        ∀ deviceClass ∈ l.spec.deviceClasses, deviceClass.deviceSelector.isSome) := by
  simp only [verifyPathsAreNotEmpty, Except.bind_eq_ok_iff, Unique.exists_iff,
    PUnit.default_eq_unit, Except.forM_eq_ok_iff, failIf_eq_ok_iff, exists_and_left,
    List.length_map, List.length_filter_pos_iff]
  refine and_congr_right fun _ => ?_
  by_cases refused : 1 < l.spec.deviceClasses.length ∧
      ∃ deviceClass ∈ l.spec.deviceClasses, deviceClass.deviceSelector.isNone = true
  · simp only [Bool.and_eq_true, decide_eq_true_eq, refused, and_self, if_true, reduceCtorEq,
      exists_false, false_iff]
    obtain ⟨-, deviceClass, member, isNone⟩ := refused
    intro all
    have isSome := all trivial deviceClass member
    rw [Option.isNone_iff_eq_none.mp isNone] at isSome
    cases isSome
  · simp only [Bool.and_eq_true, decide_eq_true_eq, refused, if_false, exists_ite_eq_ok,
      true_iff]
    intro several deviceClass member
    by_contra isNone
    exact refused ⟨several, deviceClass, member, by simpa using isNone⟩

/-- A check of every class does not depend on their order. -/
theorem forM_reordered
    {deviceClasses deviceClasses' : List DeviceClass}
    {check : DeviceClass → Except GoError Unit}
    (reordered : deviceClasses'.Perm deviceClasses) :
    forM deviceClasses' check = .ok () ↔ forM deviceClasses check = .ok () := by
  simp only [Except.forM_eq_ok_iff, reordered.mem_iff]

/-- What both webhooks check does not depend on the order of the classes. -/
theorem WellFormed.reordered
    {v : Validator}
    (reordered : l'.spec.deviceClasses.Perm l.spec.deviceClasses)
    (wellFormed : WellFormed v l) :
    WellFormed v l' where
  defaults := by
    rw [verifyDeviceClass_ok_iff, reordered.countP_eq, ← verifyDeviceClass_ok_iff]
    exact wellFormed.defaults
  raid := (forM_reordered reordered).mpr wellFormed.raid
  paths := by
    have passed := verifyPathsAreNotEmpty_ok_iff.mp wellFormed.paths
    simpa only [verifyPathsAreNotEmpty_ok_iff, reordered.mem_iff, reordered.length_eq]
      using passed
  absolute := (forM_reordered reordered).mpr wellFormed.absolute
  disjoint := by
    rw [verifyNoDeviceOverlap_eq_ok_iff, (reordered.flatMap_right claimsOf).nodup_iff]
    exact verifyNoDeviceOverlap_eq_ok_iff.mp wellFormed.disjoint
  fstype := (forM_reordered reordered).mpr wellFormed.fstype
  parameters := (forM_reordered reordered).mpr wellFormed.parameters

theorem SizesInRange.reordered
    (reordered : l'.spec.deviceClasses.Perm l.spec.deviceClasses)
    (inRange : SizesInRange l) :
    SizesInRange l' where
  chunkSize := (forM_reordered reordered).mpr inRange.chunkSize
  metadataSize := by
    obtain ⟨_, passed⟩ := inRange.metadataSize
    obtain ⟨_, each, _⟩ := Except.bind_eq_ok_iff.mp passed
    exact ⟨_, Except.bind_eq_ok_iff.mpr ⟨(), (forM_reordered reordered).mpr each, rfl⟩⟩

end Object

/-! ## The comparison with the stored object -/

section Update

variable {old old' l l' : LVMCluster}

/-- The class of a name is found in every order. -/
theorem find?_name_reordered
    {deviceClasses deviceClasses' : List DeviceClass}
    (unique : (deviceClasses.map (·.name)).Nodup)
    (reordered : deviceClasses'.Perm deviceClasses)
    (name : String) :
    deviceClasses'.find? (·.name == name) = deviceClasses.find? (·.name == name) := by
  have unique' : (deviceClasses'.map (·.name)).Nodup :=
    (reordered.map _).nodup_iff.mpr unique
  refine Option.ext fun deviceClass => ?_
  rw [find?_key_eq_some_iff unique, find?_key_eq_some_iff unique', reordered.mem_iff]

/-- The stored object is compared by the classes that are found in it. -/
theorem validateDeviceClassUpdate_congr
    (same : ∀ name, deviceClassNamed old' name = deviceClassNamed old name)
    (deviceClass : DeviceClass) :
    validateDeviceClassUpdate old' deviceClass =
      validateDeviceClassUpdate old deviceClass := by
  simp only [validateDeviceClassUpdate, validateThinPool, validateRAID,
    validateNodeSelector, validateDevices, getThinPoolsConfigOfDeviceClass,
    getRAIDConfigOfDeviceClass, getNodeSelectorOfDeviceClass, getPathsOfDeviceClass,
    partOfDeviceClass, same]

/-- What an update checks does not depend on the order of the classes. -/
theorem Compatible.reordered
    (unique : UniqueNames old)
    (reorderedOld : old'.spec.deviceClasses.Perm old.spec.deviceClasses)
    (reordered : l'.spec.deviceClasses.Perm l.spec.deviceClasses)
    (compatible : Compatible old l) :
    Compatible old' l' where
  options := by
    have uniqueReversed : (old.spec.deviceClasses.reverse.map (·.name)).Nodup := by
      rw [List.map_reverse, List.nodup_reverse]
      exact unique
    have found := find?_name_reordered uniqueReversed
      ((List.reverse_perm _).trans (reorderedOld.trans (List.reverse_perm _).symm))
    have options := (forM_reordered reordered).mpr compatible.options
    simpa only [validateStorageClassOptionsUpgrade, found] using options
  removal := by
    have removal := compatible.removal
    simp only [validateDeviceClassRemoval, Except.bind_eq_ok_iff, failIf_eq_ok_iff,
      Except.forM_eq_ok_iff, Unique.exists_iff] at removal ⊢
    rw [reordered.isEmpty_eq]
    refine ⟨removal.1, fun deviceClass member => ?_⟩
    rw [reordered.any_eq]
    exact removal.2 deviceClass (reorderedOld.mem_iff.mp member)
  deviceClasses := by
    intro deviceClass member
    rw [validateDeviceClassUpdate_congr (find?_name_reordered unique reorderedOld)]
    exact compatible.deviceClasses deviceClass (reordered.mem_iff.mp member)

end Update

/-- Both webhooks answer the same for every order of the device classes, in the object that is
sent and in the object that is stored. -/
theorem verdicts_reordered
    (v : Validator)
    (existing : Except GoError (List LVMCluster))
    (old old' l l' : LVMCluster)
    (unique : UniqueNames old)
    (reorderedOld : old'.spec.deviceClasses.Perm old.spec.deviceClasses)
    (reordered : l'.spec.deviceClasses.Perm l.spec.deviceClasses)
    (sameNamespace : l'.metadata.inNamespace = l.metadata.inNamespace) :
    ((v.validateCreate existing l').result = .ok () ↔
      (v.validateCreate existing l).result = .ok ()) ∧
    (AcceptsUpdate v old' l' ↔ AcceptsUpdate v old l) := by
  have unique' : UniqueNames old' := (reorderedOld.map _).nodup_iff.mpr unique
  constructor
  · rw [validateCreate_eq_ok_iff, validateCreate_eq_ok_iff, Creatable, Creatable,
      sameNamespace]
    exact and_congr_right fun _ => and_congr
      ⟨.reordered reordered.symm, .reordered reordered⟩
      ⟨.reordered reordered.symm, .reordered reordered⟩
  · rw [acceptsUpdate_iff, acceptsUpdate_iff]
    exact and_congr ⟨.reordered reordered.symm, .reordered reordered⟩
      ⟨.reordered unique' reorderedOld.symm reordered.symm,
        .reordered unique reorderedOld reordered⟩

theorem verdicts_reordered_swapped :
    AcceptsUpdate (.lenient "storage")
      (clusterOf [thinClass "vg2" "/dev/sdb" none, thinClass "vg1" "/dev/sda" none])
      (clusterOf [thinClass "vg2" "/dev/sdb" none, thinClass "vg1" "/dev/sda" none]) :=
  (verdicts_reordered (.lenient "storage") (.ok [])
    (clusterOf [thinClass "vg1" "/dev/sda" none, thinClass "vg2" "/dev/sdb" none])
    (clusterOf [thinClass "vg2" "/dev/sdb" none, thinClass "vg1" "/dev/sda" none])
    (clusterOf [thinClass "vg1" "/dev/sda" none, thinClass "vg2" "/dev/sdb" none])
    (clusterOf [thinClass "vg2" "/dev/sdb" none, thinClass "vg1" "/dev/sda" none])
    (by decide) (.swap _ _ []) (.swap _ _ []) rfl).2.mpr (by decide +kernel)

end Webhook
end Lvms
