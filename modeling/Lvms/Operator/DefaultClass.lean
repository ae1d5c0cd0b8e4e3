import Lvms.Operator.Resources
import Lvms.Outcomes

/-!
# The default storage class

At most one storage class should be the default of a cluster. The storage class of
the default device class is marked unless the list of the storage classes has
another default; the operator looks only at the first default of that list.
-/

namespace Lvms

open Interaction

/-- A storage class is annotated as default. -/
def StorageClass.isDefault (sc : StorageClass) : Bool :=
  sc.metadata.annotations.get? defaultSCKey == some "true"

@[simp] theorem topolvmStorageClass_isDefault
    (cluster : LVMCluster)
    (deviceClass : DeviceClass)
    (isDefault : Bool) :
    (topolvmStorageClass cluster deviceClass isDefault).isDefault = isDefault := by
  cases isDefault <;> rfl

/-- The name of the first default of a list, or the empty name. -/
def firstDefaultName (classes : List StorageClass) : String :=
  ((classes.find? StorageClass.isDefault).map (·.metadata.name)).getD ""

/-- The storage class of a device class is marked, given the default so far. -/
def marks (listed : Bool) (current : String) (deviceClass : DeviceClass) : Bool :=
  deviceClass.default && listed &&
    (current == "" || current == getStorageClassName deviceClass.name)

/-- With one default device class the default so far never changes anything. -/
theorem storageClassesOf_eq_map
    {cluster : LVMCluster}
    {deviceClasses : List DeviceClass}
    (single : (deviceClasses.filter (·.default)).length ≤ 1)
    (listed : Bool)
    (current : String) :
    storageClassesOf cluster listed current deviceClasses =
      deviceClasses.map fun deviceClass =>
        topolvmStorageClass cluster deviceClass (marks listed current deviceClass) := by
  induction deviceClasses generalizing current with
  | nil => rfl
  | cons deviceClass rest inductionHypothesis =>
      rw [storageClassesOf, List.map_cons]
      cases isDefault : deviceClass.default with
      | false =>
          simp only [List.filter_cons, isDefault, Bool.false_eq_true, if_false] at single
          simp [marks, isDefault, inductionHypothesis single]
      | true =>
          simp only [List.filter_cons, isDefault, if_true, List.length_cons] at single
          have others : rest.filter (·.default) = [] :=
            List.eq_nil_of_length_eq_zero (by omega)
          rw [inductionHypothesis (by simp [others])]
          -- No later device class asks for the default so far.
          have unmarked : ∀ name, ∀ other ∈ rest, marks listed name other = false := by
            intro name other member
            have notDefault := List.filter_eq_nil_iff.mp others other member
            simp [marks, notDefault]
          congr 1
          · simp [marks, isDefault]
          · apply List.map_congr_left
            intro other member
            rw [unmarked _ other member, unmarked _ other member]

/-! ## The generated storage classes -/

/-- The operator can generate storage classes from a list of the existing ones, which
it has got or not. -/
def Generates
    (cluster : LVMCluster)
    (existing : List StorageClass)
    (listed : Bool)
    (generated : List StorageClass) : Prop :=
  ∃ node world events after, world.api.objects .storageClass = existing ∧
    Exec (environment node) (getTopolvmStorageClasses cluster) world events generated
      after ∧
    (listed = true ↔ ∀ event ∈ events, event.request.failure event.response = none)

/-- What is generated is determined by the first default of the list. -/
theorem Generates.eq
    {cluster : LVMCluster}
    {existing generated : List StorageClass}
    {listed : Bool}
    (generates : Generates cluster existing listed generated) :
    generated = storageClassesOf cluster listed
      (if listed then firstDefaultName existing else "") cluster.spec.deviceClasses := by
  obtain ⟨node, world, events, after, rfl, ran, succeeded⟩ := generates
  obtain ⟨_, answer, _, _, lists, returned, rfl⟩ := Exec.bind_iff.mp ran
  obtain ⟨rfl, look, rfl, -, outcome, objects⟩ := Client.list_cases lists
  cases answer with
  | error err =>
      obtain ⟨rfl, rfl, -⟩ := Exec.pure_iff.mp returned
      have failed : listed = false := by
        rw [← Bool.not_eq_true, succeeded]
        simp [outcome, errorOf]
      rw [failed]
      rfl
  | ok classes =>
      obtain rfl := objects classes rfl
      obtain ⟨rfl, rfl, -⟩ := Exec.pure_iff.mp returned
      have got : listed = true := by
        rw [succeeded]
        simp [outcome, errorOf]
      rw [got]
      rfl

/-- The list of the storage classes may fail or not. -/
theorem exists_generates
    (cluster : LVMCluster)
    (existing : List StorageClass)
    (listed : Bool) :
    ∃ generated, Generates cluster existing listed generated := by
  let world : World :=
    ⟨ApiServer.set ⟨fun _ => []⟩ .storageClass existing, fun _ => {}, fun _ => {}⟩
  let choice : Choice := { failure := if listed then none else some "" }
  have ran := Program.run_exec (environment "") (fun _ _ => choice)
    (getTopolvmStorageClasses cluster) world
  refine ⟨_, "", world, _, _, ApiServer.set_objects_self .., ran, ?_⟩
  cases listed with
  | true => exact ⟨fun _ => List.forall_mem_singleton.mpr rfl, fun _ => rfl⟩
  | false => exact ⟨nofun, fun succeeded => nomatch List.forall_mem_singleton.mp succeeded⟩

/-- The storage class of a device class is the default exactly if the device class is,
the existing storage classes could be listed, and no other one is a default. -/
structure ChosenByRule
    (cluster : LVMCluster)
    (existing : List StorageClass)
    (listed : Bool)
    (generated : List StorageClass) : Prop where
  marked : List.Forall₂
    (fun deviceClass sc => sc.metadata.name = getStorageClassName deviceClass.name ∧
      (sc.isDefault = true ↔ deviceClass.default = true ∧ listed = true ∧
        ∀ other ∈ existing, other.isDefault = true →
          other.metadata.name = sc.metadata.name))
    cluster.spec.deviceClasses generated
  single : (generated.filter StorageClass.isDefault).length ≤ 1

/-- Whatever the order of the existing storage classes, the default is chosen by the
rule, and the order does not matter. -/
structure DefaultByRule (cluster : LVMCluster) (existing : List StorageClass) : Prop where
  chosen : ∀ permuted, permuted.Perm existing → ∀ listed generated,
    Generates cluster permuted listed generated →
      ChosenByRule cluster existing listed generated
  ordered : ∀ permuted, permuted.Perm existing → ∀ listed generated generated',
    Generates cluster permuted listed generated →
      Generates cluster existing listed generated' → generated = generated'

/-- The defaults of a list do not leave room for doubt about a name: it is the only
one, or it is not among them. -/
def Undisputed (name : String) (existing : List StorageClass) : Prop :=
  (∀ sc ∈ existing, sc.isDefault = true → sc.metadata.name = name) ∨
    ∀ sc ∈ existing, sc.isDefault = true →
      sc.metadata.name ≠ "" ∧ sc.metadata.name ≠ name

theorem firstDefaultName_of_undisputed
    {name : String}
    {existing permuted : List StorageClass}
    (undisputed : Undisputed name existing)
    (isPermuted : permuted.Perm existing) :
    (firstDefaultName permuted = "" ∨ firstDefaultName permuted = name) ↔
      ∀ sc ∈ existing, sc.isDefault = true → sc.metadata.name = name := by
  unfold firstDefaultName
  cases found : permuted.find? StorageClass.isDefault with
  | none =>
      refine iff_of_true (.inl rfl) fun sc member isDefault => ?_
      exact absurd isDefault (List.find?_eq_none.mp found sc (isPermuted.mem_iff.mpr member))
  | some first =>
      have member := isPermuted.mem_iff.mp (List.mem_of_find?_eq_some found)
      have isDefault := List.find?_some found
      rcases undisputed with own | foreign
      · exact iff_of_true (.inr (own first member isDefault)) own
      · obtain ⟨isNamed, isOther⟩ := foreign first member isDefault
        refine iff_of_false ?_ fun own => isOther (own first member isDefault)
        rintro (empty | same)
        · exact isNamed empty
        · exact isOther same

section Choice

variable {cluster : LVMCluster} {existing : List StorageClass}

/-- With one default device class, what is generated for a device class depends on the
device class and the first default. -/
theorem Generates.eq_map
    {generated : List StorageClass}
    {listed : Bool}
    (single : (cluster.spec.deviceClasses.filter (·.default)).length ≤ 1)
    (generates : Generates cluster existing listed generated) :
    generated = cluster.spec.deviceClasses.map fun deviceClass =>
      topolvmStorageClass cluster deviceClass
        (marks listed (firstDefaultName existing) deviceClass) := by
  rw [generates.eq, storageClassesOf_eq_map single]
  cases listed with
  | true => rfl
  | false => simp [marks]

/-- If the default is undisputed, a storage class is marked by the rule. -/
theorem marks_iff_of_undisputed
    {permuted : List StorageClass}
    {deviceClass : DeviceClass}
    {listed : Bool}
    (undisputed : deviceClass.default = true →
      Undisputed (getStorageClassName deviceClass.name) existing)
    (isPermuted : permuted.Perm existing) :
    marks listed (firstDefaultName permuted) deviceClass = true ↔
      deviceClass.default = true ∧ listed = true ∧
        ∀ other ∈ existing, other.isDefault = true →
          other.metadata.name = getStorageClassName deviceClass.name := by
  simp only [marks, Bool.and_eq_true, Bool.or_eq_true, beq_iff_eq, and_assoc]
  refine and_congr_right fun isDefault => and_congr_right fun _ => ?_
  exact firstDefaultName_of_undisputed (undisputed isDefault) isPermuted

/-- The default is chosen by the rule exactly if the storage class of the default device
class and another one are not both defaults already. -/
theorem defaultByRule_iff
    (single : (cluster.spec.deviceClasses.filter (·.default)).length ≤ 1) :
    DefaultByRule cluster existing ↔
      ∀ deviceClass ∈ cluster.spec.deviceClasses, deviceClass.default = true →
        Undisputed (getStorageClassName deviceClass.name) existing := by
  constructor
  · intro byRule deviceClass member isDefault
    by_contra disputed
    simp only [Undisputed, not_or, not_forall, exists_prop, not_and_or, not_not]
      at disputed
    obtain ⟨⟨other, isOther, otherDefault, foreign⟩, rival, isRival, rivalDefault, takes⟩ :=
      disputed
    -- The rival can be the first of the list, so the storage class is marked.
    have permuted := (List.perm_cons_erase isRival).symm
    obtain ⟨generated, generates⟩ :=
      exists_generates cluster (rival :: existing.erase rival) true
    have marked := (byRule.chosen _ permuted _ _ generates).marked
    rw [generates.eq_map single, List.forall₂_map_right_iff, List.forall₂_same] at marked
    have first : firstDefaultName (rival :: existing.erase rival) = rival.metadata.name := by
      simp [firstDefaultName, rivalDefault]
    have isMarked := (marked deviceClass member).2
    rw [topolvmStorageClass_isDefault, first] at isMarked
    have marks : marks true rival.metadata.name deviceClass = true := by
      rcases takes with empty | own
      · simp [marks, isDefault, empty]
      · simp [marks, isDefault, own]
    exact foreign ((isMarked.mp marks).2.2 other isOther otherDefault)
  · intro undisputed
    constructor
    · intro permuted isPermuted listed generated generates
      rw [generates.eq_map single]
      constructor
      · rw [List.forall₂_map_right_iff, List.forall₂_same]
        intro deviceClass member
        rw [topolvmStorageClass_isDefault]
        exact ⟨rfl, marks_iff_of_undisputed (undisputed deviceClass member) isPermuted⟩
      · rw [List.filter_map, List.length_map]
        refine (List.Sublist.length_le (List.monotone_filter_right _ ?_)).trans single
        intro deviceClass isMarked
        simp only [Function.comp_apply, topolvmStorageClass_isDefault, marks,
          Bool.and_eq_true] at isMarked
        exact isMarked.1.1
    · intro permuted isPermuted listed generated generated' generates generates'
      rw [generates.eq_map single, generates'.eq_map single]
      apply List.map_congr_left
      intro deviceClass member
      congr 1
      rw [Bool.eq_iff_iff, marks_iff_of_undisputed (undisputed deviceClass member) isPermuted,
        marks_iff_of_undisputed (undisputed deviceClass member) (.refl _)]

end Choice

/-- A cluster with one device class, the default. -/
def oneDefaultCluster : LVMCluster where
  metadata := { name := "lvmcluster" }
  spec := { deviceClasses := [{ name := "vg1", default := true }] }

/-- A storage class that is annotated as default. -/
def defaultClassNamed (name : String) : StorageClass where
  metadata := { name, annotations := [(defaultSCKey, "true")] }
  provisioner := ""
  reclaimPolicy := none
  volumeBindingMode := none

theorem defaultByRule_iff_foreign :
    DefaultByRule oneDefaultCluster [defaultClassNamed "standard"] ↔
      ∀ deviceClass ∈ oneDefaultCluster.spec.deviceClasses, deviceClass.default = true →
        Undisputed (getStorageClassName deviceClass.name) [defaultClassNamed "standard"] :=
  defaultByRule_iff (by decide)

/-- Beside another default the storage class of the cluster stays a default if it is
listed first. -/
theorem two_defaults_by_order :
    ∃ first second,
      Generates oneDefaultCluster
        [defaultClassNamed "lvms-vg1", defaultClassNamed "standard"] true first ∧
      Generates oneDefaultCluster
        [defaultClassNamed "standard", defaultClassNamed "lvms-vg1"] true second ∧
      first.map StorageClass.isDefault = [true] ∧
      second.map StorageClass.isDefault = [false] := by
  obtain ⟨first, generates⟩ := exists_generates oneDefaultCluster
    [defaultClassNamed "lvms-vg1", defaultClassNamed "standard"] true
  obtain ⟨second, generates'⟩ := exists_generates oneDefaultCluster
    [defaultClassNamed "standard", defaultClassNamed "lvms-vg1"] true
  refine ⟨first, second, generates, generates', ?_, ?_⟩
  · rw [generates.eq]
    decide +kernel
  · rw [generates'.eq]
    decide +kernel

end Lvms
