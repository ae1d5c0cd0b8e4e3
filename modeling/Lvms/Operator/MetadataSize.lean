import Lvms.Operator.Admission
import Mathlib.Data.List.Chain

/-!
# Metadata sizes along a chain of updates

`ValidateUpdate` compares the static metadata size of a thin pool with the one in the
object it replaces. While the policy is `Host` there is no static size, so the first
static size after that is compared with nothing.
-/

namespace Lvms
namespace Webhook

/-- The static metadata size of a device class, in bytes; none under the policy
`Host`. -/
def staticSize (name : String) (l : LVMCluster) : Option Int :=
  match (deviceClassNamed l name).bind (·.thinPoolConfig) with
  | some config =>
      if config.metadataSizeCalculationPolicy = .static then
        some (config.metadataSize.getD thinPoolMetadataSizeDefault).value
      else none
  | none => none

/-- The static sizes of a sequence of specs, in order. -/
def staticSizes (name : String) (specs : List LVMCluster) : List Int :=
  specs.filterMap (staticSize name)

/-- Whenever a static size is set under the policy `Host`, it is at least the last
static size before. -/
def ReturnsCarefully (name : String) (specs : List LVMCluster) : Prop :=
  ∀ earlier old new later, specs = earlier ++ old :: new :: later →
    staticSize name old = none →
    ∀ size, staticSize name new = some size →
      ∀ last, (staticSizes name earlier).getLast? = some last → last ≤ size

/-- A direct update of a static size only increases it. -/
theorem AcceptsUpdate.staticSize_le
    {v : Validator}
    {old new : LVMCluster}
    {name : String}
    {oldSize newSize : Int}
    (accepted : AcceptsUpdate v old new)
    (isOld : staticSize name old = some oldSize)
    (isNew : staticSize name new = some newSize) :
    oldSize ≤ newSize := by
  have compatible := (acceptsUpdate_iff.mp accepted).2
  unfold staticSize at isOld isNew
  split at isOld
  · rename_i oldConfig wasThere
    split at isNew
    · rename_i newConfig isThere
      obtain ⟨before, found, isOldConfig⟩ := Option.bind_eq_some_iff.mp wasThere
      obtain ⟨deviceClass, foundNew, isNewConfig⟩ := Option.bind_eq_some_iff.mp isThere
      have named : deviceClass.name = name := by
        simpa using List.find?_some foundNew
      have kept := (validateDeviceClassUpdate_eq_ok_iff (named.symm ▸ found)).mp
        (compatible.deviceClasses deviceClass (List.mem_of_find?_eq_some foundNew))
      have grows := kept.metadata newConfig isNewConfig oldConfig isOldConfig
      split at isOld
      · rename_i oldStatic
        split at isNew
        · rename_i newStatic
          rw [← Option.some.inj isOld, ← Option.some.inj isNew]
          exact grows newStatic oldStatic
        · cases isNew
      · cases isOld
    · cases isNew
  · cases isOld

/-- A sorted sequence stays sorted when the next size is at least the last one. -/
theorem pairwise_concat_iff
    {sizes : List Int}
    {size : Int} :
    (sizes ++ [size]).Pairwise (· ≤ ·) ↔
      sizes.Pairwise (· ≤ ·) ∧ ∀ last, sizes.getLast? = some last → last ≤ size := by
  rw [← List.isChain_iff_pairwise, ← List.isChain_iff_pairwise, List.isChain_append]
  simp

theorem staticSizes_concat
    {name : String}
    {specs : List LVMCluster}
    {new : LVMCluster} :
    staticSizes name (specs ++ [new]) =
      staticSizes name specs ++ (staticSize name new).toList := by
  rw [staticSizes, List.filterMap_append]
  cases isSize : staticSize name new <;> simp [staticSizes, isSize]

theorem ReturnsCarefully.of_concat
    {name : String}
    {specs : List LVMCluster}
    {new : LVMCluster}
    (careful : ReturnsCarefully name (specs ++ [new])) :
    ReturnsCarefully name specs := by
  intro earlier old next later split
  exact careful earlier old next (later ++ [new]) (by simp [split])

/-- In a chain of accepted updates the static sizes are sorted exactly if every return
from the policy `Host` is careful. -/
theorem staticSizes_sorted_iff
    {v : Validator}
    {name : String}
    {specs : List LVMCluster}
    (accepted : specs.IsChain (AcceptsUpdate v)) :
    (staticSizes name specs).Pairwise (· ≤ ·) ↔ ReturnsCarefully name specs := by
  constructor
  · rintro sorted earlier old new later rfl - size isSize last isLast
    rw [staticSizes, List.filterMap_append, List.pairwise_append] at sorted
    refine sorted.2.2 last (List.mem_of_getLast? isLast) size ?_
    exact List.mem_filterMap.mpr ⟨new, by simp, isSize⟩
  · induction specs using List.reverseRecOn with
    | nil => exact fun _ => .nil
    | append_singleton specs new inductionHypothesis =>
        intro careful
        rw [List.isChain_append] at accepted
        have sorted := inductionHypothesis accepted.1 careful.of_concat
        rw [staticSizes_concat]
        cases isSize : staticSize name new with
        | none => simpa using sorted
        | some size =>
            refine pairwise_concat_iff.mpr ⟨sorted, fun last isLast => ?_⟩
            -- the predecessor has a static size itself, or the return is careful
            rcases List.eq_nil_or_concat' specs with rfl | ⟨earlier, old, rfl⟩
            · simp [staticSizes] at isLast
            · rw [staticSizes_concat] at isLast
              cases isOld : staticSize name old with
              | none =>
                  rw [isOld, Option.toList_none, List.append_nil] at isLast
                  exact careful earlier old new [] (by simp) isOld size isSize last isLast
              | some oldSize =>
                  rw [isOld, Option.toList_some, List.getLast?_concat] at isLast
                  rw [← Option.some.inj isLast]
                  exact AcceptsUpdate.staticSize_le
                    (accepted.2.2 old (by simp) new (by simp)) isOld isSize

/-- A cluster whose thin pool has a metadata policy and size. -/
def pooledCluster (policy : SizePolicy) (size : Option Quantity) : LVMCluster :=
  clusterOf [{
    name := "vg1"
    deviceSelector := some { paths := ["/dev/sda"] }
    thinPoolConfig := some {
      name := "pool"
      overprovisionRatio := 10
      metadataSizeCalculationPolicy := policy
      metadataSize := size } }]

/-- A static size is increased after a stretch under the policy `Host`. -/
def growingSpecs : List LVMCluster :=
  [pooledCluster .static none, pooledCluster .host none,
    pooledCluster .static (some (bytes 4294967296 "4Gi"))]

theorem staticSizes_sorted_iff_growing :
    (staticSizes "vg1" growingSpecs).Pairwise (· ≤ ·) ↔
      ReturnsCarefully "vg1" growingSpecs :=
  staticSizes_sorted_iff (v := .lenient "storage") (by decide +kernel)

/-- The device class is there, with a thin pool. -/
def HasThinPool (name : String) (l : LVMCluster) : Prop :=
  ((deviceClassNamed l name).bind (·.thinPoolConfig)).isSome = true

instance (name : String) (l : LVMCluster) : Decidable (HasThinPool name l) :=
  inferInstanceAs (Decidable (_ = true))

/-- A detour over the policy `Host` shrinks the static size from four gibibytes to the
default of one. -/
theorem static_size_shrinks :
    ¬ ∀ (v : Validator) (name : String) (specs : List LVMCluster),
      specs.IsChain (AcceptsUpdate v) → (∀ l ∈ specs, HasThinPool name l) →
      (staticSizes name specs).Pairwise (· ≤ ·) := by
  intro sorted
  have shrinks := sorted (.lenient "storage") "vg1" growingSpecs.reverse (by decide +kernel)
    (by decide +kernel)
  revert shrinks
  decide +kernel

end Webhook
end Lvms
