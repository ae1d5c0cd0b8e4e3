import Lvms.Operator.Admission

/-!
# Device paths of different device classes

The overlap check records every path under the node selector of its device class.
Two classes with one selector therefore never share a path, while nothing is known
about classes with different selectors.
-/

namespace Lvms

open Interaction

namespace Webhook

variable {claimed later : ClaimedPaths}

/-- The paths of a device class, mandatory ones first. -/
def pathsOf (deviceClass : DeviceClass) : List DevicePath :=
  match deviceClass.deviceSelector with
  | none => []
  | some selector => selector.paths ++ selector.optionalPaths

/-- The keys under which the paths of a device class are recorded. -/
def claimsOf (deviceClass : DeviceClass) : List (Option NodeSelector × DevicePath) :=
  (pathsOf deviceClass).map fun path => (deviceClass.nodeSelector, path)

/-- The keys that have been recorded, oldest first. -/
def keysOf (claimed : ClaimedPaths) : List (Option NodeSelector × DevicePath) :=
  (claimed.map Prod.fst).reverse

/-- The recorded keys are extended by new ones, and stay distinct. -/
structure Extends
    (claimed later : ClaimedPaths)
    (added : List (Option NodeSelector × DevicePath)) : Prop where
  keys : keysOf later = keysOf claimed ++ added
  distinct : (keysOf claimed).Nodup → (keysOf later).Nodup

theorem Extends.refl (claimed : ClaimedPaths) : Extends claimed claimed [] :=
  ⟨by simp, id⟩

theorem Extends.trans
    {middle : ClaimedPaths}
    {first second : List (Option NodeSelector × DevicePath)}
    (early : Extends claimed middle first)
    (late : Extends middle later second) :
    Extends claimed later (first ++ second) where
  keys := by rw [late.keys, early.keys, List.append_assoc]
  distinct := fun start => late.distinct (early.distinct start)

/-- A path that is recorded was not recorded before. -/
theorem claimPath_extends
    {kind : String}
    {deviceClass : DeviceClass}
    {path : DevicePath}
    (recorded : claimPath kind deviceClass claimed path = .ok later) :
    Extends claimed later [(deviceClass.nodeSelector, path)] := by
  unfold claimPath at recorded
  split at recorded
  · split at recorded <;> cases recorded
  · rename_i fresh
    obtain rfl := Except.ok.inj recorded
    have keys : keysOf (((deviceClass.nodeSelector, path), deviceClass.name) :: claimed) =
        keysOf claimed ++ [(deviceClass.nodeSelector, path)] := by
      simp [keysOf]
    refine ⟨keys, fun distinct => ?_⟩
    have absent : (deviceClass.nodeSelector, path) ∉ keysOf claimed := by
      intro present
      obtain ⟨⟨key, owner⟩, member, rfl⟩ :=
        List.mem_map.mp (List.mem_reverse.mp present)
      exact absurd (List.lookup_eq_none_iff.mp fresh _ member) (by simp)
    rw [keys, List.nodup_append]
    refine ⟨distinct, List.nodup_singleton _, ?_⟩
    rintro key member _ (_ | ⟨_, ⟨⟩⟩) rfl
    exact absent member

/-- A fold of steps that extend the keys extends them by all of theirs. -/
theorem foldlM_extends
    {α : Type}
    {step : ClaimedPaths → α → Except GoError ClaimedPaths}
    {keys : α → List (Option NodeSelector × DevicePath)}
    (extend : ∀ claimed element later, step claimed element = .ok later →
      Extends claimed later (keys element))
    {elements : List α}
    (recorded : elements.foldlM step claimed = .ok later) :
    Extends claimed later (elements.flatMap keys) := by
  induction elements generalizing claimed with
  | nil =>
      obtain rfl := Except.ok.inj recorded
      exact Extends.refl claimed
  | cons element rest inductionHypothesis =>
      rw [List.foldlM_cons] at recorded
      obtain ⟨middle, first, others⟩ := Except.bind_eq_ok_iff.mp recorded
      rw [List.flatMap_cons]
      exact (extend _ _ _ first).trans (inductionHypothesis others)

theorem claimPaths_extends
    {deviceClass : DeviceClass}
    (recorded : claimPaths claimed deviceClass = .ok later) :
    Extends claimed later (claimsOf deviceClass) := by
  unfold claimPaths at recorded
  unfold claimsOf pathsOf
  cases isSelector : deviceClass.deviceSelector with
  | none =>
      simp only [isSelector, Except.ok.injEq] at recorded
      exact recorded ▸ Extends.refl claimed
  | some selector =>
      simp only [isSelector] at recorded
      obtain ⟨middle, mandatory, optional⟩ := Except.bind_eq_ok_iff.mp recorded
      simp only [List.map_eq_flatMap, List.flatMap_append]
      exact (foldlM_extends (fun _ _ _ recorded => claimPath_extends recorded) mandatory).trans
        (foldlM_extends (fun _ _ _ recorded => claimPath_extends recorded) optional)

/-- The check passes only if no path is recorded twice. -/
theorem claims_nodup
    {l : LVMCluster}
    (passed : verifyNoDeviceOverlap l = .ok ()) :
    (l.spec.deviceClasses.flatMap claimsOf).Nodup := by
  obtain ⟨claimed, recorded, _⟩ := Except.bind_eq_ok_iff.mp passed
  have extended := foldlM_extends (fun _ _ _ claims => claimPaths_extends claims) recorded
  have distinct := extended.distinct List.nodup_nil
  rw [extended.keys] at distinct
  exact distinct

/-- Some path belongs to both device classes. -/
def SharePath (first second : DeviceClass) : Prop :=
  ∃ path ∈ pathsOf first, path ∈ pathsOf second

instance (first second : DeviceClass) : Decidable (SharePath first second) :=
  inferInstanceAs (Decidable (∃ path ∈ pathsOf first, path ∈ pathsOf second))

/-- Two different device classes with one node selector share no path. -/
theorem disjoint_of_sameSelector
    {l : LVMCluster}
    {first second : DeviceClass}
    (passed : verifyNoDeviceOverlap l = .ok ())
    (firstMember : first ∈ l.spec.deviceClasses)
    (secondMember : second ∈ l.spec.deviceClasses)
    (different : first ≠ second)
    (same : first.nodeSelector = second.nodeSelector) :
    ¬SharePath first second := by
  have pairwise := (List.nodup_flatMap.mp (claims_nodup passed)).2
  have symmetric : Std.Symm (Function.onFun List.Disjoint claimsOf) :=
    ⟨fun _ _ disjoint _ inSecond inFirst => disjoint inFirst inSecond⟩
  have disjoint := pairwise.forall firstMember secondMember different
  rintro ⟨path, inFirst, inSecond⟩
  refine disjoint (a := (first.nodeSelector, path)) (List.mem_map_of_mem inFirst) ?_
  rw [same]
  exact List.mem_map_of_mem inSecond

/-! ## Nodes that two device classes select -/

/-- The device class selects the node; without a selector it selects every
node. -/
def selects
    (matching : NodeSelector → Node → Bool)
    (deviceClass : DeviceClass)
    (node : Node) : Bool :=
  deviceClass.nodeSelector.all (matching · node)

/-- On no node do two different device classes claim one path, however selectors
are matched. -/
def ClaimedOnce (l : LVMCluster) : Prop :=
  ∀ (matching : NodeSelector → Node → Bool) (node : Node),
    ∀ first ∈ l.spec.deviceClasses, ∀ second ∈ l.spec.deviceClasses,
      first ≠ second →
      selects matching first node = true → selects matching second node = true →
      ¬SharePath first second

/-- An admitted cluster claims every path once per node exactly when device classes
with different node selectors share no path. -/
theorem claimedOnce_iff
    (v : Validator)
    (l : LVMCluster)
    (accepted : AcceptsCreate v l ∨ ∃ old, AcceptsUpdate v old l) :
    ClaimedOnce l ↔
      ∀ first ∈ l.spec.deviceClasses, ∀ second ∈ l.spec.deviceClasses,
        first.nodeSelector ≠ second.nodeSelector →
        ¬SharePath first second := by
  have wellFormed : WellFormed v l := by
    rcases accepted with created | ⟨old, updated⟩
    · exact created.wellFormed
    · exact (acceptsUpdate_iff.mp updated).1
  constructor
  · intro once first firstMember second secondMember different
    -- With a matching that admits every node both classes select it.
    refine once (fun _ _ => true) ⟨{ name := "node" }, []⟩ first firstMember second
      secondMember (fun same => different (congrArg _ same)) ?_ ?_ <;>
      simp [selects]
  · intro disjoint _ _ first firstMember second secondMember different _ _
    by_cases same : first.nodeSelector = second.nodeSelector
    · exact disjoint_of_sameSelector wellFormed.disjoint firstMember secondMember
        different same
    · exact disjoint first firstMember second secondMember same

/-- A device class on one disk of the nodes that a selector matches. -/
def diskClass (name path : String) (nodeSelector : Option NodeSelector) : DeviceClass where
  name := name
  deviceSelector := some { paths := [path] }
  nodeSelector := nodeSelector

theorem claimedOnce_iff_distinct :
    ClaimedOnce (clusterOf [diskClass "vg1" "/dev/sda" none,
      diskClass "vg2" "/dev/sdb" (some ⟨[{}]⟩)]) :=
  (claimedOnce_iff (.lenient "storage") _ (.inl ⟨.ok [], by decide +kernel⟩)).mpr
    (by decide)

/-- A class for every node and one for some nodes claim the same disk. -/
theorem path_claimed_twice :
    ¬∀ v l, (AcceptsCreate v l ∨ ∃ old, AcceptsUpdate v old l) → ClaimedOnce l := by
  intro always
  have once := always (.lenient "storage") (clusterOf [diskClass "vg1" "/dev/sda" none,
    diskClass "vg2" "/dev/sda" (some ⟨[{}]⟩)]) (.inl ⟨.ok [], by decide +kernel⟩)
  have disjoint := once (fun _ _ => true) ⟨{ name := "node" }, []⟩
    (diskClass "vg1" "/dev/sda" none) (by decide)
    (diskClass "vg2" "/dev/sda" (some ⟨[{}]⟩)) (by decide) (by decide) rfl rfl
  exact disjoint ⟨"/dev/sda", by decide, by decide⟩

end Webhook
end Lvms
