import Lvms.Operator.Status
import Lvms.VgManager.Merging
import Mathlib.Data.Multiset.Lattice

/-!
# What the summaries of the cluster depend on

The state of the cluster should be that of its worst condition, whatever the order
of the conditions, and the list of the device classes should depend on the node
statuses only. Both are computed by loops whose order matters for some inputs.
-/

namespace Lvms

open Interaction

variable {conditions : List Condition}

/-! ## The worst condition -/

/-- The rank of a state: failed is the worst, then degraded, progressing, ready and
unknown. -/
def LVMStateType.rank : LVMStateType → Nat
  | .unknown => 0
  | .ready => 1
  | .progressing => 2
  | .degraded => 3
  | .failed => 4

theorem LVMStateType.rank_injective : Function.Injective LVMStateType.rank := by
  intro left right same
  cases left <;> cases right <;> first | rfl | cases same

/-- Worse states are greater. -/
instance : LinearOrder LVMStateType :=
  LinearOrder.lift' LVMStateType.rank LVMStateType.rank_injective

instance : OrderBot LVMStateType where
  bot := .unknown
  bot_le _ := Nat.zero_le _

/-- The state that a reason stands for, if the operator knows the reason. -/
def knownState (reason : String) : Option LVMStateType :=
  if reason = reasonVGsFailed then some .failed
  else if reason = reasonVGsDegraded then some .degraded
  else if reason = reasonReconciliationInProgress ∨
      reason = reasonVGReadinessInProgress ∨ reason = reasonResourcesIncomplete then
    some .progressing
  else if reason = reasonResourcesAvailable ∨ reason = reasonVGsReady ∨
      reason = reasonVGsUnmanaged then some .ready
  else none

/-- The worst state of the reasons of conditions; reasons that the operator does not
know count as unknown. -/
def worstState (conditions : List Condition) : LVMStateType :=
  (Multiset.ofList (conditions.map fun condition =>
    (knownState condition.reason).getD .unknown)).sup

/-- A known reason makes the state worse, an unknown one forgets it. -/
theorem translateReasonToState_eq (reason : String) (state : LVMStateType) :
    translateReasonToState reason state =
      match knownState reason with
      | some known => state ⊔ known
      | none => .unknown := by
  unfold translateReasonToState knownState
  split_ifs <;> cases state <;> first | rfl | simp_all

/-- Over known reasons the loop computes the worst state. -/
theorem foldl_translateReasonToState
    (known : ∀ condition ∈ conditions, (knownState condition.reason).isSome)
    (state : LVMStateType) :
    conditions.foldl
        (fun state condition => translateReasonToState condition.reason state) state =
      state ⊔ worstState conditions := by
  induction conditions generalizing state with
  | nil => exact (sup_bot_eq state).symm
  | cons condition rest inductionHypothesis =>
      rw [List.forall_mem_cons] at known
      obtain ⟨worse, isWorse⟩ := Option.isSome_iff_exists.mp known.1
      rw [List.foldl_cons, inductionHypothesis known.2, translateReasonToState_eq, isWorse,
        sup_assoc]
      simp [worstState, isWorse]

/-- Unknown reasons leave the state unknown. -/
theorem foldl_of_unknown
    (unknown : ∀ condition ∈ conditions, knownState condition.reason = none) :
    conditions.foldl
        (fun state condition => translateReasonToState condition.reason state) .unknown =
      .unknown := by
  induction conditions with
  | nil => rfl
  | cons condition rest inductionHypothesis =>
      rw [List.forall_mem_cons] at unknown
      rw [List.foldl_cons, translateReasonToState_eq, unknown.1]
      exact inductionHypothesis unknown.2

/-- After an unknown reason nothing is left of the others. -/
theorem computeLVMClusterReadiness_append_unknown
    {condition : Condition}
    (conditions : List Condition)
    (unknown : knownState condition.reason = none) :
    computeLVMClusterReadiness (conditions ++ [condition]) = (.unknown, false) := by
  rw [computeLVMClusterReadiness, List.foldl_append]
  simp [translateReasonToState_eq, unknown]

/-- The order of the conditions does not matter. -/
theorem worstState_perm
    {permuted : List Condition}
    (isPermuted : permuted.Perm conditions) :
    worstState permuted = worstState conditions := by
  rw [worstState, worstState, Multiset.coe_eq_coe.mpr (isPermuted.map _)]

/-- No condition is worse than the worst. -/
theorem le_worstState
    {condition : Condition}
    {known : LVMStateType}
    (member : condition ∈ conditions)
    (isKnown : knownState condition.reason = some known) :
    known ≤ worstState conditions := by
  apply Multiset.le_sup
  simpa using ⟨condition, member, by rw [isKnown, Option.getD_some]⟩

theorem worstState_eq_unknown
    (unknown : ∀ condition ∈ conditions, knownState condition.reason = none) :
    worstState conditions = .unknown := by
  apply le_antisymm _ bot_le
  apply Multiset.sup_le.mpr
  simp only [Multiset.mem_coe, List.mem_map, forall_exists_index, and_imp,
    forall_apply_eq_imp_iff₂]
  intro condition member
  rw [unknown condition member, Option.getD_none]
  exact le_rfl

theorem knownState_ne_unknown
    {reason : String}
    {known : LVMStateType}
    (isKnown : knownState reason = some known) :
    ¬ known ≤ .unknown := by
  unfold knownState at isKnown
  split_ifs at isKnown <;> cases isKnown <;> decide

/-- The readiness of conditions is their worst state, whatever their order, and says
ready if that state is. -/
structure ReadinessIsWorst (conditions : List Condition) : Prop where
  worst : (computeLVMClusterReadiness conditions).1 = worstState conditions
  permuted : ∀ permuted : List Condition, permuted.Perm conditions →
    computeLVMClusterReadiness permuted = computeLVMClusterReadiness conditions
  flag : (computeLVMClusterReadiness conditions).2 = true ↔
    worstState conditions = .ready

/-- The readiness is the worst state exactly if the operator knows all the reasons or
none of them: an unknown reason makes it forget the reasons before. -/
theorem readinessIsWorst_iff (conditions : List Condition) :
    ReadinessIsWorst conditions ↔
      (∀ condition ∈ conditions, (knownState condition.reason).isSome) ∨
        ∀ condition ∈ conditions, knownState condition.reason = none := by
  constructor
  · intro readiness
    by_contra mixed
    push Not at mixed
    obtain ⟨⟨foreign, isForeign, notKnown⟩, condition, member, conditionKnown⟩ :=
      mixed
    obtain ⟨known, isKnown⟩ := Option.ne_none_iff_exists'.mp conditionKnown
    have foreignUnknown := Option.not_isSome_iff_eq_none.mp notKnown
    -- With the unknown reason at the end the state is unknown.
    have moved : (conditions.erase foreign ++ [foreign]).Perm conditions :=
      (List.perm_append_singleton _ _).trans (List.perm_cons_erase isForeign).symm
    have forgets := readiness.permuted _ moved
    rw [computeLVMClusterReadiness_append_unknown _ foreignUnknown] at forgets
    have worst : worstState conditions = .unknown := by
      rw [← readiness.worst, ← forgets]
    exact knownState_ne_unknown isKnown (worst ▸ le_worstState member isKnown)
  · intro reasons
    have computes : ∀ permuted : List Condition, permuted.Perm conditions →
        computeLVMClusterReadiness permuted =
          (worstState conditions, decide (worstState conditions = .ready)) := by
      intro permuted isPermuted
      have folds : permuted.foldl
          (fun state condition => translateReasonToState condition.reason state)
          .unknown = worstState conditions := by
        rcases reasons with known | unknown
        · rw [foldl_translateReasonToState fun condition member =>
            known condition (isPermuted.mem_iff.mp member), worstState_perm isPermuted]
          exact bot_sup_eq _
        · rw [worstState_eq_unknown unknown]
          exact foldl_of_unknown fun condition member =>
            unknown condition (isPermuted.mem_iff.mp member)
      simp only [computeLVMClusterReadiness, folds]
    have own := computes conditions (.refl _)
    refine ⟨congrArg Prod.fst own, fun permuted isPermuted => ?_, ?_⟩
    · rw [computes permuted isPermuted, own]
    · rw [own, decide_eq_true_iff]

/-- A failed volume group and a condition that another component has added. -/
def foreignConditions : List Condition :=
  [⟨volumeGroupsReady, false, reasonVGsFailed, "One or more VGs are failed"⟩,
    ⟨"Reachable", true, "AsExpected", ""⟩]

theorem foreignConditions_hide_failure :
    worstState foreignConditions = .failed ∧
      computeLVMClusterReadiness foreignConditions = (.unknown, false) ∧
      computeLVMClusterReadiness foreignConditions.reverse = (.failed, false) := by
  decide

/-! ## The device classes -/

/-- The states of the volume groups on the nodes, in the order of the node
statuses. -/
def nodeStatusesOf (statuses : List LVMVolumeGroupNodeStatus) : List NodeStatus :=
  statuses.flatMap fun nodeItem =>
    nodeItem.lvmVGStatus.map fun item => ⟨nodeItem.metadata.name, item⟩

/-- The volume group that a state is about. -/
abbrev NodeStatus.vgName (status : NodeStatus) : String :=
  status.vgStatus.name

/-- A map that holds listed states by the name of their volume group. -/
structure GroupedBy
    (listed : List NodeStatus)
    (entries : GoMap (List NodeStatus)) : Prop where
  unique : entries.keys.Nodup
  keys : ∀ name, name ∈ entries.keys ↔ name ∈ listed.map NodeStatus.vgName
  found : ∀ name, (entries.get? name).getD [] = listed.filter (·.vgName == name)

theorem GroupedBy.nil : GroupedBy [] [] where
  unique := List.nodup_nil
  keys := by simp [GoMap.keys]
  found := by simp [GoMap.get?]

/-- Appending a state to the entry of its volume group. -/
theorem GroupedBy.append
    {listed : List NodeStatus}
    {entries : GoMap (List NodeStatus)}
    (grouped : GroupedBy listed entries)
    (status : NodeStatus) :
    GroupedBy (listed ++ [status])
      (entries.set status.vgName
        ((entries.get? status.vgName).getD [] ++ [status])) where
  unique := GoMap.nodup_keys_set grouped.unique
  keys := by
    intro name
    rw [GoMap.mem_keys_set, grouped.keys, List.map_append, List.mem_append, or_comm]
    simp
  found := by
    intro name
    rw [List.filter_append, ← grouped.found]
    by_cases same : name = status.vgName
    · subst same
      simp [GoMap.get?_set_self]
    · rw [GoMap.get?_set_other _ _ same]
      simp [Ne.symm same]

theorem GroupedBy.foldl
    {listed : List NodeStatus}
    {entries : GoMap (List NodeStatus)}
    (grouped : GroupedBy listed entries)
    (others : List NodeStatus) :
    GroupedBy (listed ++ others)
      (others.foldl (fun entries status => entries.set status.vgName
        ((entries.get? status.vgName).getD [] ++ [status])) entries) := by
  induction others generalizing listed entries with
  | nil => simpa using grouped
  | cons status rest inductionHypothesis =>
      rw [List.foldl_cons, List.append_cons]
      exact inductionHypothesis (grouped.append status)

/-- The loops over the node statuses group the listed states. -/
theorem vgNodeMap_groupedBy (statuses : List LVMVolumeGroupNodeStatus) :
    GroupedBy (nodeStatusesOf statuses) (vgNodeMap statuses) := by
  have folds := GroupedBy.nil.foldl (nodeStatusesOf statuses)
  simpa only [List.nil_append, vgNodeMap, nodeStatusesOf, List.foldl_flatMap,
    List.foldl_map] using folds

/-- A list that the operator can compute from the node statuses. -/
def Computes
    (statuses : List LVMVolumeGroupNodeStatus)
    (result : List DeviceClassStatus) : Prop :=
  ∃ node world events after,
    Exec (environment node) (computeDeviceClassStatuses statuses) world events result
      after

/-- The operator can compute the entries in every order of their names. -/
theorem computes_iff
    {statuses : List LVMVolumeGroupNodeStatus}
    {result : List DeviceClassStatus} :
    Computes statuses result ↔
      ∃ order : List String, order.Perm (vgNodeMap statuses).keys ∧
        result = order.map fun name =>
          ⟨name, (nodeStatusesOf statuses).filter (·.vgName == name)⟩ := by
  have entries : ∀ order : List String,
      (order.map fun name =>
        (⟨name, ((vgNodeMap statuses).get? name).getD []⟩ : DeviceClassStatus)) =
      order.map fun name =>
        ⟨name, (nodeStatusesOf statuses).filter (·.vgName == name)⟩ := by
    intro order
    simp only [(vgNodeMap_groupedBy statuses).found]
  constructor
  · rintro ⟨node, world, events, after, ran⟩
    obtain ⟨_, order, _, _, ordered, returned, rfl⟩ := Exec.bind_iff.mp ran
    obtain ⟨-, rfl, -⟩ := Exec.pure_iff.mp returned
    exact ⟨order, (mapOrder_perm ordered).1, entries order⟩
  · rintro ⟨order, permuted, rfl⟩
    rw [← entries]
    -- The world does not matter.
    refine ⟨"", ⟨⟨fun _ => []⟩, fun _ => {}, fun _ => {}⟩, _, _, Exec.bind_iff.mpr
      ⟨_, order, _, _, exec_call_iff.mpr ⟨{ order }, rfl, ?_, rfl⟩, Exec.pure_iff.mpr
        ⟨rfl, rfl, rfl⟩, rfl⟩⟩
    simp [World.respond, List.isPerm_iff.mpr permuted]

/-- Every state stands once in a list of device classes, in the entry of its volume
group, and every volume group has one entry. -/
structure Regroups
    (statuses : List LVMVolumeGroupNodeStatus)
    (result : List DeviceClassStatus) : Prop where
  names : (result.map (·.name)).Nodup
  entries : ∀ name, name ∈ result.map (·.name) ↔
    name ∈ (nodeStatusesOf statuses).map NodeStatus.vgName
  named : ∀ entry ∈ result, ∀ status ∈ entry.nodeStatus, status.vgName = entry.name
  once : (result.flatMap (·.nodeStatus)).Perm (nodeStatusesOf statuses)

/-- What is computed is the same statuses by volume group. -/
theorem Computes.regroups
    {statuses : List LVMVolumeGroupNodeStatus}
    {result : List DeviceClassStatus}
    (computes : Computes statuses result) :
    Regroups statuses result := by
  obtain ⟨order, permuted, rfl⟩ := computes_iff.mp computes
  have grouped := vgNodeMap_groupedBy statuses
  have names : ∀ name, name ∈ order ↔
      name ∈ (nodeStatusesOf statuses).map NodeStatus.vgName := by
    intro name
    rw [permuted.mem_iff, grouped.keys]
  have unique : order.Nodup := permuted.nodup_iff.mpr grouped.unique
  have listed : (order.map fun name => (⟨name, (nodeStatusesOf statuses).filter
      (·.vgName == name)⟩ : DeviceClassStatus)).map (·.name) = order := by
    simp [Function.comp_def]
  refine ⟨by rwa [listed], by rwa [listed], ?_, ?_⟩
  · simp only [List.mem_map, forall_exists_index, and_imp, forall_apply_eq_imp_iff₂,
      List.mem_filter, beq_iff_eq]
    intro name _ status _ same
    exact same
  · rw [List.flatMap_map]
    exact flatMap_filter_key_perm unique fun status member =>
      (names _).mpr (List.mem_map_of_mem member)

/-- The operator regroups the states, and computes one list only. -/
structure CanonicalRegrouping (statuses : List LVMVolumeGroupNodeStatus) : Prop where
  regroups : ∀ result, Computes statuses result → Regroups statuses result
  canonical : ∀ first second,
    Computes statuses first → Computes statuses second → first = second

/-- The states are always regrouped, but the list depends on nothing else exactly if
the nodes report at most one volume group. -/
theorem canonicalRegrouping_iff (statuses : List LVMVolumeGroupNodeStatus) :
    (∀ result, Computes statuses result → Regroups statuses result) ∧
      (CanonicalRegrouping statuses ↔
        ∀ first ∈ nodeStatusesOf statuses, ∀ second ∈ nodeStatusesOf statuses,
          first.vgName = second.vgName) := by
  have grouped := vgNodeMap_groupedBy statuses
  refine ⟨fun _ => Computes.regroups, ?_, ?_⟩
  · intro regrouping first isFirst second isSecond
    -- The name of each of the two can come first.
    have leads : ∀ status ∈ nodeStatusesOf statuses, ∃ rest : List String,
        (status.vgName :: rest).Perm (vgNodeMap statuses).keys := by
      intro status member
      exact ⟨_, (List.perm_cons_erase
        ((grouped.keys _).mpr (List.mem_map_of_mem member))).symm⟩
    obtain ⟨rest, firstLeads⟩ := leads first isFirst
    obtain ⟨others, secondLeads⟩ := leads second isSecond
    have same := regrouping.canonical _ _ (computes_iff.mpr ⟨_, firstLeads, rfl⟩)
      (computes_iff.mpr ⟨_, secondLeads, rfl⟩)
    simp only [List.map_cons, List.cons.injEq, DeviceClassStatus.mk.injEq] at same
    exact same.1.1
  · intro single
    refine ⟨fun _ => Computes.regroups, fun first second isFirst isSecond => ?_⟩
    obtain ⟨order, permuted, rfl⟩ := computes_iff.mp isFirst
    obtain ⟨other, permutedToo, rfl⟩ := computes_iff.mp isSecond
    have named : ∀ name ∈ (vgNodeMap statuses).keys,
        ∃ status ∈ nodeStatusesOf statuses, status.vgName = name := by
      intro name member
      exact List.mem_map.mp ((grouped.keys name).mp member)
    have equal : order = other := by
      have related : ∀ names : List String, names.Pairwise fun _ _ => True :=
        fun names => List.pairwise_of_forall fun _ _ => trivial
      refine List.Perm.eq_of_pairwise ?_ (related order) (related other)
        (permuted.trans permutedToo.symm)
      intro left right isLeft isRight _ _
      obtain ⟨status, member, rfl⟩ := named left (permuted.mem_iff.mp isLeft)
      obtain ⟨status', member', rfl⟩ := named right (permutedToo.mem_iff.mp isRight)
      exact single status member status' member'
    rw [equal]

/-- A node that reports two volume groups. -/
def twoGroups : List LVMVolumeGroupNodeStatus :=
  [{ metadata := { name := "node" }
     lvmVGStatus := [{ name := "vg1", status := .ready },
       { name := "vg2", status := .ready }] }]

/-- The same node status gives the device classes in two orders. -/
theorem twoGroups_twoOrders :
    ∃ first second : DeviceClassStatus, first ≠ second ∧
      Computes twoGroups [first, second] ∧ Computes twoGroups [second, first] := by
  refine ⟨⟨"vg1", [⟨"node", { name := "vg1", status := .ready }⟩]⟩,
    ⟨"vg2", [⟨"node", { name := "vg2", status := .ready }⟩]⟩, by decide,
    computes_iff.mpr ⟨["vg1", "vg2"], ?_, ?_⟩, computes_iff.mpr ⟨["vg2", "vg1"], ?_, ?_⟩⟩
  all_goals decide

end Lvms
