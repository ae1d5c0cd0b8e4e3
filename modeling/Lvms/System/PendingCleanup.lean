import Lvms.Operator.Rollout
import Lvms.System
import Lvms.System.Defaults

/-!
# Nodes with a pending cleanup

A node that has set up a volume group is noted in its finalizers until its vg-manager has
cleaned up. The daemon set of the vg-manager, however, follows the node selectors of the
device classes that the cluster has now. This module says when the two fit together.
-/

namespace Lvms

open Interaction

/-! ## Nodes and affinities -/

/-- A node affinity admits a node: one of its terms matches, or there is no affinity. -/
def admittedBy
    (matchTerm : Node → NodeSelectorTerm → Bool)
    (affinity : Option NodeSelector)
    (node : Node) : Bool :=
  affinity.all fun selector => selector.nodeSelectorTerms.any (matchTerm node)

/-- A node has to clean up for a cluster, and the pods of the cluster tolerate it. -/
structure CleanupPending
    (tolerates : List Toleration → Taint → Bool)
    (cluster : LVMCluster)
    (world : World)
    (node : Node) : Prop where
  known : node ∈ world.api.objects .node
  tolerated : ∀ taint ∈ node.taints, tolerates cluster.spec.tolerations taint = true
  finalizer : ∃ vg ∈ world.api.objects .volumeGroup,
    vg.metadata.isControlledBy cluster.metadata.uid = true ∧
      getFinalizer node.metadata.name ∈ vg.metadata.finalizers

/-- Every such node keeps its vg-manager. -/
def NodesKept
    (matchTerm : Node → NodeSelectorTerm → Bool)
    (tolerates : List Toleration → Taint → Bool)
    (cluster : LVMCluster)
    (world : World) : Prop :=
  ∀ node, CleanupPending tolerates cluster world node →
    ∀ ds, world.api.find? .daemonSet vgManagerUnit = some ds →
      admittedBy matchTerm ds.affinity node = true

instance (matchTerm tolerates cluster world) :
    Decidable (NodesKept matchTerm tolerates cluster world) :=
  decidable_of_iff
    (∀ node ∈ world.api.objects .node,
      ((∀ taint ∈ node.taints, tolerates cluster.spec.tolerations taint = true) ∧
        ∃ vg ∈ world.api.objects .volumeGroup,
          vg.metadata.isControlledBy cluster.metadata.uid = true ∧
            getFinalizer node.metadata.name ∈ vg.metadata.finalizers) →
      ∀ ds ∈ world.api.find? .daemonSet vgManagerUnit,
        admittedBy matchTerm ds.affinity node = true)
    ⟨fun kept node pending =>
        kept node pending.known ⟨pending.tolerated, pending.finalizer⟩,
      fun kept node known pending => kept node ⟨known, pending.1, pending.2⟩⟩

/-- All device classes have node selectors, and there is a term in one of them. -/
def Selective (cluster : LVMCluster) : Prop :=
  (∀ deviceClass ∈ cluster.spec.deviceClasses, deviceClass.nodeSelector.isSome) ∧
    SomeTerm cluster

/-- A term of a device class matches a node. -/
def SelectedBy
    (matchTerm : Node → NodeSelectorTerm → Bool)
    (cluster : LVMCluster)
    (node : Node) : Prop :=
  ∃ deviceClass ∈ cluster.spec.deviceClasses, ∃ selector,
    deviceClass.nodeSelector = some selector ∧
      ∃ term ∈ selector.nodeSelectorTerms, matchTerm node term = true

/-- A node is selected by the device classes of now or, if they do not select nodes, by
the daemon set of before. -/
def KeepsNode
    (matchTerm : Node → NodeSelectorTerm → Bool)
    (cluster : LVMCluster)
    (old : Option DaemonSet)
    (node : Node) : Prop :=
  (Selective cluster → SelectedBy matchTerm cluster node) ∧
    (¬ Selective cluster → ∀ ds, old = some ds → admittedBy matchTerm ds.affinity node = true)

section Keeping

variable {matchTerm : Node → NodeSelectorTerm → Bool} {cluster : LVMCluster}
variable {old : Option DaemonSet} {node : Node}

/-- Device classes that do not select nodes give the daemon set no affinity. -/
theorem extractNodeSelector_of_not_selective (unselective : ¬ Selective cluster) :
    (extractNodeSelectorAndTolerations cluster).1 = none := by
  by_cases someTerm : SomeTerm cluster
  · obtain ⟨deviceClass, member, none⟩ : ∃ deviceClass ∈ cluster.spec.deviceClasses,
        deviceClass.nodeSelector = none := by
      by_contra always
      apply unselective
      refine ⟨fun deviceClass member => ?_, someTerm⟩
      rw [Option.isSome_iff_ne_none]
      exact fun none => always ⟨deviceClass, member, none⟩
    exact extractNodeSelector_of_unselective member none
  · exact extractNodeSelector_of_noTerm someTerm

/-- What the affinity after `EnsureCreated` admits. -/
theorem admittedBy_rolledOut_iff :
    admittedBy matchTerm ((extractNodeSelectorAndTolerations cluster).1 <|>
        old.bind DaemonSet.affinity) node = true ↔
      KeepsNode matchTerm cluster old node := by
  unfold KeepsNode
  by_cases selective : Selective cluster
  · obtain ⟨terms, isSelector, memberIff⟩ :=
      extractNodeSelector_of_someTerm selective.1 selective.2
    have first : (some ⟨terms⟩ <|> old.bind DaemonSet.affinity) = some ⟨terms⟩ := rfl
    rw [isSelector, first]
    simp only [selective, not_true, false_implies, and_true, true_implies]
    simp only [admittedBy, SelectedBy, Option.all_some, List.any_eq_true, memberIff]
    constructor
    · rintro ⟨term, ⟨deviceClass, member, selector, isSelector, listed⟩, isMatch⟩
      exact ⟨deviceClass, member, selector, isSelector, term, listed, isMatch⟩
    · rintro ⟨deviceClass, member, selector, isSelector, term, listed, isMatch⟩
      exact ⟨term, ⟨deviceClass, member, selector, isSelector, listed⟩, isMatch⟩
  · rw [extractNodeSelector_of_not_selective selective]
    simp only [selective, not_false_iff, false_implies, true_and, true_implies]
    cases old with
    | none => simp [admittedBy]
    | some ds => simp [admittedBy]

end Keeping

namespace Operator

variable {matchTerm : Node → NodeSelectorTerm → Bool}
variable {tolerates : List Toleration → Taint → Bool}
variable {r : Operator} {cluster : LVMCluster} {host : String} {world after : World}
variable {events : List (Event sig World)} {result : Except GoError Unit}

/-- After `EnsureCreated` every node with a pending cleanup keeps its vg-manager exactly if
it is selected by the device classes of now or, if they do not select nodes, by the daemon
set of before. -/
theorem nodesKept_iff
    (deployed : Deployed world.api)
    (ran : Exec (environment host) (r.vgManager.ensureCreated cluster).run world events
      result after)
    (applied : Applied result) :
    NodesKept matchTerm tolerates cluster after ↔
      ∀ node, CleanupPending tolerates cluster world node →
        KeepsNode matchTerm cluster (world.api.find? .daemonSet vgManagerUnit) node := by
  obtain ⟨ds, found, rolledOut⟩ := (ensureCreated_rolledOut deployed ran).2 applied
  have framed := Exec.frame ran (r.vgManager_ensureCreated_uses cluster)
  have sameNodes := framed.objects .node (by decide)
  have sameGroups := framed.objects .volumeGroup (by decide)
  have pendingIff : ∀ node, CleanupPending tolerates cluster after node ↔
      CleanupPending tolerates cluster world node := by
    intro node
    constructor
    · rintro ⟨known, tolerated, finalizer⟩
      exact ⟨sameNodes ▸ known, tolerated, sameGroups ▸ finalizer⟩
    · rintro ⟨known, tolerated, finalizer⟩
      exact ⟨sameNodes.symm ▸ known, tolerated, sameGroups.symm ▸ finalizer⟩
  have affinity : ds.affinity = ((extractNodeSelectorAndTolerations cluster).1 <|>
      (world.api.find? .daemonSet vgManagerUnit).bind DaemonSet.affinity) :=
    rolledOut.affinity
  unfold NodesKept
  refine forall_congr' fun node => imp_congr (pendingIff node) ?_
  rw [← admittedBy_rolledOut_iff, ← affinity, found]
  simp

end Operator

theorem Operator.nodesKept_iff_zoned :
    NodesKept matchesTerm Scheduling.byLabels.tolerationsTolerateTaint zonedCluster
        (ensuredRun zonedCluster zonedWorld).2.2 ↔
      ∀ node, CleanupPending Scheduling.byLabels.tolerationsTolerateTaint zonedCluster
          zonedWorld node →
        KeepsNode matchesTerm zonedCluster
          (zonedWorld.api.find? .daemonSet vgManagerUnit) node := by
  refine nodesKept_iff zonedWorld_produced.deployed
    (Program.run_exec (environment "") (fun _ _ => {}) _ _) ?_
  have succeeds : (ensuredRun zonedCluster zonedWorld).2.1 = .ok () := by
    decide +kernel
  intro err isError
  cases succeeds.symm.trans isError

/-- Two nodes in two zones, before LVMS is used. -/
def twoZones : World where
  api := ⟨fun
    | .node => [zoneNode "node-a" "a" [], zoneNode "node-b" "b" []]
    | _ => []⟩
  host := oneNodeWorld.host
  memory := oneNodeWorld.memory

/-- A device class for the nodes of a zone. -/
def zoneClass (name path zone : String) (default : Bool) : DeviceClass :=
  { thickClass name path default with nodeSelector := some (zoneSelector zone) }

/-- A cluster for both zones is set up, its first node notes that it has to clean up, and
the device class of this node is removed. -/
def removeZone : List Action :=
  [.create { name := "cluster", inNamespace := "storage" }
      { deviceClasses := [zoneClass "vg1" "/dev/sda" "a" false,
        zoneClass "vg2" "/dev/sdb" "b" true] },
    .operator "cluster",
    .vgManager "node-a" "vg1",
    .update "cluster" { deviceClasses := [zoneClass "vg2" "/dev/sdb" "b" true] }]

/-- The world in which the operator meets the new spec. -/
def zoneRemoved : World :=
  (System.plain.performAll withoutFailures twoZones removeZone).2

/-- The operator takes the vg-manager away from the node that still has to clean up: right
after `EnsureCreated`, and also at the end of the whole reconciliation. -/
theorem cleanup_node_dropped :
    System.plain.Run (fun _ _ => True) twoZones
        (System.plain.performAll withoutFailures twoZones removeZone).1 zoneRemoved ∧
      ∃ cluster ∈ zoneRemoved.api.find? .lvmCluster "cluster",
        (Operator.ensuredRun cluster zoneRemoved).2.1 = .ok () ∧
        ¬ NodesKept matchesTerm Scheduling.byLabels.tolerationsTolerateTaint cluster
          (Operator.ensuredRun cluster zoneRemoved).2.2 ∧
        ¬ NodesKept matchesTerm Scheduling.byLabels.tolerationsTolerateTaint cluster
          (System.plain.perform withoutFailures zoneRemoved (.operator "cluster")).2 :=
  ⟨System.performAll_run (by decide +kernel), by decide +kernel⟩

end Lvms
