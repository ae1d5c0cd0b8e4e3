import Lvms.Operator.NodeSelection
import Lvms.Interaction.Keyed

/-!
# The order of taints

The taints of a node are a set: their order means nothing. `ToleratesAllTaints` stops
at the first taint that is not tolerated, and only reports an error if that one says
that the node is not ready. This module shows for which taints their order has an
influence on the outcome, and on what `ValidNodes` and `isNodeValid` decide.

What is assumed about `MatchNodeSelectorTerms` is that it does not look at taints.
-/

namespace Lvms

open Interaction

namespace Scheduling

variable {scheduling : Scheduling} {tolerations : List Toleration}

/-- The outcome when a taint is the first one that is not tolerated. -/
def refusal (taint : Taint) : Bool × Option GoError :=
  (false, if taint.key = taintNodeNotReady then some errNotReadyTaintExists else none)

/-- The first taint that is not tolerated decides. -/
theorem toleratesAllTaints_eq (taints : List Taint) :
    scheduling.toleratesAllTaints tolerations taints =
      ((taints.find? fun taint =>
        !scheduling.tolerationsTolerateTaint tolerations taint).map refusal).getD
        (true, none) := by
  induction taints with
  | nil => rfl
  | cons taint rest inductionHypothesis =>
      rw [toleratesAllTaints]
      cases tolerated : scheduling.tolerationsTolerateTaint tolerations taint with
      | true => simpa [tolerated] using inductionHypothesis
      | false =>
          rw [List.find?_cons_of_pos (by simp [tolerated])]
          by_cases notReady : taint.key = taintNodeNotReady <;> simp [refusal, notReady]

/-- Of the taints that are not tolerated, all or none say that the node is not ready. -/
def Uniform (scheduling : Scheduling) (tolerations : List Toleration)
    (taints : List Taint) : Prop :=
  ∀ taint ∈ taints, ∀ other ∈ taints,
    scheduling.tolerationsTolerateTaint tolerations taint = false →
    scheduling.tolerationsTolerateTaint tolerations other = false →
    (taint.key = taintNodeNotReady ↔ other.key = taintNodeNotReady)

theorem refusal_eq_iff {taint other : Taint} :
    refusal taint = refusal other ↔
      (taint.key = taintNodeNotReady ↔ other.key = taintNodeNotReady) := by
  by_cases notReady : taint.key = taintNodeNotReady <;>
    by_cases otherNotReady : other.key = taintNodeNotReady <;>
    simp [refusal, notReady, otherNotReady]

/-- Two lists of taints have one outcome if their deciding taints have. -/
theorem toleratesAllTaints_eq_iff {taints others : List Taint} :
    scheduling.toleratesAllTaints tolerations taints =
        scheduling.toleratesAllTaints tolerations others ↔
      (taints.find? fun taint =>
        !scheduling.tolerationsTolerateTaint tolerations taint).map refusal =
      (others.find? fun taint =>
        !scheduling.tolerationsTolerateTaint tolerations taint).map refusal := by
  rw [toleratesAllTaints_eq, toleratesAllTaints_eq]
  generalize (taints.find? _) = first
  generalize (others.find? _) = second
  cases first <;> cases second <;> simp [refusal]

/-- The outcome is the same for every order of the taints exactly if those that are not
tolerated are uniform. -/
theorem toleratesAllTaints_perm_iff (taints : List Taint) :
    (∀ permuted : List Taint, permuted.Perm taints →
      scheduling.toleratesAllTaints tolerations permuted =
        scheduling.toleratesAllTaints tolerations taints) ↔
      scheduling.Uniform tolerations taints := by
  simp only [toleratesAllTaints_eq_iff]
  rw [map_find?_perm_iff]
  simp only [Bool.not_eq_true', refusal_eq_iff]
  rfl

/-! ## The decisions about a node -/

/-- Selectors are evaluated without looking at the taints of a node. -/
def IgnoresTaints (scheduling : Scheduling) : Prop :=
  ∀ (node : Node) (taints : List Taint) (selector : NodeSelector),
    scheduling.matchNodeSelectorTerms { node with taints } selector =
      scheduling.matchNodeSelectorTerms node selector

/-- Forget the taints of valid nodes. -/
def forgetTaints (considered : List Node × List GoError) : List Node × List GoError :=
  (considered.1.map fun node => { node with taints := [] }, considered.2)

/-- What a node adds to the valid nodes and to the errors depends on its taints only
through their outcome. -/
theorem considerNode_taints
    {nodeSelector : Option NodeSelector}
    {node : Node}
    {taints : List Taint}
    (ignores : scheduling.IgnoresTaints)
    (same : scheduling.toleratesAllTaints tolerations taints =
      scheduling.toleratesAllTaints tolerations node.taints) :
    (scheduling.considerNode nodeSelector tolerations { node with taints }).map
        forgetTaints =
      (scheduling.considerNode nodeSelector tolerations node).map forgetTaints := by
  unfold considerNode
  rw [same]
  generalize scheduling.toleratesAllTaints tolerations node.taints = outcome
  obtain ⟨tolerated, err⟩ := outcome
  cases tolerated with
  | false => rfl
  | true =>
      cases nodeSelector with
      | none => rfl
      | some selector =>
          have matched := ignores node taints selector
          cases found : scheduling.matchNodeSelectorTerms node selector with
          | error err => simp [matched, found, bind, Except.bind]
          | ok isMatch =>
              cases isMatch <;>
                simp [matched, found, bind, Except.bind, pure, Except.pure, Except.map,
                  forgetTaints]

/-- The nodes of a list add to the valid nodes one after the other. -/
theorem map_considerNodes_cons
    (nodeSelector : Option NodeSelector)
    (node : Node)
    (rest : List Node) :
    (scheduling.considerNodes nodeSelector tolerations (node :: rest)).map forgetTaints = do
      let added ← (scheduling.considerNode nodeSelector tolerations node).map forgetTaints
      let others ← (scheduling.considerNodes nodeSelector tolerations rest).map forgetTaints
      return (added.1 ++ others.1, added.2 ++ others.2) := by
  rw [considerNodes]
  cases scheduling.considerNode nodeSelector tolerations node with
  | error err => rfl
  | ok added =>
      cases scheduling.considerNodes nodeSelector tolerations rest with
      | error err => rfl
      | ok others =>
          simp [bind, Except.bind, pure, Except.pure, Except.map, forgetTaints]

/-- A node can be replaced by one that adds the same. -/
theorem map_considerNodes_replace
    {nodeSelector : Option NodeSelector}
    {node other : Node}
    (same : (scheduling.considerNode nodeSelector tolerations other).map forgetTaints =
      (scheduling.considerNode nodeSelector tolerations node).map forgetTaints)
    (before after : List Node) :
    (scheduling.considerNodes nodeSelector tolerations (before ++ other :: after)).map
        forgetTaints =
      (scheduling.considerNodes nodeSelector tolerations (before ++ node :: after)).map
        forgetTaints := by
  induction before with
  | nil =>
      rw [List.nil_append, List.nil_append, map_considerNodes_cons, same,
        ← map_considerNodes_cons]
  | cons head rest inductionHypothesis =>
      rw [List.cons_append, List.cons_append, map_considerNodes_cons, inductionHypothesis,
        ← map_considerNodes_cons]

/-- The valid nodes without their taints, and the error. -/
def verdict (scheduling : Scheduling) (cluster : LVMCluster) (nodes : List Node) :
    List Node × Option GoError :=
  ((scheduling.validNodes cluster nodes).1.map fun node => { node with taints := [] },
    (scheduling.validNodes cluster nodes).2)

theorem verdict_congr
    {cluster : LVMCluster}
    {nodes others : List Node}
    (same : (scheduling.considerNodes (extractNodeSelectorAndTolerations cluster).1
        cluster.spec.tolerations others).map forgetTaints =
      (scheduling.considerNodes (extractNodeSelectorAndTolerations cluster).1
        cluster.spec.tolerations nodes).map forgetTaints) :
    scheduling.verdict cluster others = scheduling.verdict cluster nodes := by
  rw [verdict, verdict, validNodes_eq, validNodes_eq]
  generalize scheduling.considerNodes _ _ others = first at same
  generalize scheduling.considerNodes _ _ nodes = second at same
  cases first <;> cases second <;>
    simp only [Except.map, Except.ok.injEq, Except.error.injEq, reduceCtorEq] at same
  · rw [same]
  · obtain ⟨valid, errs⟩ := Prod.mk.inj same
    simp only [valid, errs]

/-- What is decided about a node does not depend on the order of its taints. -/
structure OrderIrrelevant
    (scheduling : Scheduling)
    (cluster : LVMCluster)
    (taints : List Taint) : Prop where
  tolerates : ∀ permuted : List Taint, permuted.Perm taints →
    scheduling.toleratesAllTaints cluster.spec.tolerations permuted =
      scheduling.toleratesAllTaints cluster.spec.tolerations taints
  validNodes : ∀ (before after : List Node) (node : Node) (permuted : List Taint),
    node.taints = taints → permuted.Perm taints →
    scheduling.verdict cluster (before ++ { node with taints := permuted } :: after) =
      scheduling.verdict cluster (before ++ node :: after)
  isNodeValid : ∀ (node : Node) (deviceClass : DeviceClass) (permuted : List Taint),
    node.taints = taints → permuted.Perm taints →
    scheduling.isNodeValid { node with taints := permuted } cluster deviceClass =
      scheduling.isNodeValid node cluster deviceClass

/-- The order of taints has no influence exactly if, of those that are not tolerated,
all or none say that the node is not ready. -/
theorem orderIrrelevant_iff_uniform
    (scheduling : Scheduling)
    (ignores : scheduling.IgnoresTaints)
    (cluster : LVMCluster)
    (taints : List Taint) :
    scheduling.OrderIrrelevant cluster taints ↔
      scheduling.Uniform cluster.spec.tolerations taints := by
  rw [← toleratesAllTaints_perm_iff]
  constructor
  · intro irrelevant
    exact irrelevant.tolerates
  · intro tolerates
    refine ⟨tolerates, ?_, ?_⟩
    · rintro before after node permuted rfl isPermuted
      apply verdict_congr
      apply map_considerNodes_replace
      exact considerNode_taints ignores (tolerates permuted isPermuted)
    · rintro node deviceClass permuted rfl isPermuted
      have matched := ignores node permuted
      simp only [isNodeValid, tolerates permuted isPermuted, matched]

theorem byLabels_ignoresTaints : byLabels.IgnoresTaints :=
  fun _ _ _ => rfl

/-- A taint under a key. -/
def taintWith (key : String) : Taint where
  key := key
  effect := "NoSchedule"

theorem orderIrrelevant_iff_uniform_dedicated :
    byLabels.OrderIrrelevant (selectiveCluster (zoneSelector "a"))
      [taintWith "dedicated", taintWith "gpu"] :=
  (orderIrrelevant_iff_uniform byLabels byLabels_ignoresTaints _ _).mpr (by
    rw [Uniform]
    decide)

/-- A node that is not ready causes an error or none, depending on where another taint
stands. -/
theorem order_matters :
    [taintWith "dedicated", taintWith taintNodeNotReady].Perm
        [taintWith taintNodeNotReady, taintWith "dedicated"] ∧
      byLabels.toleratesAllTaints [] [taintWith taintNodeNotReady, taintWith "dedicated"] =
        (false, some errNotReadyTaintExists) ∧
      byLabels.toleratesAllTaints [] [taintWith "dedicated", taintWith taintNodeNotReady] =
        (false, none) := by
  decide

end Scheduling
end Lvms
