import Lvms.Api.Types

/-!
# Selection of nodes

Which nodes belong to a cluster: the scheduling parameters of all device classes
taken together, and the nodes that meet them. The two helpers of Kubernetes that
decide about a selector and about a taint are parameters.
-/

namespace Lvms

/-- The scheduling helpers of Kubernetes that the operator calls. -/
structure Scheduling where
  /-- `corev1helper.MatchNodeSelectorTerms`. -/
  matchNodeSelectorTerms : Node → NodeSelector → Except GoError Bool
  /-- `corev1helper.TolerationsTolerateTaint`. -/
  tolerationsTolerateTaint : List Toleration → Taint → Bool

/-- `corev1.TaintNodeNotReady`. -/
def taintNodeNotReady : String := "node.kubernetes.io/not-ready"

/-- `ErrNotReadyTaintExists`. -/
def errNotReadyTaintExists : GoError :=
  .new ("node has a " ++ taintNodeNotReady ++ " taint")

/-- The loop of `ExtractNodeSelectorAndTolerations`: the terms of all device
classes, unless one of them has no selector. -/
def selectorTerms : List DeviceClass → Option (List NodeSelectorTerm)
  | [] => some []
  | deviceClass :: rest =>
      match deviceClass.nodeSelector with
      | none => none
      | some selector =>
          (selectorTerms rest).map (selector.nodeSelectorTerms ++ ·)

/-- `ExtractNodeSelectorAndTolerations`. -/
def extractNodeSelectorAndTolerations (lvmCluster : LVMCluster) :
    Option NodeSelector × List Toleration :=
  (match selectorTerms lvmCluster.spec.deviceClasses with
    | none => none
    | some terms => if terms.isEmpty then none else some ⟨terms⟩,
  lvmCluster.spec.tolerations)

namespace Scheduling

variable (scheduling : Scheduling)

/-- `ToleratesAllTaints`. -/
def toleratesAllTaints (tolerations : List Toleration) :
    List Taint → Bool × Option GoError
  | [] => (true, none)
  | taint :: rest =>
      if !scheduling.tolerationsTolerateTaint tolerations taint then
        if taint.key = taintNodeNotReady then
          (false, some errNotReadyTaintExists)
        else (false, none)
      else toleratesAllTaints tolerations rest

/-- The body of the loop of `ValidNodes`: what a node adds to the valid nodes and
to the errors. The loop ends when a selector cannot be evaluated. -/
def considerNode
    (nodeSelector : Option NodeSelector)
    (tolerations : List Toleration)
    (node : Node) : Except GoError (List Node × List GoError) := do
  let (ok, err) := scheduling.toleratesAllTaints tolerations node.taints
  if !ok then
    return ([], err.toList)
  match nodeSelector with
  | none => return ([node], err.toList)
  | some selector =>
      if ← scheduling.matchNodeSelectorTerms node selector then
        return ([node], err.toList)
      else
        return ([], err.toList)

/-- The loop of `ValidNodes`. -/
def considerNodes
    (nodeSelector : Option NodeSelector)
    (tolerations : List Toleration) :
    List Node → Except GoError (List Node × List GoError)
  | [] => return ([], [])
  | node :: rest => do
      let (valid, errs) ← scheduling.considerNode nodeSelector tolerations node
      let (others, otherErrs) ← considerNodes nodeSelector tolerations rest
      return (valid ++ others, errs ++ otherErrs)

/-- `ValidNodes`: the nodes are returned beside the errors of their taints. -/
def validNodes (lvmCluster : LVMCluster) (nodes : List Node) :
    List Node × Option GoError :=
  let (nodeSelector, tolerations) :=
    extractNodeSelectorAndTolerations lvmCluster
  match scheduling.considerNodes nodeSelector tolerations nodes with
  | .error err => ([], some err)
  | .ok (valid, errs) => (valid, GoError.joinAll errs)

end Scheduling
end Lvms
