import Lvms.Operator.ForeignMetadata
import Lvms.Operator.NodeSelection

/-!
# What wakes the operator up

Objects that the operator cannot own carry labels that name the cluster, and a change of
such an object is mapped back to the cluster by these labels. A change of a node status
is mapped to the clusters whose device classes select the node.
-/

namespace Lvms

open Interaction

/-! ## Managed labels -/

/-- `labels.MatchesManagedLabels`. A label that is missing reads as the empty string, and
an object without labels has no map. -/
def matchesManagedLabels (labels : StringMap) (owner : ObjectMeta) : Bool :=
  !labels.isEmpty && (managedLabels owner).all fun entry =>
    (labels.get? entry.1).getD "" == entry.2

theorem setManagedLabels_eq (labels : StringMap) (owner : ObjectMeta) :
    setManagedLabels labels owner = copyInto labels (managedLabels owner) := rfl

/-- The labels of an owner match the owner and no other object. -/
theorem matchesManagedLabels_setManagedLabels_iff
    {labels : StringMap}
    {owner other : ObjectMeta} :
    matchesManagedLabels (setManagedLabels labels owner) other = true ↔
      other.name = owner.name ∧ other.inNamespace = owner.inNamespace ∧
        other.uid = owner.uid := by
  have distinct : (managedLabels owner).keys.Nodup := by
    simp [managedLabels, GoMap.keys]
  have written (key : String) {value : String}
      (defined : (managedLabels owner).get? key = some value) :
      (setManagedLabels labels owner).get? key = some value := by
    rw [setManagedLabels_eq, get?_copyInto distinct, defined, Option.some_or]
  have notEmpty : (setManagedLabels labels owner).isEmpty = false := by
    have named := written "owned-by.topolvm.io/name" rfl
    cases set : setManagedLabels labels owner with
    | nil => simp [set, GoMap.get?] at named
    | cons => rfl
  simp only [matchesManagedLabels, notEmpty, managedLabels, List.all_cons, List.all_nil,
    written "owned-by.topolvm.io/name" rfl, written "owned-by.topolvm.io/namespace" rfl,
    written "owned-by.topolvm.io/uid" rfl, written "owned-by.topolvm.io/group" rfl,
    written "owned-by.topolvm.io/version" rfl, written "owned-by.topolvm.io/kind" rfl,
    Option.getD_some, beq_self_eq_true, Bool.not_false, Bool.true_and, Bool.and_true,
    Bool.and_eq_true, beq_iff_eq]
  rw [eq_comm, @eq_comm _ owner.inNamespace, @eq_comm _ owner.uid]

/-! ## Requests -/

/-- `reconcile.Request`. -/
structure ReconcileRequest where
  inNamespace : String
  name : String
  deriving DecidableEq, Repr

/-- The request to reconcile a cluster. -/
def requestFor (cluster : LVMCluster) : ReconcileRequest :=
  ⟨cluster.metadata.inNamespace, cluster.metadata.name⟩

/-- `client.List` with a namespace; all clusters when it is empty. -/
def clustersIn (inNamespace : String) (clusters : List LVMCluster) : List LVMCluster :=
  clusters.filter fun cluster =>
    inNamespace == "" || cluster.metadata.inNamespace == inNamespace

/-- `getManagedLabelObjsForReconcile`. -/
def getManagedLabelObjsForReconcile (obj : ObjectMeta) :
    Program sig (List ReconcileRequest) := do
  match ← (Client.list .lvmCluster).run with
  | .error _ => return []
  | .ok clusters =>
      return ((clustersIn obj.inNamespace clusters).filter fun lvmCluster =>
        matchesManagedLabels obj.labels lvmCluster.metadata).map requestFor

/-- The loop of `getLVMClusterObjsByNameFittingNodeSelector`. -/
def Scheduling.fittingRequests (scheduling : Scheduling) (node : Node) :
    List LVMCluster → Except GoError (List ReconcileRequest)
  | [] => return []
  | lvmCluster :: rest =>
      match (extractNodeSelectorAndTolerations lvmCluster).1 with
      | none => do
          return requestFor lvmCluster :: (← scheduling.fittingRequests node rest)
      | some selector => do
          let found ← scheduling.matchNodeSelectorTerms node selector
          let requests ← scheduling.fittingRequests node rest
          return if found then requestFor lvmCluster :: requests else requests

/-- `getLVMClusterObjsByNameFittingNodeSelector`. -/
def Operator.getLVMClusterObjsByNameFittingNodeSelector (r : Operator) (obj : ObjectMeta) :
    Program sig (List ReconcileRequest) := do
  match ← (Client.list .lvmCluster).run with
  | .error _ => return []
  | .ok clusters =>
      match ← (Client.get .node obj.name).run with
      | .error _ => return []
      | .ok node =>
          match r.scheduling.fittingRequests node
              (clustersIn obj.inNamespace clusters) with
          | .error _ => return []
          | .ok requests => return requests

/-! ## Objects of a cluster -/

/-- No call of a run failed. -/
def Undisturbed (events : List (Event sig World)) : Prop :=
  ∀ event ∈ events, event.request.failure event.response = none

/-- A list that does not fail has all objects. -/
theorem Client.list_of_undisturbed
    {node : String}
    {kind : Kind}
    {world after : World}
    {events : List (Event sig World)}
    {result : Except GoError (List kind.Object)}
    (ran : Exec (environment node) (Client.list kind).run world events result after)
    (undisturbed : Undisturbed events) :
    result = .ok (world.api.objects kind) ∧ after = world := by
  obtain ⟨rfl, look, rfl, -, answered, lists⟩ := Client.list_cases ran
  rw [undisturbed look (List.mem_singleton_self _)] at answered
  cases result with
  | error err => cases answered
  | ok objects => exact ⟨by rw [lists objects rfl], rfl⟩

section Watches

variable {node : String} {world after : World} {events : List (Event sig World)}
variable {requests : List ReconcileRequest}
variable {scheduling : Scheduling} {matchTerm : Node → NodeSelectorTerm → Bool}
variable {cluster : LVMCluster}

/-- A change of an object with the labels of a cluster is a request to reconcile this
cluster, and no other one. -/
theorem getManagedLabelObjsForReconcile_owner
    {obj : ObjectMeta}
    {labels : StringMap}
    {cluster : LVMCluster}
    (labelled : obj.labels = setManagedLabels labels cluster.metadata)
    (scope : obj.inNamespace = "" ∨ obj.inNamespace = cluster.metadata.inNamespace)
    (stored : cluster ∈ world.api.objects .lvmCluster)
    (identified : ((world.api.objects .lvmCluster).map (·.metadata.uid)).Nodup)
    (ran : Exec (environment node) (getManagedLabelObjsForReconcile obj) world events
      requests after)
    (undisturbed : Undisturbed events) :
    requests = [requestFor cluster] := by
  obtain ⟨first, listed, between, second, lists, ends, rfl⟩ := Exec.bind_iff.mp ran
  obtain ⟨rfl, rfl⟩ := Client.list_of_undisturbed lists fun event member =>
    undisturbed event (List.mem_append_left _ member)
  obtain ⟨-, rfl, -⟩ := Exec.pure_iff.mp ends
  have isOwner (other : LVMCluster) (member : other ∈ between.api.objects .lvmCluster) :
      (matchesManagedLabels obj.labels other.metadata && (obj.inNamespace == "" ||
        other.metadata.inNamespace == obj.inNamespace)) = (other == cluster) := by
    rw [Bool.eq_iff_iff, Bool.and_eq_true, labelled,
      matchesManagedLabels_setManagedLabels_iff, beq_iff_eq]
    constructor
    · rintro ⟨⟨-, -, sameUid⟩, -⟩
      exact List.inj_on_of_nodup_map identified member stored sameUid
    · rintro rfl
      refine ⟨⟨rfl, rfl, rfl⟩, ?_⟩
      rcases scope with unscoped | sameScope
      · simp [unscoped]
      · simp [sameScope]
  rw [clustersIn, List.filter_filter, List.filter_congr isOwner, List.filter_beq,
    List.count_eq_one_of_mem identified.of_map stored]
  rfl

/-! ## Statuses of nodes -/

/-- Without errors of selectors, the clusters that select the node are requested. -/
theorem Scheduling.fittingRequests_of_decides
    (decides : scheduling.Decides matchTerm)
    (found : Node)
    (clusters : List LVMCluster) :
    scheduling.fittingRequests found clusters = .ok ((clusters.filter fun cluster =>
      scheduling.admits (extractNodeSelectorAndTolerations cluster).1 found).map
        requestFor) := by
  induction clusters with
  | nil => rfl
  | cons cluster rest inductionHypothesis =>
      rw [fittingRequests, inductionHypothesis]
      cases extracted : (extractNodeSelectorAndTolerations cluster).1 with
      | none => simp [admits, extracted, Bind.bind, Except.bind, pure, Except.pure]
      | some selector =>
          cases isMatch : selector.nodeSelectorTerms.any (matchTerm found) <;>
            simp [admits, extracted, decides found selector, isMatch, Bind.bind,
              Except.bind, pure, Except.pure]

/-- A node that a device class accepts is selected by the cluster. -/
theorem admits_of_accepted
    {found : Node}
    (decides : scheduling.Decides matchTerm)
    (accepted : Accepted scheduling cluster found) :
    scheduling.admits (extractNodeSelectorAndTolerations cluster).1 found = true := by
  obtain ⟨deviceClass, member, valid⟩ := accepted
  by_cases selective : ∀ deviceClass ∈ cluster.spec.deviceClasses,
      deviceClass.nodeSelector.isSome
  · obtain ⟨selector, given⟩ := Option.isSome_iff_exists.mp (selective deviceClass member)
    obtain ⟨term, isTerm, isMatch⟩ : ∃ term ∈ selector.nodeSelectorTerms,
        matchTerm found term = true := by
      unfold Scheduling.isNodeValid at valid
      repeat' split at valid
      all_goals simp_all [decides found selector]
    obtain ⟨terms, extracted, isTermIff⟩ := extractNodeSelector_of_someTerm selective
      ⟨deviceClass, member, selector, given, List.ne_nil_of_mem isTerm⟩
    rw [extracted, decides.admits_iff]
    exact ⟨term, (isTermIff term).mpr ⟨deviceClass, member, selector, given, isTerm⟩, isMatch⟩
  · simp only [not_forall, Option.not_isSome_iff_eq_none] at selective
    obtain ⟨unselective, isClass, none⟩ := selective
    rw [extractNodeSelector_of_unselective isClass none]
    rfl

/-- A change of the status of a node is a request to reconcile the cluster exactly if the
cluster selects the node. -/
theorem Operator.requestFor_mem_iff
    {r : Operator}
    {found : Node}
    {obj : ObjectMeta}
    (decides : r.scheduling.Decides matchTerm)
    (single : world.api.objects .lvmCluster = [cluster])
    (scope : obj.inNamespace = cluster.metadata.inNamespace)
    (isNode : world.api.find? .node obj.name = some found)
    (ran : Exec (environment node) (r.getLVMClusterObjsByNameFittingNodeSelector obj) world
      events requests after)
    (undisturbed : Undisturbed events) :
    requestFor cluster ∈ requests ↔
      r.scheduling.admits (extractNodeSelectorAndTolerations cluster).1 found = true := by
  obtain ⟨first, listed, between, second, lists, rest, rfl⟩ := Exec.bind_iff.mp ran
  obtain ⟨rfl, rfl⟩ := Client.list_of_undisturbed lists fun event member =>
    undisturbed event (List.mem_append_left _ member)
  obtain ⟨looking, looked, _, third, gets, ends, rfl⟩ := Exec.bind_iff.mp rest
  obtain ⟨rfl, look, rfl, -, answered, cases⟩ := Client.get_cases gets
  have succeeded := undisturbed look (by simp)
  rw [succeeded] at answered
  obtain ⟨_, rfl, -⟩ | ⟨rfl, -⟩ | ⟨object, rfl, isFound⟩ := cases
  · cases answered
  · cases answered
  · obtain rfl : found = object := Option.some.inj (isNode.symm.trans isFound)
    simp only [Scheduling.fittingRequests_of_decides decides] at ends
    obtain ⟨-, rfl, -⟩ := Exec.pure_iff.mp ends
    cases selected : r.scheduling.admits (extractNodeSelectorAndTolerations cluster).1
      found <;> simp [clustersIn, single, scope, selected]

/-- Statuses of nodes that no device class accepts do not matter for the device
classes. -/
theorem validateDeviceClassSetup_congr
    {nodes : List Node}
    {before now : List LVMVolumeGroupNodeStatus}
    (same : ∀ node ∈ nodes, Accepted scheduling cluster node →
      before.find? (node.metadata.name == ·.metadata.name) =
        now.find? (node.metadata.name == ·.metadata.name)) :
    scheduling.validateDeviceClassSetup cluster nodes before =
      scheduling.validateDeviceClassSetup cluster nodes now := by
  have inner (deviceClass : DeviceClass) (member : deviceClass ∈ cluster.spec.deviceClasses) :
      ∀ (listed : List Node) (found : Bool), listed ⊆ nodes →
        scheduling.checkDeviceClassNodes cluster before deviceClass found listed =
          scheduling.checkDeviceClassNodes cluster now deviceClass found listed := by
    intro listed
    induction listed with
    | nil => exact fun _ _ => rfl
    | cons node rest inductionHypothesis =>
        intro found within
        obtain ⟨isNode, restWithin⟩ := List.cons_subset.mp within
        simp only [Scheduling.checkDeviceClassNodes, inductionHypothesis _ restWithin]
        cases valid : scheduling.isNodeValid node cluster deviceClass with
        | error err => rfl
        | ok accepts =>
            cases accepts with
            | false => rfl
            | true => simp only [checkNodeStatus, same node isNode ⟨_, member, valid⟩]
  unfold Scheduling.validateDeviceClassSetup
  generalize cluster.spec.deviceClasses = classes at inner
  induction classes with
  | nil => rfl
  | cons deviceClass rest inductionHypothesis =>
      rw [List.forM_cons, List.forM_cons,
        inner deviceClass List.mem_cons_self nodes false (List.Subset.refl _),
        inductionHypothesis fun other member => inner other (List.mem_cons_of_mem _ member)]

/-- No change of a node status that matters for the device classes goes unnoticed. -/
theorem Operator.relevantChange_requested
    {r : Operator}
    {matchTerm : Node → NodeSelectorTerm → Bool}
    {cluster : LVMCluster}
    {found : Node}
    {obj : ObjectMeta}
    {before now : List LVMVolumeGroupNodeStatus}
    (decides : r.scheduling.Decides matchTerm)
    (single : world.api.objects .lvmCluster = [cluster])
    (scope : obj.inNamespace = cluster.metadata.inNamespace)
    (unique : world.api.Unique .node)
    (isNode : world.api.find? .node obj.name = some found)
    (ran : Exec (environment node) (r.getLVMClusterObjsByNameFittingNodeSelector obj) world
      events requests after)
    (undisturbed : Undisturbed events)
    (others : ∀ name, name ≠ obj.name →
      before.find? (name == ·.metadata.name) = now.find? (name == ·.metadata.name))
    (matters : r.scheduling.validateDeviceClassSetup cluster (world.api.objects .node)
      before ≠ r.scheduling.validateDeviceClassSetup cluster (world.api.objects .node) now) :
    requestFor cluster ∈ requests := by
  rw [Operator.requestFor_mem_iff decides single scope isNode ran undisturbed]
  by_contra unselected
  refine matters (validateDeviceClassSetup_congr fun other member accepted => ?_)
  refine others _ fun named => unselected ?_
  have isOther := unique.find?_of_mem member
  rw [show Kind.node.nameOf other = obj.name from named] at isOther
  obtain rfl : other = found := Option.some.inj (isOther.symm.trans isNode)
  exact admits_of_accepted decides accepted

end Watches

/-- A cluster with a selector, and a node of the zone. -/
def watchedWorld : World :=
  { World.empty with api := ⟨fun
    | .lvmCluster => [selectiveCluster (zoneSelector "a")]
    | .node => [zoneNode "node" "a" []]
    | _ => []⟩ }

/-- A storage class with the labels of the cluster. -/
def labelledClass : ObjectMeta :=
  { name := "lvms-vg1"
    labels := setManagedLabels [] (selectiveCluster (zoneSelector "a")).metadata }

theorem getManagedLabelObjsForReconcile_owner_storageClass :
    ((getManagedLabelObjsForReconcile labelledClass).run (environment "")
      (fun _ _ => {}) watchedWorld).2.1 = [⟨"", "cluster"⟩] := by
  have ran := Program.run_exec (environment "") (fun _ _ => {})
    (getManagedLabelObjsForReconcile labelledClass) watchedWorld
  have identified : ((watchedWorld.api.objects .lvmCluster).map (·.metadata.uid)).Nodup :=
    List.nodup_singleton _
  exact getManagedLabelObjsForReconcile_owner rfl (.inl rfl) (List.mem_singleton_self _)
    identified ran (by unfold Undisturbed; decide +kernel)

/-- The status of the node appears. -/
theorem Operator.relevantChange_requested_ready :
    ⟨"", "cluster"⟩ ∈ ((plainOperator.getLVMClusterObjsByNameFittingNodeSelector
      { name := "node" }).run (environment "") (fun _ _ => {}) watchedWorld).2.1 := by
  have ran := Program.run_exec (environment "") (fun _ _ => {})
    (plainOperator.getLVMClusterObjsByNameFittingNodeSelector { name := "node" })
    watchedWorld
  have single : watchedWorld.api.objects .lvmCluster =
      [selectiveCluster (zoneSelector "a")] := rfl
  have unique : watchedWorld.api.Unique .node := List.nodup_singleton _
  have others (name : String) (other : name ≠ "node") :
      ([] : List LVMVolumeGroupNodeStatus).find? (name == ·.metadata.name) =
        [{ metadata := { name := "node" }
           lvmVGStatus := [{ name := "vg1", status := .ready }] }].find?
          (name == ·.metadata.name) := by
    simp [other]
  have isNode : watchedWorld.api.find? .node "node" = some (zoneNode "node" "a" []) := rfl
  refine relevantChange_requested (fun _ _ => rfl) single ?_ unique isNode ran ?_ others ?_
  · rfl
  · unfold Undisturbed
    decide +kernel
  · decide +kernel

end Lvms
