import Lvms.Operator.Steps
import Lvms.Interaction.Keyed
import Lvms.Steady

/-!
# The state of the cluster

The state that a reconciliation stores in the status of the cluster says whether
every device class is ready on the nodes it is meant for, and whether every
resource manager succeeded.
-/

namespace Lvms

open Interaction

/-! ## The conditions of the operator -/

/-- The conditions are of the two types that the operator sets, each at most
once. -/
structure OperatorOwned (conditions : List Condition) : Prop where
  types : ∀ condition ∈ conditions,
    condition.type = resourcesAvailable ∨ condition.type = volumeGroupsReady
  unique : (conditions.map (·.type)).Nodup

theorem mem_setStatusCondition
    {condition other : Condition}
    {conditions : List Condition}
    (member : other ∈ setStatusCondition condition conditions) :
    other = condition ∨ other ∈ conditions := by
  induction conditions with
  | nil => simpa [setStatusCondition] using member
  | cons old rest inductionHypothesis =>
      simp only [setStatusCondition] at member
      split at member <;> grind

/-- A condition that has been set is the one of its type. -/
theorem setStatusCondition_self
    {condition : Condition}
    {type : String}
    (conditions : List Condition)
    (same : condition.type = type) :
    (setStatusCondition condition conditions).find? (·.type == type) =
      some condition := by
  induction conditions with
  | nil => simp [setStatusCondition, same]
  | cons old rest inductionHypothesis =>
      simp only [setStatusCondition]
      split
      · simp [same]
      · simp_all

/-- Setting a condition keeps those of the other types. -/
theorem setStatusCondition_other
    {condition : Condition}
    {type : String}
    (conditions : List Condition)
    (different : condition.type ≠ type) :
    (setStatusCondition condition conditions).find? (·.type == type) =
      conditions.find? (·.type == type) := by
  induction conditions with
  | nil => simp [setStatusCondition, different]
  | cons old rest inductionHypothesis =>
      simp only [setStatusCondition]
      split
      · simp [*]
      · simp only [List.find?_cons, inductionHypothesis]

namespace OperatorOwned

variable {conditions : List Condition}

/-- Setting one of the two conditions keeps the conditions operator-owned. -/
theorem set
    {condition : Condition}
    (owned : OperatorOwned conditions)
    (isOwn : condition.type = resourcesAvailable ∨
      condition.type = volumeGroupsReady) :
    OperatorOwned (setStatusCondition condition conditions) where
  types other member := by
    rcases mem_setStatusCondition member with rfl | old
    · exact isOwn
    · exact owned.types other old
  unique := by
    have unique := owned.unique
    clear owned
    induction conditions with
    | nil => simp [setStatusCondition]
    | cons old rest inductionHypothesis =>
        simp only [List.map_cons, List.nodup_cons] at unique
        simp only [setStatusCondition]
        split
        · rename_i same
          simpa [← same] using unique
        · rename_i different
          simp only [List.map_cons, List.nodup_cons]
          refine ⟨?_, inductionHypothesis unique.2⟩
          simp only [List.mem_map, not_exists, not_and] at unique ⊢
          intro other member same
          rcases mem_setStatusCondition member with rfl | later
          · exact different same.symm
          · exact unique.1 other later same

/-- Two conditions of the two types are all there are, in one of two orders. -/
theorem eq_pair
    {available ready : Condition}
    (owned : OperatorOwned conditions)
    (isAvailable : conditions.find? (·.type == resourcesAvailable) = some available)
    (isReady : conditions.find? (·.type == volumeGroupsReady) = some ready) :
    conditions = [available, ready] ∨ conditions = [ready, available] := by
  obtain ⟨types, unique⟩ := owned
  match conditions with
  | [] => cases isAvailable
  | [single] => grind [resourcesAvailable, volumeGroupsReady]
  | [first, second] => grind [resourcesAvailable, volumeGroupsReady]
  | first :: second :: third :: rest =>
      -- Of three conditions two have the same type.
      grind

end OperatorOwned

/-! ## The state of the device classes -/

/-- The node status lists the volume group as ready. -/
def ReadyOn
    (statuses : List LVMVolumeGroupNodeStatus)
    (node vgName : String) : Prop :=
  ∃ status ∈ statuses, status.metadata.name = node ∧
    ∃ entry ∈ status.lvmVGStatus, entry.name = vgName ∧ entry.status = .ready

/-- Every device class has a valid node and is ready on all its valid nodes, and
no check of a node errs. -/
structure DeviceClassesReady
    (scheduling : Scheduling)
    (cluster : LVMCluster)
    (nodes : List Node)
    (statuses : List LVMVolumeGroupNodeStatus) : Prop where
  decided : ∀ deviceClass ∈ cluster.spec.deviceClasses, ∀ node ∈ nodes,
    ∃ valid, scheduling.isNodeValid node cluster deviceClass = .ok valid
  placed : ∀ deviceClass ∈ cluster.spec.deviceClasses, ∃ node ∈ nodes,
    scheduling.isNodeValid node cluster deviceClass = .ok true
  ready : ∀ deviceClass ∈ cluster.spec.deviceClasses, ∀ node ∈ nodes,
    scheduling.isNodeValid node cluster deviceClass = .ok true →
    ReadyOn statuses node.metadata.name deviceClass.name

/-- No two statuses are of one node, and no two entries of one volume group. -/
structure UniquelyListed (statuses : List LVMVolumeGroupNodeStatus) : Prop where
  nodes : (statuses.map (·.metadata.name)).Nodup
  entries : ∀ status ∈ statuses, (status.lvmVGStatus.map (·.name)).Nodup

section Validation

variable {scheduling : Scheduling} {cluster : LVMCluster} {nodes : List Node}
variable {statuses : List LVMVolumeGroupNodeStatus} {deviceClass : DeviceClass}

/-- The check passes when the node reports the class as ready. -/
theorem checkNodeStatus_eq_ok_iff
    {node : Node}
    (unique : UniquelyListed statuses) :
    checkNodeStatus statuses deviceClass node = .ok () ↔
      ReadyOn statuses node.metadata.name deviceClass.name := by
  have sameLookup : statuses.find? (node.metadata.name == ·.metadata.name) =
      statuses.find? (·.metadata.name == node.metadata.name) := by
    simp only [Bool.beq_comm]
  unfold checkNodeStatus
  rw [sameLookup]
  constructor
  · intro passed
    cases found : statuses.find? (·.metadata.name == node.metadata.name) with
    | none => simp [found] at passed
    | some status =>
        simp only [found] at passed
        cases listed : status.lvmVGStatus.find? (·.name == deviceClass.name) with
        | none => simp [listed] at passed
        | some entry =>
            simp only [listed, failIf_eq_ok_iff, bne_eq_false_iff_eq] at passed
            exact ⟨status, List.mem_of_find?_eq_some found,
              by simpa using List.find?_some found, entry,
              List.mem_of_find?_eq_some listed,
              by simpa using List.find?_some listed, passed⟩
  · rintro ⟨status, member, isNode, entry, entryMember, isClass, isReady⟩
    have found := (find?_key_eq_some_iff unique.nodes).mpr ⟨member, isNode⟩
    have listed := (find?_key_eq_some_iff (unique.entries status member)).mpr
      ⟨entryMember, isClass⟩
    simp [found, listed, isReady]

/-- The inner loop passes when every node is decided and every valid one ready;
its value says whether there is a valid node. -/
theorem checkDeviceClassNodes_eq_ok_iff
    {before found : Bool}
    (unique : UniquelyListed statuses) :
    scheduling.checkDeviceClassNodes cluster statuses deviceClass before nodes =
        .ok found ↔
      (∀ node ∈ nodes, ∃ valid,
        scheduling.isNodeValid node cluster deviceClass = .ok valid ∧
        (valid = true → ReadyOn statuses node.metadata.name deviceClass.name)) ∧
      (found = true ↔ before = true ∨
        ∃ node ∈ nodes, scheduling.isNodeValid node cluster deviceClass = .ok true) := by
  induction nodes generalizing before with
  | nil =>
      simp only [Scheduling.checkDeviceClassNodes, pure, Except.pure, Except.ok.injEq,
        List.not_mem_nil, false_implies, implies_true, true_and, false_and,
        exists_false, or_false]
      cases before <;> cases found <;> simp
  | cons node rest inductionHypothesis =>
      simp only [Scheduling.checkDeviceClassNodes, Except.bind_eq_ok_iff,
        List.forall_mem_cons, List.exists_mem_cons_iff]
      cases isValid : scheduling.isNodeValid node cluster deviceClass with
      | error err => simp
      | ok valid =>
          cases valid with
          | false => simp [inductionHypothesis]
          | true =>
              simp only [Except.ok.injEq, exists_eq_left', if_true,
                Except.bind_eq_ok_iff, Unique.exists_iff,
                checkNodeStatus_eq_ok_iff unique, inductionHypothesis]
              simp [and_assoc]

/-- The check passes when all classes are ready on all their nodes. -/
theorem validateDeviceClassSetup_eq_ok_iff
    (unique : UniquelyListed statuses) :
    scheduling.validateDeviceClassSetup cluster nodes statuses = .ok () ↔
      DeviceClassesReady scheduling cluster nodes statuses := by
  simp only [Scheduling.validateDeviceClassSetup, Except.forM_eq_ok_iff,
    Except.bind_eq_ok_iff, checkDeviceClassNodes_eq_ok_iff unique, failIf_eq_ok_iff]
  constructor
  · intro passed
    refine ⟨fun deviceClass member node nodeMember => ?_,
      fun deviceClass member => ?_, fun deviceClass member node nodeMember isValid => ?_⟩
    all_goals obtain ⟨found, ⟨checked, isFound⟩, some⟩ := passed deviceClass member
    · obtain ⟨valid, isValid, _⟩ := checked node nodeMember
      exact ⟨valid, isValid⟩
    · simpa using isFound.mp (by simpa using some)
    · obtain ⟨valid, same, ready⟩ := checked node nodeMember
      rw [isValid, Except.ok.injEq] at same
      exact ready same.symm
  · rintro ⟨decided, placed, ready⟩ deviceClass member
    refine ⟨true, ⟨fun node nodeMember => ?_, ?_⟩, rfl⟩
    · obtain ⟨valid, isValid⟩ := decided deviceClass member node nodeMember
      refine ⟨valid, isValid, fun isTrue => ?_⟩
      exact ready deviceClass member node nodeMember (isTrue ▸ isValid)
    · simpa using placed deviceClass member

/-- Only the spec of the cluster matters. -/
theorem deviceClassesReady_congr
    {cluster' : LVMCluster}
    (same : cluster'.spec = cluster.spec) :
    DeviceClassesReady scheduling cluster' nodes statuses ↔
      DeviceClassesReady scheduling cluster nodes statuses := by
  have sameChecks (node : Node) (deviceClass : DeviceClass) :
      scheduling.isNodeValid node cluster' deviceClass =
        scheduling.isNodeValid node cluster deviceClass := by
    simp only [Scheduling.isNodeValid, same]
  constructor
  · rintro ⟨decided, placed, ready⟩
    simp only [same, sameChecks] at decided placed ready
    exact ⟨decided, placed, ready⟩
  · rintro ⟨decided, placed, ready⟩
    simp only [← same, ← sameChecks] at decided placed ready
    exact ⟨decided, placed, ready⟩

theorem setVolumeGroupsReadyCondition_metadata :
    (scheduling.setVolumeGroupsReadyCondition cluster nodes statuses).metadata =
      cluster.metadata := by
  simp only [Scheduling.setVolumeGroupsReadyCondition]
  repeat' split
  all_goals rfl

end Validation

/-! ## The state of the cluster -/

open Classical in
/-- The state that the device classes and the managers call for. -/
noncomputable def stateOf
    (ready created : Prop)
    (listed : List VGStatus) : LVMStateType :=
  if ready ∧ created then .ready
  else if ¬ ready ∧ ∃ entry ∈ listed, entry.status = .failed then .failed
  else if ¬ ready ∧ ∃ entry ∈ listed, entry.status = .degraded then .degraded
  else .progressing

/-- The state does not depend on the order of the two conditions. -/
theorem computeLVMClusterReadiness_eq
    {conditions : List Condition}
    {available ready : Condition}
    {state : LVMStateType}
    (owned : OperatorOwned conditions)
    (isAvailable : conditions.find? (·.type == resourcesAvailable) = some available)
    (isReady : conditions.find? (·.type == volumeGroupsReady) = some ready)
    (forward : translateReasonToState ready.reason
      (translateReasonToState available.reason .unknown) = state)
    (backward : translateReasonToState available.reason
      (translateReasonToState ready.reason .unknown) = state) :
    computeLVMClusterReadiness conditions = (state, decide (state = .ready)) := by
  rcases owned.eq_pair isAvailable isReady with rfl | rfl
  · simp [computeLVMClusterReadiness, forward]
  · simp [computeLVMClusterReadiness, backward]

/-- The reason of the condition about the resources. -/
def availableReason (created : Bool) : String :=
  if created then reasonResourcesAvailable else reasonResourcesIncomplete

/-- The conditions of a cluster while its status is computed: the managers have
returned, and the volume groups have not been looked at. -/
structure Pending (created : Bool) (cluster : LVMCluster) : Prop where
  owned : OperatorOwned cluster.status.conditions
  available : ∃ condition,
    cluster.status.conditions.find? (·.type == resourcesAvailable) = some condition ∧
    condition.reason = availableReason created
  ready : ∃ condition,
    cluster.status.conditions.find? (·.type == volumeGroupsReady) = some condition ∧
    condition.reason = reasonVGReadinessInProgress

/-- The cluster as the managers see it: both conditions are in progress. -/
def LVMCluster.inProgress (cluster : LVMCluster) : LVMCluster :=
  setVolumeGroupsReadyConditionInProgress
    (setResourcesAvailableConditionInProgress cluster)

namespace Pending

variable {created : Bool} {cluster : LVMCluster}

/-- The state when a condition about the volume groups has been set. -/
theorem state_of_set
    {condition : Condition}
    {state : LVMStateType}
    (pending : Pending created cluster)
    (isReady : condition.type = volumeGroupsReady)
    (forward : translateReasonToState condition.reason
      (translateReasonToState (availableReason created) .unknown) = state)
    (backward : translateReasonToState (availableReason created)
      (translateReasonToState condition.reason .unknown) = state) :
    computeLVMClusterReadiness (cluster.setCondition condition).status.conditions =
      (state, decide (state = .ready)) := by
  obtain ⟨available, isAvailable, isReason⟩ := pending.available
  rw [← isReason] at forward backward
  have keptAvailable : (cluster.setCondition condition).status.conditions.find?
      (·.type == resourcesAvailable) = some available := by
    rw [← isAvailable]
    exact setStatusCondition_other _ (by rw [isReady]; decide)
  have nowReady : (cluster.setCondition condition).status.conditions.find?
      (·.type == volumeGroupsReady) = some condition :=
    setStatusCondition_self _ isReady
  exact computeLVMClusterReadiness_eq (pending.owned.set (.inr isReady))
    keptAvailable nowReady forward backward

/-- The state that the status of a reconciled cluster gets. -/
theorem state
    {scheduling : Scheduling}
    {nodes : List Node}
    {statuses : List LVMVolumeGroupNodeStatus}
    (pending : Pending created cluster)
    (unique : UniquelyListed statuses) :
    computeLVMClusterReadiness
        (scheduling.setVolumeGroupsReadyCondition cluster nodes
          statuses).status.conditions =
      let state := stateOf (DeviceClassesReady scheduling cluster nodes statuses)
        (created = true) (statuses.flatMap (·.lvmVGStatus))
      (state, decide (state = .ready)) := by
  unfold Scheduling.setVolumeGroupsReadyCondition
  cases checked : scheduling.validateDeviceClassSetup cluster nodes statuses with
  | ok passed =>
      have ready := (validateDeviceClassSetup_eq_ok_iff unique).mp checked
      cases created <;> simp only [stateOf, ready]
      · exact pending.state_of_set rfl (by simp; rfl) (by simp; rfl)
      · exact pending.state_of_set rfl (by simp; rfl) (by simp; rfl)
  | error err =>
      have notReady : ¬ DeviceClassesReady scheduling cluster nodes statuses := by
        rw [← validateDeviceClassSetup_eq_ok_iff unique, checked]
        simp
      simp only [stateOf, notReady, false_and, if_false, not_false_eq_true, true_and,
        List.any_eq_true, beq_iff_eq]
      by_cases someFailed : ∃ entry ∈ statuses.flatMap (·.lvmVGStatus),
          entry.status = .failed
      · simp only [someFailed, if_true]
        exact pending.state_of_set rfl (by cases created <;> rfl)
          (by cases created <;> rfl)
      by_cases someDegraded : ∃ entry ∈ statuses.flatMap (·.lvmVGStatus),
          entry.status = .degraded
      · simp only [someFailed, someDegraded, if_true, if_false]
        exact pending.state_of_set rfl (by cases created <;> rfl)
          (by cases created <;> rfl)
      · simp only [someFailed, someDegraded, if_false]
        obtain ⟨available, isAvailable, isReason⟩ := pending.available
        obtain ⟨ready, isReady, isProgress⟩ := pending.ready
        refine computeLVMClusterReadiness_eq pending.owned isAvailable isReady ?_ ?_
        all_goals
          rw [isReason, isProgress]
          cases created <;> rfl

/-- The condition about the resources is set after the managers have run. -/
theorem of_owned
    {condition : Condition}
    (owned : OperatorOwned cluster.status.conditions)
    (isAvailable : condition.type = resourcesAvailable)
    (isReason : condition.reason = availableReason created) :
    Pending created (cluster.inProgress.setCondition condition) where
  owned := ((owned.set (.inl rfl)).set (.inr rfl)).set (.inl isAvailable)
  available := ⟨condition, setStatusCondition_self _ isAvailable, isReason⟩
  ready := by
    refine ⟨_, (setStatusCondition_other _ ?_).trans (setStatusCondition_self _ rfl), ?_⟩
    · rw [isAvailable]
      decide
    · rfl

theorem of_failures
    (owned : OperatorOwned cluster.status.conditions)
    (err : GoError) :
    Pending false (setResourcesAvailableConditionFalse cluster.inProgress err) := by
  unfold setResourcesAvailableConditionFalse
  exact of_owned owned (by rfl) (by rfl)

theorem of_success
    (owned : OperatorOwned cluster.status.conditions) :
    Pending true (setResourcesAvailableConditionTrue cluster.inProgress) := by
  unfold setResourcesAvailableConditionTrue
  exact of_owned owned (by rfl) (by rfl)

end Pending

/-! ## The stored status -/

/-- The status of the cluster was stored. -/
def StatusUpdated (event : Event sig World) : Prop :=
  event.request.effect = .updateStatus ∧
    event.request.failure event.response = none

/-- The stored status is the one that the API server was given. -/
theorem Client.updateStatus_stored
    {node : String}
    {cluster : LVMCluster}
    {world after : World}
    {events : List (Event sig World)}
    {result : Except GoError Unit}
    {event : Event sig World}
    (ran : Exec (environment node) (Client.updateStatus cluster).run world events result
      after)
    (member : event ∈ events)
    (updated : StatusUpdated event) :
    ∃ stored, after.api.find? .lvmCluster cluster.metadata.name = some stored ∧
      stored.status = cluster.status := by
  obtain ⟨choice, rfl, -, rfl⟩ := exec_call_iff.mp ran
  obtain rfl := List.mem_singleton.mp member
  obtain ⟨-, succeeded⟩ := updated
  simp only [Environment.event, environment, World.respond, ApiServer.respond,
    Request.failure] at succeeded ⊢
  cases failure : choice.failure with
  | some text =>
      simp [failure, ApiServer.refuse, ApiRequest.failure, errorOf] at succeeded
  | none =>
      simp only [failure, ApiServer.answer] at succeeded ⊢
      cases found : world.api.find? .lvmCluster cluster.metadata.name with
      | none => simp [found, ApiRequest.failure, errorOf] at succeeded
      | some old =>
          simp only [found] at succeeded ⊢
          split at succeeded
          · rename_i current
            simp only [current, if_true]
            rw [ApiServer.find?_alter_of_keeps, found]
            · exact ⟨_, rfl, rfl⟩
            · intro _
              rfl
          · simp [ApiRequest.failure, errorOf] at succeeded

namespace Operator

variable {r : Operator} {node : String} {cluster : LVMCluster}
variable {world after : World} {events : List (Event sig World)}

theorem withVolumeGroupStatus_ok
    {summarised : LVMCluster}
    (someClass : cluster.spec.deviceClasses ≠ [])
    (ran : Exec (environment node) (r.withVolumeGroupStatus cluster).run world events
      (.ok summarised) after) :
    summarised.metadata = cluster.metadata ∧
    summarised.status.conditions = (r.scheduling.setVolumeGroupsReadyCondition cluster
      (world.api.objects .node) (world.api.objects .nodeStatus)).status.conditions := by
  have notEmpty : cluster.spec.deviceClasses.isEmpty = false := by
    simpa using someClass
  simp only [withVolumeGroupStatus, notEmpty, Bool.false_eq_true, if_false] at ran
  obtain ⟨statuses, _, _, _, listedStatuses, ran, -⟩ := Exec.run_bind_ok_iff.mp ran
  obtain ⟨nodes, _, _, _, listedNodes, ran, -⟩ := Exec.run_bind_ok_iff.mp ran
  obtain ⟨deviceClassStatuses, _, _, _, -, ran, -⟩ := Exec.run_bind_ok_iff.mp ran
  obtain ⟨rfl, rfl⟩ := Client.list_ok (Exec.run_mapError_ok_iff.mp listedStatuses)
  obtain ⟨rfl, rfl⟩ := Client.list_ok (Exec.run_mapError_ok_iff.mp listedNodes)
  obtain ⟨-, same, -⟩ := Exec.run_pure_iff.mp ran
  obtain rfl := Except.ok.inj same
  exact ⟨setVolumeGroupsReadyCondition_metadata, rfl⟩

/-- What the status of the cluster says after a successful update. -/
structure Summarised
    (scheduling : Scheduling)
    (cluster : LVMCluster)
    (created : Prop)
    (world : World)
    (status : LVMClusterStatus) : Prop where
  state : status.state =
    stateOf (DeviceClassesReady scheduling cluster (world.api.objects .node)
        (world.api.objects .nodeStatus)) created
      ((world.api.objects .nodeStatus).flatMap (·.lvmVGStatus))
  ready : status.ready = true ↔ status.state = .ready

/-- Only the spec of the cluster matters. -/
theorem Summarised.of_spec
    {scheduling : Scheduling}
    {cluster' : LVMCluster}
    {created : Prop}
    {status : LVMClusterStatus}
    (summarised : Summarised scheduling cluster' created world status)
    (same : cluster'.spec = cluster.spec) :
    Summarised scheduling cluster created world status where
  state := by
    rw [summarised.state, propext (deviceClassesReady_congr same)]
  ready := summarised.ready

/-- The status that is stored. -/
theorem updateLVMClusterStatus_stored
    {created : Bool}
    {result : Except GoError Unit}
    {event : Event sig World}
    (pending : Pending created cluster)
    (someClass : cluster.spec.deviceClasses ≠ [])
    (unique : UniquelyListed (after.api.objects .nodeStatus))
    (ran : Exec (environment node) (r.updateLVMClusterStatus cluster).run world events
      result after)
    (member : event ∈ events)
    (updated : StatusUpdated event) :
    ∃ stored, after.api.find? .lvmCluster cluster.metadata.name = some stored ∧
      Summarised r.scheduling cluster (created = true) after stored.status := by
  have frame := Exec.frame ran (r.updateLVMClusterStatus_uses _)
  have sameNodes := frame.objects .node (by decide)
  have sameStatuses := frame.objects .nodeStatus (by decide)
  obtain ⟨summarised, _, between, _, computed, stores, -, member⟩ :=
    (r.withVolumeGroupStatus_uses _).run_bind_reached ran member
      (by rw [Within, updated.1]; decide)
  obtain ⟨sameMetadata, conditions⟩ := withVolumeGroupStatus_ok someClass computed
  obtain ⟨_, _, stores⟩ := Exec.run_mapError_iff.mp stores
  obtain ⟨stored, found, isStatus⟩ := Client.updateStatus_stored stores member updated
  rw [← sameNodes, ← sameStatuses] at conditions
  have state := (congrArg computeLVMClusterReadiness conditions).trans
    (pending.state unique)
  refine ⟨stored, by rw [← sameMetadata]; exact found, ?_, ?_⟩
  · rw [isStatus]
    exact congrArg Prod.fst state
  · rw [isStatus, withReadiness, state]
    simp

/-! ## Reconciliations -/

/-- The results of the managers in a reconciliation of a cluster: after some reading
they all run, with the image of the operator's own pod. -/
def ManagersReturned
    (r : Operator)
    (node : String)
    (cluster : LVMCluster)
    (world : World)
    (events : List (Event sig World))
    (results : List (Except GoError Unit)) : Prop :=
  ∃ image read managed later last,
    events = read ++ managed ++ later ∧
    (∀ event ∈ read, Within [.read] event.request) ∧
    Exec (environment node)
      (({ r with imageName := image } : Operator).createResources cluster.inProgress)
      world managed results last

/-- There are no failures when all succeed. -/
theorem failures_eq_nil_iff
    {results : List (Except GoError Unit)} :
    failures results = [] ↔ ∀ result ∈ results, result = .ok () := by
  rw [failures, List.filterMap_eq_nil_iff]
  constructor
  all_goals
    intro each result member
    have this := each result member
    cases result <;> simp_all

theorem ensureFinalizer_of_present
    (present : lvmClusterFinalizer ∈ cluster.metadata.finalizers) :
    ensureFinalizer cluster = pure cluster := by
  simp [ensureFinalizer, ObjectMeta.addFinalizer, present]

section Ends

variable {result : Except GoError Result} {event : Event sig World}

/-- The status after a reconciliation in which a manager failed. -/
theorem reportIncomplete_stored
    {errs : GoError}
    (someClass : cluster.spec.deviceClasses ≠ [])
    (owned : OperatorOwned cluster.status.conditions)
    (unique : UniquelyListed (after.api.objects .nodeStatus))
    (ran : Exec (environment node) (r.reportIncomplete cluster.inProgress errs).run world
      events result after)
    (member : event ∈ events)
    (updated : StatusUpdated event) :
    ∃ stored, after.api.find? .lvmCluster cluster.metadata.name = some stored ∧
      Summarised r.scheduling cluster False after stored.status := by
  obtain ⟨_, _, _, _, _, ran, -, member⟩ :=
    (Program.Uses.run_lift (warningEvent_uses ..)).run_bind_reached ran member
      (by rw [Within, updated.1]; decide)
  obtain ⟨_, _, _, _, stores, throws, rfl⟩ := Exec.run_attempt_bind_iff.mp ran
  obtain ⟨rfl, -, rfl⟩ := Exec.run_throw_iff.mp throws
  obtain ⟨stored, found, summarised⟩ := updateLVMClusterStatus_stored
    (Pending.of_failures owned _) someClass unique stores
    (by simpa using member) updated
  exact ⟨stored, found, by
    simpa using (summarised.of_spec rfl : Summarised _ cluster _ _ _)⟩

/-- The status after a reconciliation in which all managers succeeded. -/
theorem finishReconcile_stored
    (someClass : cluster.spec.deviceClasses ≠ [])
    (owned : OperatorOwned cluster.status.conditions)
    (unique : UniquelyListed (after.api.objects .nodeStatus))
    (ran : Exec (environment node) (r.finishReconcile cluster.inProgress).run world
      events result after)
    (member : event ∈ events)
    (updated : StatusUpdated event) :
    ∃ stored, after.api.find? .lvmCluster cluster.metadata.name = some stored ∧
      Summarised r.scheduling cluster True after stored.status := by
  obtain ⟨_, _, _, _, _, ran, -, member⟩ :=
    (Program.Uses.run_mapError (r.checkForDeletedDeviceClasses_uses _)).run_bind_reached
      ran member (by rw [Within, updated.1]; decide)
  obtain ⟨_, _, _, _, _, ran, -, member⟩ :=
    (Program.Uses.run_lift (r.normalEvent_uses ..)).run_bind_reached ran member
      (by rw [Within, updated.1]; decide)
  rcases Exec.run_bind_iff.mp ran with
    ⟨_, _, stores⟩ | ⟨_, _, _, _, stores, ends, rfl⟩
  · obtain ⟨stored, found, summarised⟩ := updateLVMClusterStatus_stored
      (Pending.of_success owned) someClass unique stores member updated
    exact ⟨stored, found, by
      simpa using (summarised.of_spec rfl : Summarised _ cluster _ _ _)⟩
  · obtain ⟨rfl, -, rfl⟩ := Exec.run_pure_iff.mp ends
    obtain ⟨stored, found, summarised⟩ := updateLVMClusterStatus_stored
      (Pending.of_success owned) someClass unique stores (by simpa using member) updated
    exact ⟨stored, found, by
      simpa using (summarised.of_spec rfl : Summarised _ cluster _ _ _)⟩

end Ends

/-- After a reconciliation of a live cluster that stored the status, the status
summarises the device classes and the managers. -/
theorem reconcile_summarised
    {result : Except GoError Result}
    {event : Event sig World}
    (someClass : cluster.spec.deviceClasses ≠ [])
    (finalizer : lvmClusterFinalizer ∈ cluster.metadata.finalizers)
    (owned : OperatorOwned cluster.status.conditions)
    (unique : UniquelyListed (after.api.objects .nodeStatus))
    (ran : Exec (environment node) (r.reconcile cluster).run world events result after)
    (member : event ∈ events)
    (updated : StatusUpdated event) :
    ∃ results managed later last stored,
      events = managed ++ later ∧
      Exec (environment node) (r.createResources cluster.inProgress) world managed
        results last ∧
      after.api.find? .lvmCluster cluster.metadata.name = some stored ∧
      Summarised r.scheduling cluster (∀ result ∈ results, result = .ok ()) after
        stored.status := by
  have ensured : ensureFinalizer (setVolumeGroupsReadyConditionInProgress
      (setResourcesAvailableConditionInProgress cluster)) = pure cluster.inProgress :=
    ensureFinalizer_of_present finalizer
  rw [reconcile, ensured, pure_bind] at ran
  obtain ⟨results, managed, last, later, managers, rest, rfl, late⟩ :=
    (Program.Uses.run_lift (r.createResources_uses cluster.inProgress)).run_bind_reached
      ran member (by rw [Within, updated.1]; decide)
  have managers := Exec.run_lift_ok_iff.mp managers
  suffices summary : ∃ stored,
      after.api.find? .lvmCluster cluster.metadata.name = some stored ∧
      Summarised r.scheduling cluster (∀ result ∈ results, result = .ok ()) after
        stored.status by
    obtain ⟨stored, found, summarised⟩ := summary
    exact ⟨results, managed, later, last, stored, rfl, managers, found, summarised⟩
  rw [← failures_eq_nil_iff, ← GoError.joinAll_eq_none_iff]
  cases joined : GoError.joinAll (failures results) with
  | some errs =>
      simp only [joined] at rest
      simpa using reportIncomplete_stored someClass owned unique rest late updated
  | none =>
      simp only [joined] at rest
      simpa using finishReconcile_stored someClass owned unique rest late updated

/-- Exactly the device classes and the managers decide the state that a
reconciliation of a live cluster stores. -/
theorem reconcileRequest_summarised
    {name : String}
    {result : Except GoError Result}
    (found : world.api.find? .lvmCluster name = some cluster)
    (live : cluster.metadata.deletionTimestamp = none)
    (someClass : cluster.spec.deviceClasses ≠ [])
    (finalizer : lvmClusterFinalizer ∈ cluster.metadata.finalizers)
    (owned : OperatorOwned cluster.status.conditions)
    (unique : UniquelyListed (after.api.objects .nodeStatus))
    (ran : Exec (environment node) (r.reconcileRequest name).run world events result after)
    (updated : ∃ event ∈ events, StatusUpdated event) :
    ∃ results stored,
      ManagersReturned r node cluster world events results ∧
      after.api.find? .lvmCluster name = some stored ∧
      Summarised r.scheduling cluster (∀ result ∈ results, result = .ok ()) after
        stored.status := by
  obtain ⟨event, member, updated⟩ := updated
  have outside : ¬ Within [.read] event.request := by
    rw [Within, updated.1]
    decide
  obtain ⟨clusters, listed, _, _, lists, counted, isListed, member⟩ :=
    (Program.Uses.run_mapError (Client.list_uses .lvmCluster)).run_bind_reached ran member
      outside
  obtain ⟨-, rfl⟩ := Client.list_ok (Exec.run_mapError_ok_iff.mp lists)
  dsimp only at counted
  split at counted
  · obtain ⟨_, _, _, _, throws, -⟩ :=
      (Program.Uses.run_throw _).run_bind_reached counted member outside
    obtain ⟨-, impossible, -⟩ := Exec.run_throw_iff.mp throws
    cases impossible
  obtain ⟨answer, got, _, _, gets, read, isGot, member⟩ :=
    (Program.Uses.run_attempt (Client.get_uses .lvmCluster name)).run_bind_reached counted
      member outside
  have gets := Exec.run_attempt_ok_iff.mp gets
  cases answer with
  | error err =>
      dsimp only at read
      split at read
      · obtain ⟨rfl, -⟩ := Exec.run_pure_iff.mp read
        cases member
      · obtain ⟨rfl, -⟩ := Exec.run_throw_iff.mp read
        cases member
  | ok object =>
      obtain ⟨same, rfl⟩ := Client.get_ok gets
      obtain rfl : object = cluster := Option.some.inj (same.symm.trans found)
      obtain ⟨started, imaged, _, _, images, reconciled, isImaged, member⟩ :=
        (Program.Uses.run_mapError r.setRunningPodImage_uses).run_bind_reached read member
          outside
      have images := Exec.run_mapError_ok_iff.mp images
      obtain ⟨rfl, -⟩ := Exec.of_reading images
        (within r.setRunningPodImage_uses (by simp))
      obtain ⟨image, rfl⟩ := r.setRunningPodImage_yields.sound images started rfl
      simp only [live, Option.isSome_none, Bool.false_eq_true, if_false] at reconciled
      obtain ⟨results, managed, later, last, stored, isManaged, managers, isStored,
          summarised⟩ :=
        reconcile_summarised someClass finalizer owned unique reconciled member updated
      refine ⟨results, stored, ⟨image, listed ++ got ++ imaged, managed, later, last, ?_,
        ?_, managers⟩, ?_, summarised⟩
      · rw [isListed, isGot, isImaged, isManaged]
        simp only [List.append_assoc]
      · rw [List.forall_mem_append, List.forall_mem_append]
        exact ⟨⟨(Client.list_uses _).events_allowed (Exec.run_mapError_ok_iff.mp lists),
          (Client.get_uses ..).events_allowed gets⟩,
          r.setRunningPodImage_uses.events_allowed images⟩
      · rw [← ApiServer.nameOf_of_find? found]
        exact isStored

end Operator

/-- A cluster whose only device class is ready on the only node. -/
def readyCluster : LVMCluster :=
  { selectiveCluster (zoneSelector "a") with
    metadata := { name := "cluster", finalizers := [lvmClusterFinalizer] } }

def readyWorld : World where
  api := ⟨fun
    | .lvmCluster => [readyCluster]
    | .node => [zoneNode "node" "a" []]
    | .nodeStatus => [{
        metadata := { name := "node" }
        lvmVGStatus := [{ name := "vg1", status := .ready }] }]
    | _ => []⟩
  host := fun _ => {}
  memory := fun _ => {}

/-- A reconciliation of the ready cluster. -/
def readyRun : List (Event sig World) × Except GoError Result × World :=
  (plainOperator.reconcileRequest "cluster").run.run (environment "node") (fun _ _ => {})
    readyWorld

theorem reconcileRequest_summarised_ready :
    ∃ results stored,
      plainOperator.ManagersReturned "node" readyCluster readyWorld readyRun.1 results ∧
      readyRun.2.2.api.find? .lvmCluster "cluster" = some stored ∧
      Operator.Summarised .byLabels readyCluster
        (∀ result ∈ results, result = .ok ()) readyRun.2.2 stored.status := by
  have updated : ∃ event ∈ readyRun.1, StatusUpdated event := by
    have found : readyRun.1.any (fun event =>
        event.request.effect == .updateStatus &&
          (event.request.failure event.response).isNone) = true := by
      decide +kernel
    obtain ⟨event, member, holds⟩ := List.any_eq_true.mp found
    exact ⟨event, member, by simpa [StatusUpdated] using holds⟩
  exact Operator.reconcileRequest_summarised (by rfl) rfl (by decide) (by decide)
    ⟨by decide, by decide⟩ ⟨by decide +kernel, by decide +kernel⟩
    (Program.run_exec ..) updated

end Lvms
