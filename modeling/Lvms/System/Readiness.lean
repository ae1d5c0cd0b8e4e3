import Lvms.Reporting
import Lvms.System.NodeStatuses
import Lvms.System.RetainedData

/-!
# What a ready cluster means

The operator calls a cluster ready from what the node statuses say, without looking at any
host. Node statuses are written by the vg-managers and passed on by everybody else, so behind a
ready cluster there are reconciliations on the nodes that have found everything in place. This is
shown for whole runs of the system, in which the specs, the nodes and the hosts change at any
time.
-/

namespace Lvms

open Interaction Interaction.Program

/-! ## What the operator looks at -/

/-- The call stores that a cluster is ready. -/
def writesReady : Request → Bool
  | .api (.updateStatus stored) => stored.status.state == .ready
  | _ => false

theorem exists_of_writesReady
    {request : Request}
    (writes : writesReady request = true) :
    ∃ stored, request = .api (.updateStatus stored) ∧ stored.status.state = .ready := by
  unfold writesReady at writes
  split at writes
  · exact ⟨_, rfl, by simpa using writes⟩
  · cases writes

/-- The state is ready only when the device classes are. -/
theorem stateOf_eq_ready
    {ready created : Prop}
    {listed : List VGStatus}
    (isReady : stateOf ready created listed = .ready) :
    ready := by
  unfold stateOf at isReady
  split at isReady
  · rename_i both
    exact both.1
  · repeat' split at isReady
    all_goals cases isReady

namespace Operator

variable {r : Operator} {node : String} {cluster stored : LVMCluster}
variable {world after : World} {events : List (Event sig World)} {event : Event sig World}

/-- A ready state is computed from what is stored when it is written. -/
theorem updateLVMClusterStatus_ready
    {created : Bool}
    {result : Except GoError Unit}
    (pending : Pending created cluster)
    (someClass : cluster.spec.deviceClasses ≠ [])
    (ran : Exec (environment node) (r.updateLVMClusterStatus cluster).run world events
      result after)
    (member : event ∈ events)
    (unique : UniquelyListed (event.before.api.objects .nodeStatus))
    (writes : event.request = .api (.updateStatus stored))
    (isReady : stored.status.state = .ready) :
    DeviceClassesReady r.scheduling cluster (event.before.api.objects .node)
      (event.before.api.objects .nodeStatus) := by
  have isUpdate : event.request.effect = .updateStatus := by
    rw [writes]
    rfl
  obtain ⟨summarised, _, between, _, computed, stores, -, member⟩ :=
    (r.withVolumeGroupStatus_uses _).run_bind_reached ran member
      (by rw [Within, isUpdate]; decide)
  obtain ⟨-, conditions⟩ := withVolumeGroupStatus_ok someClass computed
  obtain ⟨rfl, -⟩ := Exec.of_reading computed
    (within (r.withVolumeGroupStatus_uses _) (by decide))
  obtain ⟨_, _, stores⟩ := Exec.run_mapError_iff.mp stores
  obtain ⟨choice, rfl, -, -⟩ := exec_call_iff.mp stores
  obtain rfl := List.mem_singleton.mp member
  have same : ApiRequest.updateStatus (withReadiness summarised) = .updateStatus stored :=
    Request.api.inj writes
  obtain rfl := ApiRequest.updateStatus.inj same
  have state := (congrArg computeLVMClusterReadiness conditions).trans (pending.state unique)
  exact stateOf_eq_ready ((congrArg Prod.fst state).symm.trans isReady)

/-- The status of a cluster with the finalizer is computed from conditions that say nothing
about the volume groups yet. -/
theorem reconcile_pending
    {result : Except GoError Result}
    (finalizer : lvmClusterFinalizer ∈ cluster.metadata.finalizers)
    (owned : OperatorOwned cluster.status.conditions)
    (ran : Exec (environment node) (r.reconcile cluster).run world events result after)
    (member : event ∈ events)
    (isUpdate : event.request.effect = .updateStatus) :
    ∃ created pending start inner part last,
      Pending created pending ∧ pending.spec = cluster.spec ∧
      Exec (environment node) (r.updateLVMClusterStatus pending).run start part inner last ∧
      event ∈ part := by
  have outside {effects : List Effect} (absent : .updateStatus ∉ effects) :
      ¬Within effects event.request := by
    rwa [Within, isUpdate]
  have ensured : ensureFinalizer (setVolumeGroupsReadyConditionInProgress
      (setResourcesAvailableConditionInProgress cluster)) = pure cluster.inProgress :=
    ensureFinalizer_of_present finalizer
  rw [reconcile, ensured, pure_bind] at ran
  obtain ⟨results, _, _, _, -, rest, -, late⟩ :=
    (Program.Uses.run_lift (r.createResources_uses cluster.inProgress)).run_bind_reached
      ran member (outside (by decide))
  cases joined : GoError.joinAll (failures results) with
  | some errs =>
      simp only [joined] at rest
      obtain ⟨_, _, _, _, -, reports, -, inReport⟩ :=
        (Program.Uses.run_lift (warningEvent_uses ..)).run_bind_reached rest late
          (outside (by decide))
      obtain ⟨_, _, _, _, stores, throws, rfl⟩ := Exec.run_attempt_bind_iff.mp reports
      obtain ⟨rfl, -, rfl⟩ := Exec.run_throw_iff.mp throws
      exact ⟨_, _, _, _, _, _, Pending.of_failures owned _, rfl, stores,
        by simpa using inReport⟩
  | none =>
      simp only [joined] at rest
      obtain ⟨_, _, _, _, -, announces, -, inRest⟩ :=
        (Program.Uses.run_mapError (r.checkForDeletedDeviceClasses_uses _)).run_bind_reached
          rest late (outside (by decide))
      obtain ⟨_, _, _, _, -, finishes, -, inEnd⟩ :=
        (Program.Uses.run_lift (r.normalEvent_uses ..)).run_bind_reached announces inRest
          (outside (by decide))
      rcases Exec.run_bind_iff.mp finishes with
        ⟨_, _, stores⟩ | ⟨_, _, _, _, stores, ends, rfl⟩
      · exact ⟨_, _, _, _, _, _, Pending.of_success owned, rfl, stores, inEnd⟩
      · obtain ⟨rfl, -, rfl⟩ := Exec.run_pure_iff.mp ends
        exact ⟨_, _, _, _, _, _, Pending.of_success owned, rfl, stores,
          by simpa using inEnd⟩

/-- A cluster with the finalizer is only called ready when its device classes are listed as
ready on all their nodes. -/
theorem reconcileRequest_ready
    {name : String}
    {result : Except GoError Result}
    (found : world.api.find? .lvmCluster name = some cluster)
    (someClass : cluster.spec.deviceClasses ≠ [])
    (finalizer : lvmClusterFinalizer ∈ cluster.metadata.finalizers)
    (owned : OperatorOwned cluster.status.conditions)
    (ran : Exec (environment node) (r.reconcileRequest name).run world events result after)
    (member : event ∈ events)
    (unique : UniquelyListed (event.before.api.objects .nodeStatus))
    (writes : event.request = .api (.updateStatus stored))
    (isReady : stored.status.state = .ready) :
    DeviceClassesReady r.scheduling cluster (event.before.api.objects .node)
      (event.before.api.objects .nodeStatus) := by
  have isUpdate : event.request.effect = .updateStatus := by
    rw [writes]
    rfl
  obtain ⟨first, rest, rfl, reads, stopsOr⟩ := reconcileRequest_cases ran
  rcases List.mem_append.mp member with early | late
  · have reading := reads event early
    simp [isUpdate] at reading
  rcases stopsOr with ⟨rfl, -⟩ | reconciles
  · cases late
  cases reconciles with
  | deleted _ _ _ deletes =>
      have allowed := reconcileDeleted_uses.events_allowed deletes event late
      rw [Within, isUpdate] at allowed
      exact absurd allowed (by decide)
  | live again _ _ reconciled =>
      obtain rfl := Option.some.inj (again.symm.trans found)
      obtain ⟨_, pending, _, _, _, _, isPending, sameSpec, stores, inStores⟩ :=
        reconcile_pending finalizer owned reconciled late isUpdate
      exact (deviceClassesReady_congr sameSpec).mp (updateLVMClusterStatus_ready isPending
        (sameSpec ▸ someClass) stores inStores unique writes isReady)

end Operator

/-! ## What the vg-managers have found out -/

/-- After a call of the vg-manager of a node the status of the node lists a volume group as
ready, which the call has written. -/
structure StoresReady (node name : String) (event : Event sig World) : Prop where
  persists : persistsReady name event.request = true
  stored : ∃ choice, (environment node).event choice event.before event.request = event ∧
    ReadyOn ((World.respond node choice event.before event.request).2.api.objects .nodeStatus)
      node name

/-- The vg-manager of a node has stored, in a reconciliation of the past, that a volume group
is ready. The volume group was not being deleted, and the same reconciliation listed, created
or extended it on the node, found the thin pool sound, the RAID healthy and all mandatory
paths usable, and loaded or saved the device class in the configuration of lvmd. -/
def ReadyReported
    (system : System)
    (past : List Occurrence)
    (node name : String) : Prop :=
  ∃ before events after vg,
    events.map (.call (.vgManager node)) <:+: past ∧
    ReconcileStep (system.vgManager node) name before events after ∧
    before.api.find? .volumeGroup name = some vg ∧
    vg.metadata.deletionTimestamp = none ∧
    (∃ event ∈ events, StoresReady node name event) ∧
    Reconciler.Ready (system.vgManager node) vg events ∧
    Reconciler.PathsUsable node vg events

/-- A ready state has been reported in the past. -/
def KnownFrom (system : System) (past : List Occurrence) (node : String) (entry : VGStatus) :
    Prop :=
  entry.status = .ready → ReadyReported system past node entry.name

section Past

variable {system : System} {past : List Occurrence} {node name : String}
variable {before after : World}

theorem KnownFrom.later
    {entry : VGStatus}
    (later : List Occurrence)
    (isKnown : KnownFrom system past node entry) :
    KnownFrom system (past ++ later) node entry := by
  intro isReady
  obtain ⟨start, events, last, vg, inPast, evidence⟩ := isKnown isReady
  exact ⟨start, events, last, vg, inPast.trans (List.prefix_append ..).isInfix, evidence⟩

theorem StatusesKnown.later
    (later : List Occurrence)
    (reported : StatusesKnown (KnownFrom system past) before) :
    StatusesKnown (KnownFrom system (past ++ later)) before :=
  reported.mono fun _ _ isKnown => isKnown.later _

/-- A volume group is listed as ready after a call that says so. -/
theorem persistsReady_of_readyOn
    {choice : Choice}
    {actor : String}
    {request : Request}
    (absent : ¬ReadyOn (before.api.objects .nodeStatus) node name)
    (present : ReadyOn ((World.respond actor choice before request).2.api.objects .nodeStatus)
      node name) :
    persistsReady name request = true := by
  obtain ⟨status, member, isNode, entry, inStatus, named, isReady⟩ := present
  cases request with
  | api request =>
      cases ApiServer.arises member with
      | kept wasThere =>
          exact absurd ⟨status, wasThere, isNode, entry, inStatus, named, isReady⟩ absent
      | created missing =>
          exact List.any_eq_true.mpr ⟨entry, inStatus, by simp [named, isReady]⟩
      | updated wasThere sameName becomes =>
          obtain rfl := ApiServer.eq_of_stored becomes
          exact List.any_eq_true.mpr ⟨entry, inStatus, by simp [named, isReady]⟩
      | marked wasThere sameName becomes =>
          rcases ApiServer.eq_of_deleted becomes with rfl | rfl
          · exact absurd ⟨_, wasThere, isNode, entry, inStatus, named, isReady⟩ absent
          · exact absurd ⟨_, wasThere, isNode, entry, inStatus, named, isReady⟩ absent
  | otherManager =>
      simp only [World.respond] at member
      split at member
      all_goals exact absurd ⟨status, member, isNode, entry, inStatus, named, isReady⟩ absent
  | query | command | newResolver | loadResolved | storeResolved | cachedConfig
  | cacheConfig | mapOrder | now | event | raidMetrics | dropRAIDMetrics | turn =>
      exact absurd ⟨status, member, isNode, entry, inStatus, named, isReady⟩ absent

/-- A reconciliation of a volume group reports what it has found out itself, and passes on the
rest. -/
theorem ReconcileStep.reported
    {events : List (Event sig World)}
    (step : ReconcileStep (system.vgManager node) name before events after)
    (reported : StatusesKnown (KnownFrom system past) before) :
    StatusesKnown (KnownFrom system (past ++ events.map (.call (.vgManager node)))) after := by
  have sameNode := system.nodeName_vgManager node
  obtain ⟨first, rest, rfl, -, stopsOr⟩ := step.cases
  rcases stopsOr with ⟨rfl, rfl⟩ | ⟨vg, result, found, ran⟩
  · have later := reported.later ((first ++ []).map (.call (.vgManager node)))
    exact ⟨later.unique, later.statuses, later.clusters⟩
  have named : vg.name = name := ApiServer.nameOf_of_find? found
  -- Until it is known what the reconciliation has found out, its own reports are set apart.
  let known (owner : String) (entry : VGStatus) : Prop :=
    KnownFrom system past owner entry ∨
      owner = node ∧ entry.name = name ∧ vg.metadata.deletionTimestamp = none
  have knownBefore : StatusesKnown known before := reported.mono fun _ _ => .inl
  have starts : StatusesKnown known
      (before.withNewResolver (system.vgManager node).nodeName) :=
    ⟨knownBefore.unique, knownBefore.statuses, knownBefore.clusters⟩
  have obeys : ((system.vgManager node).reconcile vg).Obeys (reporting known) := by
    refine Reconciler.reconcile_reports (fun entry _ notReady => ?_)
      fun live entry isOwn => ?_
    · exact .inl fun isReady => absurd isReady notReady
    · exact .inr ⟨sameNode, isOwn.trans named, live⟩
  obtain ⟨-, final⟩ := starts.of_obeys obeys ran
  refine ⟨final.unique, fun status member => ⟨(final.statuses status member).unique,
    fun entry inStatus => ?_⟩, final.clusters⟩
  rcases (final.statuses status member).isKnown entry inStatus with
    isKnown | ⟨isNode, isOwn, live⟩
  · exact isKnown.later _
  intro isReady
  rw [isNode, isOwn]
  by_cases wasReady : ReadyOn (before.api.objects .nodeStatus) node name
  · obtain ⟨old, wasThere, oldNode, oldEntry, inOld, oldName, oldReady⟩ := wasReady
    have isKnown := (reported.statuses old wasThere).isKnown oldEntry inOld
    rw [oldNode] at isKnown
    exact oldName ▸ isKnown.later _ oldReady
  have nowReady : ReadyOn (after.api.objects .nodeStatus) node name :=
    ⟨status, member, isNode, entry, inStatus, isOwn, isReady⟩
  have onNode := ran
  rw [sameNode] at onNode
  obtain ⟨event, inRest, wasAbsent, choice, isEvent, isPresent⟩ := Exec.exists_breaking
    (fun world => ¬ReadyOn (world.api.objects .nodeStatus) node name) onNode wasReady
    (not_not.mpr nowReady)
  have stores : StoresReady node name event :=
    ⟨persistsReady_of_readyOn wasAbsent (not_not.mp isPresent), choice, isEvent,
      not_not.mp isPresent⟩
  have persists := stores.persists
  rw [← named] at persists
  obtain ⟨ready, usable⟩ := Reconciler.reconcile_ready persists live
    (List.suffix_append first rest).isInfix ran inRest
  exact ⟨before, first ++ rest, after, vg, (List.suffix_append ..).isInfix, step, found,
    live, ⟨event, List.mem_append_right _ inRest, stores⟩, ready, sameNode ▸ usable⟩

/-- Every action keeps the reported states known. -/
theorem System.Step.reported
    {action : Action}
    {occurrences : List Occurrence}
    (step : system.Step before action occurrences after)
    (reported : StatusesKnown (KnownFrom system past) before) :
    StatusesKnown (KnownFrom system (past ++ occurrences)) after := by
  cases step with
  | @create metadata spec _ _ _ inSchema accepted ran =>
      have none : OperatorOwned [] := ⟨by simp, .nil⟩
      have obeys : (Client.create .lvmCluster (Webhook.default { metadata, spec })).run.Obeys
          (reporting (KnownFrom system past)) fun _ => True :=
        ⟨none, fun _ _ => trivial⟩
      exact (reported.of_obeys obeys ran).2.later _
  | @update name spec old _ _ _ found inSchema allowed accepted ran =>
      have owned := reported.clusters old (List.mem_of_find?_eq_some found)
      have obeys : (Client.update .lvmCluster { old with spec }).run.Obeys
          (reporting (KnownFrom system past)) fun _ => True :=
        ⟨owned, fun _ _ => trivial⟩
      exact (reported.of_obeys obeys ran).2.later _
  | delete ran =>
      exact (reported.of_obeys (reports_of_within (Client.delete_uses ..) (by decide))
        ran).2.later _
  | operator ran =>
      exact (reported.of_obeys (Operator.reconcileRequest_reports _) ran).2.later _
  | vgManager step => exact step.reported reported
  | change surroundings =>
      have sameStatuses := surroundings.objects .nodeStatus (by decide)
      have sameClusters := surroundings.objects .lvmCluster (by decide)
      have later := reported.later [.change before]
      refine ⟨?_, ?_, ?_⟩
      · rw [ApiServer.Unique, sameStatuses]
        exact later.unique
      · rw [sameStatuses]
        exact later.statuses
      · rw [sameClusters]
        exact later.clusters

end Past

/-- Take any run of the system from a world in which LVMS has stored nothing yet. When the
operator calls a cluster ready that has its finalizer, then every device class has a node that
it is meant for, and on each of these nodes the vg-manager has stored the ready state before. In
the same reconciliation it listed, created or extended the volume group, and saw usable devices
under all mandatory paths, a sound thin pool, the device class in the configuration of lvmd, and
healthy RAID. -/
theorem ready_cluster_established
    {system : System}
    {start world after : World}
    {past occurrences : List Occurrence}
    {name : String}
    {cluster : LVMCluster}
    {event : Event sig World}
    (installed : ∀ kind ∈ managedKinds, start.api.objects kind = [])
    (run : system.Run (fun _ _ => True) start past world)
    (step : system.Step world (.operator name) occurrences after)
    (found : world.api.find? .lvmCluster name = some cluster)
    (finalizer : lvmClusterFinalizer ∈ cluster.metadata.finalizers)
    (member : .call .operator event ∈ occurrences)
    (writes : writesReady event.request = true) :
    ∀ deviceClass ∈ cluster.spec.deviceClasses,
      (∃ node ∈ event.before.api.objects .node,
        system.operator.scheduling.isNodeValid node cluster deviceClass = .ok true) ∧
      ∀ node ∈ event.before.api.objects .node,
        system.operator.scheduling.isNodeValid node cluster deviceClass = .ok true →
        ReadyReported system past node.metadata.name deviceClass.name := by
  obtain ⟨stored, isUpdate, isReady⟩ := exists_of_writesReady writes
  have initially : StatusesKnown (KnownFrom system []) start := by
    refine ⟨?_, ?_, ?_⟩
    · simp [ApiServer.Unique, installed .nodeStatus (by decide)]
    · simp [installed .nodeStatus (by decide)]
    · simp [installed .lvmCluster (by decide)]
  have reported : StatusesKnown (KnownFrom system past) world := by
    refine run.induct (fun past world => StatusesKnown (KnownFrom system past) world)
      initially ?_
    rintro _ _ _ _ reported ⟨_, _, step⟩
    exact step.reported reported
  cases step with
  | operator ran =>
      obtain ⟨written, inEvents, same⟩ := List.mem_map.mp member
      obtain rfl : written = event := by injection same
      have reportedThen := (reported.of_obeys (Operator.reconcileRequest_reports _) ran).1
        written inEvents
      have unique : UniquelyListed (written.before.api.objects .nodeStatus) :=
        ⟨reportedThen.unique, fun status isStatus =>
          (reportedThen.statuses status isStatus).unique⟩
      intro deviceClass isClass
      have owned := reported.clusters cluster (List.mem_of_find?_eq_some found)
      have ready := Operator.reconcileRequest_ready found (List.ne_nil_of_mem isClass)
        finalizer owned ran inEvents unique isUpdate isReady
      refine ⟨ready.placed deviceClass isClass, fun node isNode isValid => ?_⟩
      obtain ⟨status, isStatus, ofNode, entry, inStatus, named, entryReady⟩ :=
        ready.ready deviceClass isClass node isNode isValid
      have isKnown := (reportedThen.statuses status isStatus).isKnown entry inStatus
      rw [ofNode] at isKnown
      exact named ▸ isKnown entryReady

/-- Both device classes are set up on the node. -/
def setUpBoth : List Occurrence × World :=
  System.plain.performAll withoutFailures oneNodeWorld
    (setUpSecond ++ List.replicate 3 (.vgManager "node" "vg1"))

/-- The reconciliation that calls the cluster ready. -/
def bothReady : List Occurrence × World :=
  System.plain.perform withoutFailures setUpBoth.2 (.operator "cluster")

theorem ready_cluster_established_both :
    (∃ node, ReadyReported System.plain setUpBoth.1 node "vg1") ∧
      ∃ node, ReadyReported System.plain setUpBoth.1 node "vg2" := by
  obtain ⟨event, member, writes⟩ := exists_call_of_any bothReady.1
    (fun event => writesReady event.request) (by decide +kernel)
  have stored : (setUpBoth.2.api.find? .lvmCluster "cluster").any (fun cluster =>
      cluster.metadata.finalizers.contains lvmClusterFinalizer &&
        cluster.spec.deviceClasses.map (·.name) == ["vg1", "vg2"]) = true := by
    decide +kernel
  cases found : setUpBoth.2.api.find? .lvmCluster "cluster" with
  | none => simp [found] at stored
  | some cluster =>
      simp only [found, Option.any_some, Bool.and_eq_true, List.contains_iff_mem,
        beq_iff_eq] at stored
      obtain ⟨finalizer, names⟩ := stored
      have both (name : String) (isName : name ∈ ["vg1", "vg2"]) :
          ∃ node, ReadyReported System.plain setUpBoth.1 node name := by
        rw [← names] at isName
        obtain ⟨deviceClass, isClass, rfl⟩ := List.mem_map.mp isName
        obtain ⟨⟨node, isNode, isValid⟩, established⟩ := ready_cluster_established (by decide)
          (System.performAll_run (by decide +kernel)) (System.perform_step trivial) found
          finalizer member writes deviceClass isClass
        exact ⟨node.metadata.name, established node isNode isValid⟩
      exact ⟨both "vg1" (by simp), both "vg2" (by simp)⟩

end Lvms
