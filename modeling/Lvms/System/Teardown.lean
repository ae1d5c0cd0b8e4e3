import Lvms.System.Defaults
import Lvms.System.NodeStatuses

/-!
# The vg-manager is torn down

The operator deletes the daemon set of the vg-manager when the volume groups of the device
classes of the cluster are gone. It does not wait for those of device classes that were
removed before, so nodes that still have to clean up one of them lose their vg-manager.
-/

namespace Lvms

open Interaction Interaction.Program

/-- A volume group that the cluster with a UID controls waits for the cleanup by a node. -/
def Awaits (world : World) (uid name node : String) : Prop :=
  ∃ vg, world.api.find? .volumeGroup name = some vg ∧
    vg.metadata.isControlledBy uid = true ∧ getFinalizer node ∈ vg.metadata.finalizers

/-! ## Stale finalizers -/

namespace Operator

variable
  {host : String}
  {nodes : List String}
  {world after : World}
  {events : List (Event sig World)}
variable {name uid node : String} {vg : LVMVolumeGroup} {result : Except GoError Unit}

/-- What the removal of stale finalizers from a volume group leaves. -/
structure ReleasesStale
    (nodes : List String)
    (name : String)
    (world after : World) : Prop where
  unique : after.api.Unique .volumeGroup
  others : ∀ other, other ≠ name →
    after.api.find? .volumeGroup other = world.api.find? .volumeGroup other
  awaits : ∀ uid, ∀ node ∈ nodes,
    Awaits after uid name node ↔ Awaits world uid name node

theorem ReleasesStale.refl
    (unique : world.api.Unique .volumeGroup) :
    ReleasesStale nodes name world world :=
  ⟨unique, fun _ _ => rfl, fun _ _ _ => Iff.rfl⟩

theorem ReleasesStale.trans
    {middle : World}
    (first : ReleasesStale nodes name world middle)
    (second : ReleasesStale nodes name middle after) :
    ReleasesStale nodes name world after where
  unique := second.unique
  others other different := (second.others other different).trans
    (first.others other different)
  awaits uid node isNode := (second.awaits uid node isNode).trans
    (first.awaits uid node isNode)

/-- A version of a volume group is the stored one, or the volume group is gone. -/
def IsCurrent (world : World) (vg : LVMVolumeGroup) : Prop :=
  ∀ current, world.api.find? .volumeGroup vg.name = some current → vg = current

/-- The stored version is replaced by one with the same finalizers of the nodes. -/
theorem releasesStale_update
    {object updated : LVMVolumeGroup}
    (ran : Exec (environment host) (Client.update .volumeGroup object).run world events
      (.ok updated) after)
    (unique : world.api.Unique .volumeGroup)
    (current : ∀ stored, world.api.find? .volumeGroup object.name = some stored →
      vg = stored)
    (owners : object.metadata.ownerReferences = vg.metadata.ownerReferences)
    (finalizers : ∀ node ∈ nodes,
      getFinalizer node ∈ object.metadata.finalizers ↔
        getFinalizer node ∈ vg.metadata.finalizers) :
    ReleasesStale nodes object.name world after ∧ IsCurrent after updated ∧
      updated.name = object.name := by
  obtain ⟨stillUnique, old, found, isUpdated, becomes, others⟩ := Client.update_ok unique ran
  obtain rfl : old = vg := (current old found).symm
  have named : updated.name = object.name := by
    rw [isUpdated]
    exact ApiServer.nameOf_getD_stored old object
  refine ⟨⟨stillUnique, others, ?_⟩, ?_, named⟩
  · intro uid node isNode
    have controlled : object.metadata.isControlledBy uid =
        (old : LVMVolumeGroup).metadata.isControlledBy uid := by
      rw [ObjectMeta.isControlledBy, owners, ObjectMeta.isControlledBy]
    rw [Awaits, Awaits]
    constructor
    · rintro ⟨new, isNew, isControlled, there⟩
      obtain rfl := ApiServer.eq_of_stored (becomes.symm.trans isNew)
      exact ⟨old, found, controlled.symm.trans isControlled, (finalizers node isNode).mp there⟩
    · rintro ⟨vg, isVG, isControlled, there⟩
      obtain rfl := Option.some.inj (found.symm.trans isVG)
      have kept := (finalizers node isNode).mpr there
      obtain ⟨new, isNew⟩ : ∃ new, ApiServer.stored .volumeGroup old object = some new :=
        ApiServer.exists_stored_of_finalizers old (List.ne_nil_of_mem kept)
      obtain rfl := ApiServer.eq_of_stored isNew
      exact ⟨_, becomes.trans isNew, controlled.trans isControlled, kept⟩
  · intro stored isStored
    rw [named] at isStored
    rw [isUpdated, becomes.symm.trans isStored]
    rfl

/-- The loop over the finalizers of a volume group. -/
theorem removeStaleFinalizers_releases
    {array : List String}
    {positions : List Nat}
    (unique : world.api.Unique .volumeGroup)
    (current : IsCurrent world vg)
    (ran : Exec (environment host) (removeStaleFinalizers nodes vg array positions).run
      world events result after) :
    ReleasesStale nodes vg.name world after := by
  induction positions generalizing vg array world events with
  | nil =>
      obtain ⟨-, -, rfl⟩ := Exec.run_pure_iff.mp ran
      exact .refl unique
  | cons position rest inductionHypothesis =>
      rw [removeStaleFinalizers] at ran
      dsimp only at ran
      generalize array.getD position "" = finalizer at ran
      split at ran
      · exact inductionHypothesis unique current ran
      · rename_i isStale
        rcases Exec.run_bind_iff.mp ran with
          ⟨error, rfl, failed⟩ | ⟨updated, first, between, second, head, tail, rfl⟩
        · obtain ⟨inner, isInner, updating⟩ := Exec.run_mapError_iff.mp failed
          obtain ⟨-, -, -, -, ⟨_, -, rfl⟩ | ⟨_, -, -, rfl, -⟩⟩ :=
            Client.update_cases updating
          · exact .refl unique
          · cases isInner
        · have finalizers : ∀ node ∈ nodes, getFinalizer node ∈
              (vg.metadata.removeFinalizer finalizer).1.finalizers ↔
                getFinalizer node ∈ vg.metadata.finalizers := by
            intro node isNode
            have fresh : getFinalizer node ≠ finalizer := by
              rintro rfl
              rw [getFinalizer, stringsTrimPrefix_append] at isStale
              simp [isNode] at isStale
            simp [ObjectMeta.removeFinalizer, fresh]
          obtain ⟨released, stillCurrent, named⟩ := releasesStale_update
            (Exec.run_mapError_ok_iff.mp head) unique current rfl finalizers
          have later := inductionHypothesis released.unique stillCurrent tail
          rw [named] at later
          exact released.trans later

theorem ReleasesStale.awaits_iff
    (released : ReleasesStale nodes name world after)
    (other : String)
    (isNode : node ∈ nodes) :
    Awaits after uid other node ↔ Awaits world uid other node := by
  by_cases same : other = name
  · rw [same]
    exact released.awaits uid node isNode
  · rw [Awaits, Awaits, released.others other same]

/-- The loop over the volume groups. -/
theorem releaseStale_awaits_iff
    {vgs : List LVMVolumeGroup}
    (unique : world.api.Unique .volumeGroup)
    (distinct : (vgs.map (·.name)).Nodup)
    (current : ∀ vg ∈ vgs, IsCurrent world vg)
    (ran : Exec (environment host)
      (forM vgs fun vg => removeStaleFinalizers nodes vg vg.metadata.finalizers
        (List.range vg.metadata.finalizers.length)).run world events result after)
    (isNode : node ∈ nodes) :
    Awaits after uid name node ↔ Awaits world uid name node := by
  induction vgs generalizing world events with
  | nil =>
      obtain ⟨-, -, rfl⟩ := Exec.run_pure_iff.mp ran
      rfl
  | cons vg rest inductionHypothesis =>
      rw [List.map_cons, List.nodup_cons] at distinct
      obtain ⟨isCurrent, currentRest⟩ := List.forall_mem_cons.mp current
      rw [List.forM_cons] at ran
      rcases Exec.run_bind_iff.mp ran with
        ⟨error, rfl, failed⟩ | ⟨_, first, between, second, head, tail, rfl⟩
      · exact (removeStaleFinalizers_releases unique isCurrent failed).awaits_iff name isNode
      · have released := removeStaleFinalizers_releases unique isCurrent head
        have stillCurrent : ∀ later ∈ rest, IsCurrent between later := by
          intro later member stored isStored
          have different : later.name ≠ vg.name := fun same =>
            distinct.1 (same ▸ List.mem_map_of_mem member)
          rw [released.others _ different] at isStored
          exact currentRest later member stored isStored
        exact (inductionHypothesis released.unique distinct.2 stillCurrent tail).trans
          (released.awaits_iff name isNode)

/-- The finalizers of the nodes that exist stay. -/
theorem checkStaleNodeFinalizers_awaits_iff
    (unique : world.api.Unique .volumeGroup)
    (ran : Exec (environment host) (checkStaleNodeFinalizers nodes).run world events result
      after)
    (isNode : node ∈ nodes) :
    Awaits after uid name node ↔ Awaits world uid name node := by
  obtain ⟨listed, first, between, second, head, tail, rfl⟩ := Exec.run_attempt_bind_iff.mp ran
  obtain ⟨rfl, -⟩ := Client.list_cases head
  cases listed with
  | error err =>
      dsimp only at tail
      split at tail
      · obtain ⟨-, -, rfl⟩ := Exec.run_throw_iff.mp tail
        rfl
      · obtain ⟨-, -, rfl⟩ := Exec.run_pure_iff.mp tail
        rfl
  | ok vgs =>
      obtain rfl := (Client.list_ok head).1
      refine releaseStale_awaits_iff unique unique (fun vg member stored found => ?_) tail
        isNode
      exact Option.some.inj ((unique.find?_of_mem member).symm.trans found)

/-! ## The volume groups of the cluster -/

theorem deleteVolumeGroupObject_false
    (ran : Exec (environment host) (deleteVolumeGroupObject vg).run world events (.ok false)
      after) :
    after = world ∧ world.api.find? .volumeGroup vg.name = none := by
  obtain ⟨answer, first, between, second, head, tail, rfl⟩ := Exec.run_bind_ok_iff.mp ran
  obtain ⟨rfl, -, -, -, -, outcome⟩ := Client.get_cases (Exec.run_attempt_ok_iff.mp head)
  rcases outcome with ⟨error, rfl, other⟩ | ⟨rfl, missing⟩ | ⟨existing, rfl, -⟩
  · simp only [other, Bool.false_eq_true, if_false] at tail
    exact absurd tail Exec.run_throw_not_ok
  · have isMissing : (ApiServer.missing vg.name).isNotFound = true := rfl
    simp only [isMissing, if_true] at tail
    obtain ⟨-, -, rfl⟩ := Exec.run_pure_iff.mp tail
    exact ⟨rfl, missing⟩
  · dsimp only at tail
    split at tail
    · obtain ⟨_, _, _, _, -, ending, -⟩ := Exec.run_bind_ok_iff.mp tail
      simp at ending
    · simp at tail

/-- When no volume group is left to wait for, none is there and nothing was done. -/
theorem volumeGroupsPendingDelete_nil
    {ns : String}
    {vgs : List LVMVolumeGroup}
    (ran : Exec (environment host) (volumeGroupsPendingDelete ns vgs).run world events
      (.ok []) after) :
    after = world ∧ ∀ vg ∈ vgs, world.api.find? .volumeGroup vg.name = none := by
  induction vgs generalizing world events with
  | nil =>
      obtain ⟨-, -, rfl⟩ := Exec.run_pure_iff.mp ran
      exact ⟨rfl, by simp⟩
  | cons vg rest inductionHypothesis =>
      obtain ⟨pending, _, _, _, head, tail, -⟩ := Exec.run_bind_ok_iff.mp ran
      obtain ⟨others, _, _, _, later, ending, -⟩ := Exec.run_bind_ok_iff.mp tail
      obtain ⟨-, isNil, rfl⟩ := Exec.run_pure_iff.mp ending
      cases pending with
      | true => cases isNil
      | false =>
          obtain rfl : [] = others := by simpa using isNil
          obtain ⟨rfl, missing⟩ := deleteVolumeGroupObject_false head
          obtain ⟨rfl, allMissing⟩ := inductionHypothesis later
          exact ⟨rfl, List.forall_mem_cons.mpr ⟨missing, allMissing⟩⟩

/-- When the volume groups have been removed, those of the device classes are gone. -/
theorem lvmVGs_ensureDeleted_ok
    {r : Operator}
    {cluster : LVMCluster}
    (ran : Exec (environment host) (r.lvmVGs.ensureDeleted cluster).run world events
      (.ok ()) after) :
    after = world ∧ ∀ deviceClass ∈ cluster.spec.deviceClasses,
      world.api.find? .volumeGroup deviceClass.name = none := by
  obtain ⟨pending, first, between, second, head, tail, rfl⟩ := Exec.run_bind_ok_iff.mp ran
  split at tail
  · exact absurd tail Exec.run_throw_not_ok
  · rename_i isEmpty
    obtain rfl : pending = [] := by simpa using isEmpty
    obtain ⟨-, -, rfl⟩ := Exec.run_pure_iff.mp tail
    obtain ⟨rfl, allMissing⟩ := volumeGroupsPendingDelete_nil head
    refine ⟨rfl, fun deviceClass member => ?_⟩
    exact allMissing _ (List.mem_map_of_mem member)

/-! ## The daemon set -/

variable {r : Operator} {cluster : LVMCluster}

/-- The managers after that of the volume groups touch neither nodes nor volume groups. -/
theorem afterVolumeGroups_uses
    {manager : Manager}
    (member : manager ∈ r.vgManager :: r.lvmVGNodeStatus :: r.resourcesAfterStatuses) :
    (deleteResource cluster manager).run.Uses (Within (.delete .daemonSet ::
      .delete .nodeStatus :: .update .nodeStatus :: classEffects)) := by
  rw [List.mem_cons, List.mem_cons] at member
  rcases member with rfl | rfl | late
  · exact deleteResource_uses_of (within (vgManager_ensureDeleted_uses ..) (by decide))
      (by decide)
  · exact deleteResource_uses_of (within (lvmVGNodeStatus_ensureDeleted_uses ..) (by decide))
      (by decide)
  · exact within (afterStatuses_uses late) (by decide)

/-- The daemon set is only deleted when the volume groups of the device classes are gone,
and nothing has happened to the other ones. -/
theorem processDelete_daemonSet
    {event : Event sig World}
    (ran : Exec (environment host) (r.processDelete cluster).run world events result after)
    (member : event ∈ events)
    (deletes : event.request.effect = .delete .daemonSet) :
    (∀ kind ∈ [Kind.volumeGroup, .node],
      event.before.api.objects kind = world.api.objects kind) ∧
    ∀ deviceClass ∈ cluster.spec.deviceClasses,
      world.api.find? .volumeGroup deviceClass.name = none := by
  obtain ⟨_, _, _, removes, inside⟩ :=
    processDelete_removes ran member (by rw [deletes]; decide)
  rw [resourceDeletionList, List.cons_append, List.cons_append, List.nil_append,
    List.forM_cons] at removes
  have outside : ¬Within [.read, .report, .delete .volumeGroup] event.request := by
    rw [Within, deletes]
    decide
  obtain ⟨_, _, between, rest, head, tail, -, late⟩ :=
    (deleteResource_uses_of (within (r.lvmVGs_ensureDeleted_uses cluster) (by decide))
      (by decide)).run_bind_reached removes inside outside
  obtain ⟨rfl, gone⟩ := lvmVGs_ensureDeleted_ok (deleteResource_ok head)
  refine ⟨fun kind isKind => ?_, gone⟩
  refine Exec.objects_throughout tail (.run_forM fun _ => afterVolumeGroups_uses) ?_ event late
  revert kind
  decide

end Operator

/-! ## The cleanup of the nodes -/

/-- The names of the nodes that exist. -/
def nodeNames (world : World) : List String :=
  (world.api.objects .node).map (·.metadata.name)

/-- No volume group that the cluster controls has the cleanup finalizer of an existing
node. -/
def AllCleanedUp (cluster : LVMCluster) (world : World) : Prop :=
  ∀ vg ∈ world.api.objects .volumeGroup,
    vg.metadata.isControlledBy cluster.metadata.uid = true →
    ∀ node ∈ nodeNames world, getFinalizer node ∉ vg.metadata.finalizers

instance (cluster : LVMCluster) (world : World) : Decidable (AllCleanedUp cluster world) :=
  inferInstanceAs (Decidable (∀ vg ∈ world.api.objects .volumeGroup, _ →
    ∀ node ∈ nodeNames world, _))

/-- The same for the volume groups that belong to none of its device classes. -/
def OrphansCleanedUp (cluster : LVMCluster) (world : World) : Prop :=
  ∀ vg ∈ world.api.objects .volumeGroup, Operator.isOrphan cluster vg = true →
    ∀ node ∈ nodeNames world, getFinalizer node ∉ vg.metadata.finalizers

section CleanedUp

variable {cluster : LVMCluster} {world after : World}

theorem allCleanedUp_iff
    (unique : world.api.Unique .volumeGroup) :
    AllCleanedUp cluster world ↔ ∀ name, ∀ node ∈ nodeNames world,
      ¬Awaits world cluster.metadata.uid name node := by
  constructor
  · rintro cleaned name node isNode ⟨vg, found, controlled, there⟩
    exact cleaned vg (List.mem_of_find?_eq_some found) controlled node isNode there
  · intro none vg member controlled node isNode there
    exact none vg.name node isNode ⟨vg, unique.find?_of_mem member, controlled, there⟩

theorem orphansCleanedUp_iff
    (unique : world.api.Unique .volumeGroup) :
    OrphansCleanedUp cluster world ↔
      ∀ name, (∀ deviceClass ∈ cluster.spec.deviceClasses, deviceClass.name ≠ name) →
        ∀ node ∈ nodeNames world, ¬Awaits world cluster.metadata.uid name node := by
  have orphan (vg : LVMVolumeGroup) : Operator.isOrphan cluster vg = true ↔
      vg.metadata.isControlledBy cluster.metadata.uid = true ∧
        ∀ deviceClass ∈ cluster.spec.deviceClasses, deviceClass.name ≠ vg.name := by
    simp [Operator.isOrphan]
  constructor
  · rintro cleaned name undeclared node isNode ⟨vg, found, controlled, there⟩
    have named : vg.name = name := ApiServer.nameOf_of_find? found
    rw [← named] at undeclared
    exact cleaned vg (List.mem_of_find?_eq_some found)
      ((orphan vg).mpr ⟨controlled, undeclared⟩) node isNode there
  · intro none vg member isOrphan node isNode there
    obtain ⟨controlled, undeclared⟩ := (orphan vg).mp isOrphan
    exact none vg.name undeclared node isNode
      ⟨vg, unique.find?_of_mem member, controlled, there⟩

theorem awaits_congr
    {uid name node : String}
    (same : after.api.objects .volumeGroup = world.api.objects .volumeGroup) :
    Awaits after uid name node ↔ Awaits world uid name node := by
  rw [Awaits, Awaits, ApiServer.find?, ApiServer.find?, same]

/-- When a reconciliation deletes the daemon set, every node has cleaned up all volume
groups if and only if before it every node had cleaned up those of removed device
classes. -/
theorem Operator.reconcileRequest_allCleanedUp_iff
    {r : Operator}
    {host name : String}
    {events : List (Event sig World)}
    {result : Except GoError Result}
    {event : Event sig World}
    (unique : world.api.Unique .volumeGroup)
    (ran : Exec (environment host) (r.reconcileRequest name).run world events result after)
    (member : event ∈ events)
    (deletes : event.request.effect = .delete .daemonSet) :
    ∃ cluster, world.api.find? .lvmCluster name = some cluster ∧
      (AllCleanedUp cluster event.before ↔ OrphansCleanedUp cluster world) := by
  obtain ⟨first, rest, rfl, reads, stopsOr⟩ := reconcileRequest_cases ran
  rcases List.mem_append.mp member with early | late
  · have reading := reads event early
    simp [deletes] at reading
  rcases stopsOr with ⟨rfl, -⟩ | reconciled
  · cases late
  cases reconciled with
  | live found single unmarked ran =>
      have live := reconcile_uses.events_allowed ran event late
      rw [Within, deletes] at live
      exact absurd live (by decide)
  | @deleted _ cluster _ _ _ found single marked ran =>
      refine ⟨cluster, found, ?_⟩
      obtain ⟨middle, during, ended, ⟨framed, -, released⟩, processing, inside⟩ :=
        reconcileDeleted_reached ran late (by rw [deletes]; decide)
      obtain ⟨_, between, releases, kept⟩ := released
      obtain ⟨same, gone⟩ := processDelete_daemonSet processing inside deletes
      have volumeGroups := same .volumeGroup (by decide)
      have nodes : nodeNames event.before = nodeNames world := by
        rw [nodeNames, same .node (by decide), framed.objects .node (by decide), nodeNames]
      have stillUnique : event.before.api.Unique .volumeGroup := by
        rw [ApiServer.Unique, volumeGroups, kept]
        exact Exec.unique releases unique
      rw [allCleanedUp_iff stillUnique, orphansCleanedUp_iff unique, nodes]
      have awaits {name node : String} (isNode : node ∈ nodeNames world) :
          Awaits event.before cluster.metadata.uid name node ↔
            Awaits world cluster.metadata.uid name node :=
        (awaits_congr (volumeGroups.trans kept)).trans
          (checkStaleNodeFinalizers_awaits_iff unique releases isNode)
      constructor
      · intro cleaned name _ node isNode isAwaited
        exact cleaned name node isNode ((awaits isNode).mpr isAwaited)
      · intro cleaned name node isNode isAwaited
        by_cases declared : ∃ deviceClass ∈ cluster.spec.deviceClasses,
            deviceClass.name = name
        · obtain ⟨deviceClass, isClass, rfl⟩ := declared
          obtain ⟨vg, isVG, -⟩ := (awaits_congr volumeGroups).mp isAwaited
          cases (gone deviceClass isClass).symm.trans isVG
        · refine cleaned name (fun deviceClass isClass same => ?_) node isNode
            ((awaits isNode).mp isAwaited)
          exact declared ⟨deviceClass, isClass, same⟩

end CleanedUp

/-! ## Every history -/

/-- After any history of specs and reconciliations: when the operator deletes the daemon
set, every node has cleaned up the volume groups of the cluster if and only if every node
had cleaned up those of removed device classes before that reconciliation. -/
theorem allCleanedUp_iff_orphansCleanedUp
    {system : System}
    {start world after : World}
    {past occurrences : List Occurrence}
    {name : String}
    {event : Event sig World}
    (unique : start.api.Unique .volumeGroup)
    (run : system.Run (fun _ _ => True) start past world)
    (step : system.Step world (.operator name) occurrences after)
    (member : .call .operator event ∈ occurrences)
    (deletes : event.request.effect = .delete .daemonSet) :
    ∃ cluster, world.api.find? .lvmCluster name = some cluster ∧
      (AllCleanedUp cluster event.before ↔ OrphansCleanedUp cluster world) := by
  have reached : world.api.Unique .volumeGroup :=
    run.invariant (fun world => world.api.Unique .volumeGroup) unique
      fun _ _ _ unique ⟨_, _, step⟩ => step.unique (by decide) unique
  cases step with
  | operator ran =>
      obtain ⟨found, isFound, same⟩ := List.mem_map.mp member
      obtain rfl : found = event := by injection same
      exact Operator.reconcileRequest_allCleanedUp_iff reached ran isFound deletes

/-! ### A device class that was removed -/

/-- A user removes one of two device classes, the node cleans it up or not, and the user
deletes the cluster. -/
def removedClass (cleanups : Nat) : List Action :=
  [.create { name := "cluster", inNamespace := "storage" } { deviceClasses :=
      [thickClass "vg1" "/dev/sda" true, thickClass "vg2" "/dev/sdb" false] },
    .operator "cluster",
    .vgManager "node" "vg2",
    .update "cluster" { deviceClasses := [thickClass "vg1" "/dev/sda" true] },
    .operator "cluster"] ++
  List.replicate cleanups (.vgManager "node" "vg2") ++
  [.delete "cluster",
    .operator "cluster"]

/-- The run of these actions. -/
def removedClassRun (cleanups : Nat) : List Occurrence × World :=
  System.plain.performAll withoutFailures oneNodeWorld (removedClass cleanups)

/-- The reconciliation after it. -/
def removedClassEnd (cleanups : Nat) : List Occurrence × World :=
  System.plain.perform withoutFailures (removedClassRun cleanups).2 (.operator "cluster")

/-- The node has cleaned up before the daemon set is deleted. -/
theorem allCleanedUp_iff_orphansCleanedUp_vg2 :
    ∃ event, .call .operator event ∈ (removedClassEnd 1).1 ∧
      ∃ cluster, (removedClassRun 1).2.api.find? .lvmCluster "cluster" = some cluster ∧
        (AllCleanedUp cluster event.before ↔ OrphansCleanedUp cluster (removedClassRun 1).2) := by
  obtain ⟨event, member, deletes⟩ := exists_call_of_any (removedClassEnd 1).1
    (fun event => event.request.effect == .delete .daemonSet) (by decide +kernel)
  exact ⟨event, member, allCleanedUp_iff_orphansCleanedUp (by decide)
    (System.performAll_run (by decide +kernel)) (System.perform_step trivial) member
    (by simpa using deletes)⟩

/-- The daemon set is deleted while the node still has to clean up the volume group of the
removed device class. -/
theorem daemonSet_deleted_early :
    ¬∀ (system : System) (start world after : World) (past occurrences : List Occurrence)
      (name : String) (event : Event sig World) (cluster : LVMCluster),
      (∀ kind ∈ managedKinds, start.api.objects kind = []) →
      system.Run (fun _ _ => True) start past world →
      system.Step world (.operator name) occurrences after →
      .call .operator event ∈ occurrences →
      event.request.effect = .delete .daemonSet →
      world.api.find? .lvmCluster name = some cluster → AllCleanedUp cluster event.before := by
  intro always
  obtain ⟨event, member, holds⟩ := exists_call_of_any (removedClassEnd 0).1
    (fun event => event.request.effect == .delete .daemonSet &&
      ((removedClassRun 0).2.api.find? .lvmCluster "cluster").any fun cluster =>
        !decide (AllCleanedUp cluster event.before)) (by decide +kernel)
  rw [Bool.and_eq_true, beq_iff_eq, Option.any_eq_true_iff_get] at holds
  obtain ⟨deletes, there, waits⟩ := holds
  rw [Bool.not_eq_true', decide_eq_false_iff_not] at waits
  exact waits (always System.plain oneNodeWorld _ _ _ _ "cluster" event _ (by decide)
    (System.performAll_run (by decide +kernel)) (System.perform_step trivial) member deletes
    (Option.some_get there).symm)

end Lvms
