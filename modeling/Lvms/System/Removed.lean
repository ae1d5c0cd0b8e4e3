import Lvms.System.Teardown

/-!
# What is left when the cluster is let go

The finalizer keeps a deleted cluster until its resources have been removed. Without a
creation an object that is gone stays gone and one that is being deleted stays so, so what
each manager has removed is still removed when the finalizer is.
-/

namespace Lvms

open Interaction Interaction.Program

/-! ## Objects without a creation -/

/-- A call of the class can add objects of a kind. -/
def Effect.creates (kind : Kind) : Effect → Bool
  | .create other => other == kind
  | .applyStorageClass => kind == .storageClass
  | _ => false

/-- The object comes from one of the same name, which was marked at most as it is. -/
def ComesFrom (kind : Kind) (object old : kind.Object) : Prop :=
  kind.nameOf old = kind.nameOf object ∧
    ((kind.metadata old).deletionTimestamp.isSome →
      (kind.metadata object).deletionTimestamp.isSome)

/-- No object with a name is left. -/
def Absent (world : World) (kind : Kind) (name : String) : Prop :=
  ∀ object ∈ world.api.objects kind, kind.nameOf object ≠ name

/-- All objects with a name are being deleted. -/
def Leaving (world : World) (kind : Kind) (name : String) : Prop :=
  ∀ object ∈ world.api.objects kind, kind.nameOf object = name →
    (kind.metadata object).deletionTimestamp.isSome

variable {kind : Kind} {node name : String} {world after : World}
variable {events : List (Event sig World)}

/-- What is absent is not found. -/
theorem absent_iff : Absent world kind name ↔ world.api.find? kind name = none := by
  simp [Absent, ApiServer.find?]

/-- What is absent has left. -/
theorem Absent.leaving (absent : Absent world kind name) : Leaving world kind name :=
  fun object member named => absurd named (absent object member)

/-- What a deletion leaves is marked. -/
theorem ApiServer.marked_of_deleted
    {now : Nat}
    {old object : kind.Object}
    (becomes : deleted kind now old = some object) :
    (kind.metadata object).deletionTimestamp.isSome := by
  simp only [deleted] at becomes
  split at becomes
  · cases becomes
  · split at becomes
    · rename_i marked
      rwa [← Option.some.inj becomes]
    · rw [← Option.some.inj becomes, Kind.metadata_withMetadata]
      rfl

theorem ApiServer.marked_of_stored
    {old new object : kind.Object}
    (becomes : stored kind old new = some object) :
    (kind.metadata object).deletionTimestamp = (kind.metadata old).deletionTimestamp := by
  rw [eq_of_stored becomes, Kind.metadata_withMetadata]

/-- A request that creates nothing of a kind leaves objects that were there. -/
theorem ApiServer.comesFrom_of_respond
    {server : ApiServer}
    {choice : Choice}
    {request : ApiRequest}
    (createsNone : request.effect.creates kind = false)
    {object : kind.Object}
    (member : object ∈ (server.respond choice request).2.objects kind) :
    ∃ old ∈ server.objects kind, ComesFrom kind object old := by
  cases arises member with
  | kept isOld => exact ⟨object, isOld, rfl, id⟩
  | created missing => simp [ApiRequest.effect, Effect.creates] at createsNone
  | @updated _ new old _ isOld named becomes =>
      exact ⟨old, isOld, named.trans (nameOf_of_stored becomes).symm,
        fun marked => by rwa [marked_of_stored becomes]⟩
  | @marked _ _ old _ isOld named becomes =>
      exact ⟨old, isOld, (nameOf_of_deleted becomes).symm,
        fun _ => marked_of_deleted becomes⟩
  | applied missing => simp [ApiRequest.effect, Effect.creates] at createsNone
  | relabelled isOld named => simp [ApiRequest.effect, Effect.creates] at createsNone
  | @reported _ old isOld named => exact ⟨old, isOld, rfl, id⟩

/-- The objects after an execution without creations were there before it. -/
theorem Exec.comesFrom
    {α : Type}
    {effects : List Effect}
    {program : Program sig α}
    {value : α}
    (ran : Exec (environment node) program world events value after)
    (uses : program.Uses (Within effects))
    (createsNone : ∀ effect ∈ effects, effect.creates kind = false) :
    ∀ object ∈ after.api.objects kind,
      ∃ old ∈ world.api.objects kind, ComesFrom kind object old := by
  induction ran with
  | done value world => exact fun object member => ⟨object, member, rfl, id⟩
  | @call request resume world last events value choice rest inductionHypothesis =>
      intro object member
      obtain ⟨middle, isMiddle, sameName, staysMarked⟩ :=
        inductionHypothesis (uses.2 _) object member
      have isFirst : ∃ old ∈ world.api.objects kind, ComesFrom kind middle old := by
        cases request with
        | api request =>
            exact ApiServer.comesFrom_of_respond (createsNone _ uses.1) isMiddle
        | otherManager =>
            refine ⟨middle, ?_, rfl, id⟩
            simp only [environment, World.respond] at isMiddle
            split at isMiddle <;> exact isMiddle
        | query | command | newResolver | loadResolved | storeResolved | cachedConfig
        | cacheConfig | mapOrder | now | event | raidMetrics | dropRAIDMetrics | turn =>
            exact ⟨middle, isMiddle, rfl, id⟩
      obtain ⟨old, isOld, named, marked⟩ := isFirst
      exact ⟨old, isOld, named.trans sameName, fun isMarked => staysMarked (marked isMarked)⟩

/-- What is absent stays so when nothing is created. -/
theorem Absent.later
    (absent : Absent world kind name)
    (origin : ∀ object ∈ after.api.objects kind,
      ∃ old ∈ world.api.objects kind, ComesFrom kind object old) :
    Absent after kind name := by
  intro object member named
  obtain ⟨old, isOld, sameName, -⟩ := origin object member
  exact absent old isOld (sameName.trans named)

/-- What leaves does not come back when nothing is created. -/
theorem Leaving.later
    (leaving : Leaving world kind name)
    (origin : ∀ object ∈ after.api.objects kind,
      ∃ old ∈ world.api.objects kind, ComesFrom kind object old) :
    Leaving after kind name := by
  intro object member named
  obtain ⟨old, isOld, sameName, marked⟩ := origin object member
  exact marked (leaving old isOld (sameName.trans named))

/-! ## What each manager removes -/

/-- A deletion that succeeds leaves nothing that is not being deleted. -/
theorem Client.delete_leaving
    (ran : Exec (environment node) (delete kind name).run world events (.ok ()) after) :
    Leaving after kind name := by
  obtain ⟨-, -, -, -, ⟨_, isError, -⟩ | ⟨_, time, -, -, rfl⟩⟩ := delete_cases ran
  · cases isError
  intro object member named
  rcases ApiServer.mem_alter_iff.mp member with ⟨-, other⟩ | ⟨old, -, -, becomes⟩
  · exact absurd named other
  · exact ApiServer.marked_of_deleted becomes

/-- A class whose deletion succeeds is gone or being deleted. -/
theorem deleteClass_leaving
    {kindName errorName : String}
    (ran : Exec (environment node) (deleteClass kind kindName errorName name).run world
      events (.ok ()) after) :
    Leaving after kind name := by
  obtain ⟨answer, _, _, _, gets, rest, -⟩ := Exec.run_attempt_bind_iff.mp ran
  obtain ⟨rfl, -, -, -, -, found⟩ := Client.get_cases gets
  rcases found with ⟨error, rfl, other⟩ | ⟨rfl, missing⟩ | ⟨existing, rfl, -⟩
  · simp only [other, Bool.false_eq_true, if_false] at rest
    exact absurd rest Exec.run_throw_not_ok
  · have isMissing : (ApiServer.missing name).isNotFound = true := rfl
    simp only [isMissing, if_true] at rest
    obtain ⟨-, -, rfl⟩ := Exec.run_pure_iff.mp rest
    exact (absent_iff.mpr missing).leaving
  · dsimp only at rest
    split at rest
    · exact absurd rest Exec.run_throw_not_ok
    · exact Client.delete_leaving (Exec.run_mapError_ok_iff.mp rest)

/-- A loop of steps that each establish a fact, which the other steps keep, establishes all
of them. -/
theorem Exec.forM_establishes
    {α : Type}
    {elements : List α}
    {body : α → Go PUnit}
    (holds : α → World → Prop)
    (run : Exec (environment node) (forM elements body).run world events (.ok ⟨⟩) after)
    (establishes : ∀ element ∈ elements, ∀ world events after,
      Exec (environment node) (body element).run world events (.ok ⟨⟩) after →
      holds element after)
    (keeps : ∀ element ∈ elements, ∀ other world events after,
      Exec (environment node) (body element).run world events (.ok ⟨⟩) after →
      holds other world → holds other after) :
    (∀ other, holds other world → holds other after) ∧
      ∀ element ∈ elements, holds element after := by
  induction elements generalizing world events with
  | nil =>
      obtain ⟨-, -, rfl⟩ := Exec.run_pure_iff.mp run
      simp
  | cons element rest inductionHypothesis =>
      rw [List.forM_cons] at run
      obtain ⟨_, first, between, second, head, tail, -⟩ := Exec.run_bind_ok_iff.mp run
      obtain ⟨headKeeps, restKeep⟩ := List.forall_mem_cons.mp keeps
      obtain ⟨headHolds, restHold⟩ := List.forall_mem_cons.mp establishes
      obtain ⟨kept, all⟩ := inductionHypothesis tail restHold restKeep
      refine ⟨fun other before => kept other (headKeeps other world first between head before),
        List.forall_mem_cons.mpr ⟨kept element (headHolds world first between head), all⟩⟩

/-- A status that is not marked when its deletion succeeds is gone or being deleted. -/
theorem deleteNodeStatus_leaving
    {status : LVMVolumeGroupNodeStatus}
    (unmarked : status.metadata.deletionTimestamp.isNone)
    (ran : Exec (environment node) (deleteNodeStatus status).run world events (.ok ())
      after) :
    Leaving after .nodeStatus status.metadata.name := by
  unfold deleteNodeStatus at ran
  simp only [unmarked, if_true] at ran
  obtain ⟨_, _, middle, _, deleting, releasing, -⟩ := Exec.run_bind_ok_iff.mp ran
  have leaving := Client.delete_leaving (Exec.run_mapError_ok_iff.mp deleting)
  rcases releaseNodeStatus_ok releasing with ⟨-, rfl⟩ | ⟨released, _, isReleased, -, -, rfl⟩
  · exact leaving
  · obtain ⟨-, rfl⟩ := removeDeleteProtectionFinalizer_eq_some isReleased
    intro object member named
    rcases ApiServer.mem_alter_iff.mp member with ⟨isOld, other⟩ | ⟨old, isOld, same, becomes⟩
    · exact absurd named other
    · rw [ApiServer.marked_of_stored becomes]
      exact leaving old isOld same

namespace Operator

variable {r : Operator} {cluster : LVMCluster}

/-- The classes of a cluster that were removed are gone or being deleted. -/
theorem deleteClasses_leaving
    {deviceClasses : List DeviceClass}
    {kindName errorName : String}
    {className : String → String}
    (ran : Exec (environment node) (forM deviceClasses fun deviceClass =>
      deleteClass kind kindName errorName (className deviceClass.name)).run world events
      (.ok ⟨⟩) after) :
    ∀ deviceClass ∈ deviceClasses, Leaving after kind (className deviceClass.name) := by
  refine (Exec.forM_establishes
    (fun deviceClass world => Leaving world kind (className deviceClass.name)) ran ?_ ?_).2
  · intro deviceClass _ world events after deletes
    exact deleteClass_leaving deletes
  · intro deviceClass _ other world events after deletes leaving
    exact leaving.later (Exec.comesFrom deletes (deleteClass_uses ..) (by simp [Effect.creates]))

/-- The statuses of the valid nodes are gone or being deleted when they were removed. -/
theorem lvmVGNodeStatus_leaving
    (ran : Exec (environment node) (r.lvmVGNodeStatus.ensureDeleted cluster).run world
      events (.ok ()) after) :
    ∀ name, r.IsValid cluster world name → Leaving after .nodeStatus name := by
  intro name isValid
  by_cases marked : Leaving world .nodeStatus name
  · exact marked.later (Exec.comesFrom ran (r.lvmVGNodeStatus_ensureDeleted_uses cluster)
      (by decide))
  -- The status with the name is not marked, so the loop deletes it.
  obtain ⟨during, looping⟩ := lvmVGNodeStatus_ensureDeleted_loop ran
  simp only [Leaving, not_forall] at marked
  obtain ⟨status, member, named, unmarked⟩ := marked
  obtain rfl : status.metadata.name = name := named
  have isUnmarked : status.metadata.deletionTimestamp.isNone :=
    Option.not_isSome_iff_eq_none.mp unmarked ▸ rfl
  refine (Exec.forM_establishes (fun (status : LVMVolumeGroupNodeStatus) world =>
    status.metadata.deletionTimestamp.isNone →
      Leaving world .nodeStatus status.metadata.name) looping ?_ ?_).2 status
      (List.mem_filter.mpr ⟨member, by simpa using isValid⟩) isUnmarked
  · intro status _ world events after deletes unmarked
    exact deleteNodeStatus_leaving unmarked deletes
  · intro status _ other world events after deletes leaving unmarked
    exact (leaving unmarked).later
      (Exec.comesFrom deletes (deleteNodeStatus_uses status) (by decide))

/-- When the vg-manager was removed, neither its daemon set nor its pods are left. -/
theorem vgManager_absent
    (ran : Exec (environment node) (r.vgManager.ensureDeleted cluster).run world events
      (.ok ()) after) :
    Absent after .daemonSet (r.templateVGManagerDaemonset cluster).metadata.name ∧
      podsWithLabels (r.templateVGManagerDaemonset cluster).matchLabels
        (after.api.objects .pod) = [] := by
  obtain ⟨_, _, deleted, _, -, verifies, -⟩ := Exec.run_bind_ok_iff.mp ran
  obtain ⟨_, _, verified, _, verify, listsPods, -⟩ := Exec.run_bind_ok_iff.mp verifies
  obtain ⟨pods, _, listed, _, lists, counts, -⟩ := Exec.run_bind_ok_iff.mp listsPods
  obtain ⟨rfl, rfl⟩ := Client.list_ok (Exec.run_mapError_ok_iff.mp lists)
  dsimp only at counts
  split at counts
  · exact absurd counts Exec.run_throw_not_ok
  rename_i noneRunning
  obtain ⟨-, -, rfl⟩ := Exec.run_pure_iff.mp counts
  refine ⟨?_, by simpa using noneRunning⟩
  obtain ⟨answer, _, _, _, gets, rest, -⟩ := Exec.run_attempt_bind_iff.mp verify
  obtain ⟨rfl, -, -, -, -, found⟩ := Client.get_cases gets
  rcases found with ⟨error, rfl, other⟩ | ⟨rfl, missing⟩ | ⟨existing, rfl, -⟩
  · simp only [other, Bool.not_false, if_true] at rest
    exact absurd rest Exec.run_throw_not_ok
  · have isMissing :
        (ApiServer.missing (r.templateVGManagerDaemonset cluster).metadata.name).isNotFound =
          true := rfl
    simp only [isMissing, Bool.not_true, Bool.false_eq_true, if_false] at rest
    obtain ⟨-, -, rfl⟩ := Exec.run_pure_iff.mp rest
    exact absent_iff.mpr missing
  · exact absurd rest Exec.run_throw_not_ok

/-! ## The finalizer of the cluster -/

/-- What the operator has created for the device classes in the spec of a cluster is gone, or
is being deleted as well: the volume groups and the vg-manager are gone, the statuses and
classes are gone or being deleted, and nobody uses the volumes. What is left of device classes
that were taken out of the spec earlier is not looked at. -/
structure Removed (r : Operator) (cluster : LVMCluster) (world : World) : Prop where
  gates : GatesOpen cluster world
  volumeGroups : ∀ deviceClass ∈ cluster.spec.deviceClasses,
    Absent world .volumeGroup deviceClass.name
  daemonSet : Absent world .daemonSet (r.templateVGManagerDaemonset cluster).metadata.name
  pods : podsWithLabels (r.templateVGManagerDaemonset cluster).matchLabels
    (world.api.objects .pod) = []
  nodeStatuses : ∀ name, r.IsValid cluster world name → Leaving world .nodeStatus name
  storageClasses : ∀ deviceClass ∈ cluster.spec.deviceClasses,
    Leaving world .storageClass (getStorageClassName deviceClass.name)
  snapshotClasses : r.snapshotsEnabled = true →
    ∀ deviceClass ∈ cluster.spec.deviceClasses,
      Leaving world .volumeSnapshotClass (getVolumeSnapshotClassName deviceClass.name)

/-- When all resources were removed, a manager was run from a world with the objects of the
kinds that no manager touches, and after it nothing was created. -/
theorem deleteResources_reaches
    (manager : Manager)
    (member : manager ∈ r.resourceDeletionList)
    (ran : Exec (environment node)
      (forM r.resourceDeletionList (deleteResource cluster)).run world events (.ok ())
      after) :
    ∃ during before between,
      Exec (environment node) (manager.ensureDeleted cluster).run before during (.ok ())
        between ∧
      Frame (.report :: deletionEffects) world before ∧
      Frame (.report :: deletionEffects) between after ∧
      ∀ kind, ∀ object ∈ after.api.objects kind,
        ∃ old ∈ between.api.objects kind, ComesFrom kind object old := by
  obtain ⟨earlier, later, isList⟩ := List.append_of_mem member
  have uses (managers : List Manager)
      (included : ∀ manager ∈ managers, manager ∈ r.resourceDeletionList) :
      (forM managers (deleteResource cluster)).run.Uses
        (Within (.report :: deletionEffects)) :=
    .run_forM fun manager isManager => deleteResource_uses (included manager isManager)
  rw [isList] at ran
  obtain ⟨_, during, _, before, between, first, own, last, -⟩ := deleteResources_split ran
  have lastUses := uses later (by simp +contextual [isList])
  refine ⟨during, before, between, own,
    Exec.frame first (uses earlier (by simp +contextual [isList])),
    Exec.frame last lastUses, fun kind => Exec.comesFrom last lastUses ?_⟩
  cases kind <;> decide

/-- When all resources of a cluster whose gates are open were removed, those of the device
classes in its spec are. -/
theorem deleteResources_removed
    (gates : GatesOpen cluster world)
    (ran : Exec (environment node)
      (forM r.resourceDeletionList (deleteResource cluster)).run world events (.ok ())
      after) :
    Removed r cluster after := by
  have frame := Exec.frame ran (.run_forM fun _ => deleteResource_uses)
  refine ⟨⟨?_, ?_⟩, ?_, ?_, ?_, ?_, ?_, ?_⟩
  · rw [frame.objects .persistentVolumeClaim (by decide)]
    exact gates.claims
  · rw [frame.objects .persistentVolume (by decide)]
    exact gates.volumes
  · obtain ⟨_, _, _, own, -, -, origin⟩ :=
      deleteResources_reaches r.lvmVGs (by simp [resourceDeletionList]) ran
    obtain ⟨rfl, missing⟩ := lvmVGs_ensureDeleted_ok own
    intro deviceClass member
    exact (absent_iff.mpr (missing deviceClass member)).later (origin _)
  · obtain ⟨_, _, _, own, -, -, origin⟩ :=
      deleteResources_reaches r.vgManager (by simp [resourceDeletionList]) ran
    exact (vgManager_absent own).1.later (origin _)
  · obtain ⟨_, _, _, own, -, later, -⟩ :=
      deleteResources_reaches r.vgManager (by simp [resourceDeletionList]) ran
    rw [later.objects .pod (by decide)]
    exact (vgManager_absent own).2
  · obtain ⟨_, before, _, own, earlier, -, origin⟩ :=
      deleteResources_reaches r.lvmVGNodeStatus (by simp [resourceDeletionList]) ran
    intro name isValid
    refine (lvmVGNodeStatus_leaving own name ?_).later (origin _)
    rwa [IsValid, earlier.objects .node (by decide), ← frame.objects .node (by decide)]
  · obtain ⟨_, _, _, own, -, -, origin⟩ :=
      deleteResources_reaches topoLVMStorageClass
        (by simp [resourceDeletionList, resourcesAfterStatuses]) ran
    intro deviceClass member
    exact (deleteClasses_leaving own deviceClass member).later (origin _)
  · intro enabled
    obtain ⟨_, _, _, own, -, -, origin⟩ :=
      deleteResources_reaches topoLVMVolumeSnapshotClass
        (by simp [resourceDeletionList, resourcesAfterStatuses, enabled]) ran
    intro deviceClass member
    exact (deleteClasses_leaving own deviceClass member).later (origin _)

/-- The cluster as it is let go. -/
def released (cluster : LVMCluster) : LVMCluster :=
  { cluster with metadata := (cluster.metadata.removeFinalizer lvmClusterFinalizer).1 }

/-- Only the released cluster is written. -/
theorem releaseCluster_writes
    {event : Event sig World}
    {result : Except GoError Unit}
    (ran : Exec (environment node) (releaseCluster cluster).run world events result after)
    (member : event ∈ events) :
    event.request = .api (.update .lvmCluster (released cluster)) := by
  dsimp only [releaseCluster] at ran
  split at ran
  · obtain ⟨_, -, mapped⟩ := Exec.run_bind_pure_iff.mp ran
    obtain ⟨_, -, updating⟩ := Exec.run_mapError_iff.mp mapped
    obtain ⟨choice, rfl, -, -⟩ := exec_call_iff.mp updating
    obtain rfl := List.mem_singleton.mp member
    rfl
  · obtain ⟨rfl, -, -⟩ := Exec.run_pure_iff.mp ran
    cases member

/-- The deletion writes the cluster as it was read, without the finalizer. -/
theorem processDelete_writes
    {event : Event sig World}
    {result : Except GoError Unit}
    (ran : Exec (environment node) (r.processDelete cluster).run world events result after)
    (member : event ∈ events)
    (isUpdate : event.request.effect = .update .lvmCluster) :
    event.request = .api (.update .lvmCluster (released cluster)) := by
  rw [processDelete_eq] at ran
  split at ran
  · obtain ⟨_, _, _, _, -, releases, -, inRelease⟩ :=
      (Program.Uses.run_forM fun _ => deleteResource_uses).run_bind_reached ran member
        (by rw [Within, isUpdate]; decide)
    exact releaseCluster_writes releases inRelease
  · exact releaseCluster_writes ran member

/-- Whenever a reconciliation lets a cluster go, the cluster is being deleted and the resources
of the device classes in its spec are removed. -/
theorem reconcileRequest_removed
    {result : Except GoError Result}
    (ran : Exec (environment node) (r.reconcileRequest name).run world events result after) :
    ∀ event ∈ events, takesFinalizer event.request = true →
      ∃ image cluster, world.api.find? .lvmCluster name = some cluster ∧
        cluster.metadata.deletionTimestamp.isSome ∧
        event.request = .api (.update .lvmCluster (released cluster)) ∧
        Removed { r with imageName := image } cluster event.before := by
  intro event member takes
  have updates := effect_of_takesFinalizer takes
  obtain ⟨first, rest, rfl, reads, ends⟩ := reconcileRequest_cases ran
  rcases List.mem_append.mp member with isRead | isLater
  · have impossible := reads event isRead
    simp [updates] at impossible
  rcases ends with ⟨rfl, -⟩ | reconciles
  · cases isLater
  cases reconciles with
  | live found single unmarked runs =>
      have keeps := reconcile_takesFinalizer.events_allowed runs event isLater
      simp [keeps] at takes
  | @deleted image cluster _ _ _ found single marked runs =>
      obtain ⟨middle, during, ended, prepared, processes, inside⟩ :=
        reconcileDeleted_reached runs isLater (by rw [updates]; decide)
      obtain ⟨removing, removes⟩ := processDelete_released processes inside updates
      exact ⟨image, cluster, found, marked, processDelete_writes processes inside updates,
        deleteResources_removed prepared.gates removes⟩

/-- A cluster that is being deleted, after its volume groups are gone. -/
def leavingCluster : LVMCluster :=
  { selectiveCluster (zoneSelector "a") with
    metadata := {
      name := "cluster"
      finalizers := [lvmClusterFinalizer]
      deletionTimestamp := some 1 } }

/-- A node status that is being deleted and a storage class that is not are left of it. -/
def leavingWorld : World where
  api := ⟨fun
    | .lvmCluster => [leavingCluster]
    | .node => [zoneNode "node" "a" []]
    | .nodeStatus => [{ metadata := {
        name := "node"
        deletionTimestamp := some 1
        finalizers := [deleteProtectionFinalizer] } }]
    | .storageClass => [topolvmStorageClass leavingCluster { name := "vg1" } false]
    | _ => []⟩
  host := fun _ => {}
  memory := fun _ => {}

/-- A reconciliation of the cluster that is being deleted. -/
def leavingRun : List (Event sig World) × Except GoError Result × World :=
  (plainOperator.reconcileRequest "cluster").run.run (environment "node") (fun _ _ => {})
    leavingWorld

/-- The last reconciliation of a cluster lets it go. -/
theorem reconcileRequest_removed_leaving :
    ∃ event ∈ leavingRun.1, takesFinalizer event.request = true ∧
      ∃ image cluster, leavingWorld.api.find? .lvmCluster "cluster" = some cluster ∧
        cluster.metadata.deletionTimestamp.isSome ∧
        event.request = .api (.update .lvmCluster (released cluster)) ∧
        Removed { plainOperator with imageName := image } cluster event.before := by
  have writes : leavingRun.1.any (fun event => takesFinalizer event.request) = true := by
    decide +kernel
  obtain ⟨event, member, takes⟩ := List.any_eq_true.mp writes
  exact ⟨event, member, takes,
    reconcileRequest_removed (Program.run_exec ..) event member takes⟩

end Operator
end Lvms
