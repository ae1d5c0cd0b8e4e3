import Lvms.Operator.Footprint
import Lvms.Operator.NodeSelection
import Lvms.Reading
import Lvms.Writing

/-!
# What one reconciliation of the operator can do

The operator reads the cluster and then reconciles it as it was read. The volume
groups it writes are those of the device classes, or have the spec they had; the spec
of the cluster it only copies.
-/

namespace Lvms

open Interaction Interaction.Program

namespace Operator

variable {r : Operator} {node name : String} {world after : World}
variable {events : List (Event sig World)}

/-! ## From the request to the cluster -/

theorem setRunningPodImage_uses :
    r.setRunningPodImage.run.Uses (Within [.read]) := by
  unfold setRunningPodImage
  split
  · trivial
  · split
    · trivial
    · refine .run_bind (.run_mapError (Client.get_uses ..)) fun pod => ?_
      split <;> trivial

/-- The operator learns its image and nothing else. -/
theorem setRunningPodImage_yields :
    r.setRunningPodImage.run.Yields fun result => ∀ started, result = .ok started →
      ∃ image, started = { r with imageName := image } := by
  unfold setRunningPodImage
  split
  · rintro _ ⟨⟩
    exact ⟨r.imageName, rfl⟩
  · split
    · rintro _ ⟨⟩
    · refine .run_bind (by simp) fun pod => ?_
      split
      · rintro _ ⟨⟩
        exact ⟨_, rfl⟩
      · rintro _ ⟨⟩

/-- The part of a reconciliation about the cluster it has found. -/
inductive Reconciles
    (r : Operator)
    (node name : String)
    (world : World) :
    List (Event sig World) → Except GoError Result → World → Prop
  | deleted {image cluster events result after}
      (found : world.api.find? .lvmCluster name = some cluster)
      (single : (world.api.objects .lvmCluster).length ≤ 1)
      (marked : cluster.metadata.deletionTimestamp.isSome)
      (ran : Exec (environment node)
        (({ r with imageName := image } : Operator).reconcileDeleted cluster).run world
        events result after) :
      Reconciles r node name world events result after
  | live {image cluster events result after}
      (found : world.api.find? .lvmCluster name = some cluster)
      (single : (world.api.objects .lvmCluster).length ≤ 1)
      (unmarked : cluster.metadata.deletionTimestamp = none)
      (ran : Exec (environment node)
        (({ r with imageName := image } : Operator).reconcile cluster).run world
        events result after) :
      Reconciles r node name world events result after

/-- A reconciliation reads, and then stops or reconciles the cluster it has found. -/
theorem reconcileRequest_cases
    {result : Except GoError Result}
    (ran : Exec (environment node) (r.reconcileRequest name).run world events result
      after) :
    StopsOr world after (fun rest => Reconciles r node name world rest result after)
      events := by
  rcases Exec.after_reading (.run_mapError (Client.list_uses _)) ran with
    ⟨reads, rfl⟩ | ⟨clusters, _, rest, rfl, reads, lists, counted⟩
  · exact .stops reads
  obtain ⟨rfl, -⟩ := Client.list_ok (Exec.run_mapError_ok_iff.mp lists)
  refine .after_reads reads ?_
  dsimp only at counted
  split at counted
  · obtain ⟨_, -, throws⟩ | ⟨_, _, _, _, throws, -⟩ := Exec.run_bind_iff.mp counted
    · obtain ⟨rfl, -, rfl⟩ := Exec.run_throw_iff.mp throws
      exact .stops (by simp [Reading])
    · exact absurd throws Exec.run_throw_not_ok
  rename_i single
  rcases Exec.after_reading (.run_attempt (Client.get_uses ..)) counted with
    ⟨reads, rfl⟩ | ⟨answer, _, rest, rfl, reads, gets, answered⟩
  · exact .stops reads
  refine .after_reads reads ?_
  have gets := Exec.run_attempt_ok_iff.mp gets
  cases answer with
  | error err =>
      dsimp only at answered
      split at answered
      · obtain ⟨rfl, -, rfl⟩ := Exec.run_pure_iff.mp answered
        exact .stops (by simp [Reading])
      · obtain ⟨rfl, -, rfl⟩ := Exec.run_throw_iff.mp answered
        exact .stops (by simp [Reading])
  | ok cluster =>
      have found := (Client.get_ok gets).1
      rcases Exec.after_reading (.run_mapError setRunningPodImage_uses) answered with
        ⟨reads, rfl⟩ | ⟨started, _, rest, rfl, reads, starts, reconciled⟩
      · exact .stops reads
      refine .after_reads reads (.continues ?_)
      obtain ⟨image, rfl⟩ := setRunningPodImage_yields.sound
        (Exec.run_mapError_ok_iff.mp starts) started rfl
      have atMostOne : (world.api.objects .lvmCluster).length ≤ 1 := by
        omega
      split at reconciled
      · rename_i marked
        exact .deleted found atMostOne marked reconciled
      · rename_i unmarked
        exact .live found atMostOne (by simpa using unmarked) reconciled

end Operator

/-! ## What is written -/

section Programs

variable {fits : String → LVMVolumeGroupSpec → Prop} {declared : LVMClusterSpec → Prop}

/-- A controller reference changes the owners only. -/
theorem ObjectMeta.setControllerReference_eq
    {metadata owner controlled : ObjectMeta}
    (set : metadata.setControllerReference owner = .ok controlled) :
    controlled = { metadata with ownerReferences := controlled.ownerReferences } := by
  simp only [ObjectMeta.setControllerReference] at set
  repeat' split at set
  · obtain rfl := Except.ok.inj set
    rfl
  · obtain rfl := Except.ok.inj set
    rfl
  · cases set

/-- An owner does not change the name. -/
theorem ObjectMeta.setControllerReference_name
    {metadata owner controlled : ObjectMeta}
    (set : metadata.setControllerReference owner = .ok controlled) :
    controlled.name = metadata.name := by
  rw [setControllerReference_eq set]

namespace Operator

variable {r : Operator} {cluster : LVMCluster}

/-- What a protocol has to allow the operator for the resources of a cluster. It writes the
volume groups of `good` specs. -/
structure PermitsResources
    (r : Operator)
    (protocol : Protocol sig)
    (good : LVMClusterSpec → Prop) : Prop where
  others : ∀ request : Request, request.effect ∉ writeEffects → protocol.allowed request
  applies : ∀ spec, good spec → ∀ vg ∈ lvmVolumeGroups r.ns spec.deviceClasses,
    (∀ existing, protocol.expected (.api (.get .volumeGroup vg.name)) (.ok existing) →
      protocol.allowed (.api (.update .volumeGroup (updateVolumeGroup vg existing)))) ∧
    ∀ metadata : ObjectMeta, metadata.name = vg.name →
      protocol.allowed (.api (.create .volumeGroup
        (updateVolumeGroup vg { metadata, spec := {} })))

/-- What a protocol has to allow the operator. It also writes clusters as it has read them
and the volume groups it `holds`, and knows the nodes that were `listed`. -/
structure Permits
    (r : Operator)
    (protocol : Protocol sig)
    (good : LVMClusterSpec → Prop)
    (holds : LVMVolumeGroup → Prop)
    (listed : List String → Prop) : Prop extends r.PermitsResources protocol good where
  readsCluster : ∀ name object,
    protocol.expected (.api (.get .lvmCluster name)) (.ok object) → good object.spec
  writesCluster : ∀ object : LVMCluster, good object.spec →
    protocol.allowed (.api (.update .lvmCluster object)) ∧
    ∀ updated, protocol.expected (.api (.update .lvmCluster object)) (.ok updated) →
      good updated.spec
  lists : ∀ vgs, protocol.expected (.api (.list .volumeGroup)) (.ok vgs) →
    ∀ vg ∈ vgs, holds vg
  listsNodes : ∀ nodes, protocol.expected (.api (.list .node)) (.ok nodes) →
    listed (nodes.map (·.metadata.name))
  releases : ∀ nodes vg finalizer, listed nodes → holds vg →
    stringsHasPrefix finalizer nodeCleanupFinalizer = true →
    stringsTrimPrefix finalizer (nodeCleanupFinalizer ++ "/") ∉ nodes →
    protocol.allowed (.api (.update .volumeGroup
      { vg with metadata := (vg.metadata.removeFinalizer finalizer).1 })) ∧
    ∀ updated, protocol.expected (.api (.update .volumeGroup
      { vg with metadata := (vg.metadata.removeFinalizer finalizer).1 })) (.ok updated) →
      holds updated

section Permitted

variable {protocol : Protocol sig} {good : LVMClusterSpec → Prop}
variable {holds : LVMVolumeGroup → Prop} {listed : List String → Prop}
variable {manager : Manager}

/-- A footprint without writes of volume groups and clusters. -/
theorem PermitsResources.within
    {α : Type}
    {effects : List Effect}
    {program : Go α}
    (permits : r.PermitsResources protocol good)
    (uses : program.run.Uses (Within effects))
    (untouched : ∀ effect ∈ effects, effect ∉ writeEffects) :
    program.Obeys protocol :=
  obeys_of_within permits.others uses untouched

/-- The volume group of a device class is written with its spec. -/
theorem applyVolumeGroup_obeys
    {volumeGroup : LVMVolumeGroup}
    (permits : r.PermitsResources protocol good)
    (isGood : good cluster.spec)
    (member : volumeGroup ∈ lvmVolumeGroups r.ns cluster.spec.deviceClasses) :
    (applyVolumeGroup cluster volumeGroup).Obeys protocol := by
  have controls : (Fallible.ofProgram (pure (volumeGroup.metadata.setControllerReference
      cluster.metadata)) : Go ObjectMeta).run.Obeys protocol
      (OnOk fun metadata => metadata.name = volumeGroup.name) := by
    cases set : volumeGroup.metadata.setControllerReference cluster.metadata with
    | error err => trivial
    | ok metadata => exact ObjectMeta.setControllerReference_name set
  obtain ⟨updates, creates⟩ := permits.applies _ isGood volumeGroup member
  refine .run_bind (.run_mapError controls) fun metadata named => ?_
  refine .run_bind (.run_mapError (Client.createOrUpdate_obeys
    (permits.others _ (not_mem_writeEffects_of_read rfl)) ?_ ?_))
    fun _ _ => trivial
  · rintro existing _ isExpected ⟨⟩
    have named : Kind.nameOf .volumeGroup { metadata, spec := {} } = volumeGroup.name :=
      named
    rw [named] at isExpected
    exact updates existing isExpected
  · rintro _ ⟨⟩
    exact creates metadata named

/-- Every manager creates what is permitted. -/
theorem ensureCreated_obeys
    (permits : r.PermitsResources protocol good)
    (isGood : good cluster.spec)
    (member : manager ∈ r.resources) :
    (manager.ensureCreated cluster).Obeys protocol := by
  simp only [resources, List.mem_append, List.mem_cons, List.mem_ite_nil_right,
    List.not_mem_nil, or_false] at member
  rcases member with ((rfl | rfl | rfl | rfl | rfl | rfl | rfl | rfl) | ⟨_, rfl⟩) |
    ⟨_, rfl⟩
  · exact permits.within (otherManager_ensureCreated_uses ..) (by decide)
  · exact permits.within (otherManager_ensureCreated_uses ..) (by decide)
  · exact permits.within (r.vgManager_ensureCreated_uses ..) (by decide)
  · exact .run_forM fun vg isVG => applyVolumeGroup_obeys permits isGood isVG
  · exact permits.within (r.lvmVGNodeStatus_ensureCreated_uses ..) (by decide)
  · exact permits.within (topoLVMStorageClass_ensureCreated_uses ..) (by decide)
  · exact permits.within (otherManager_ensureCreated_uses ..) (by decide)
  · exact permits.within (otherManager_ensureCreated_uses ..) (by decide)
  · exact permits.within (otherManager_ensureCreated_uses ..) (by decide)
  · exact permits.within (topoLVMVolumeSnapshotClass_ensureCreated_uses ..) (by decide)

theorem createResources_obeys
    (permits : r.PermitsResources protocol good)
    (isGood : good cluster.spec) :
    (r.createResources cluster).Obeys protocol fun _ => True := by
  unfold createResources
  apply Obeys.interleaveAll (permits.others _ (not_mem_writeEffects_of_read rfl))
  intro program member
  obtain ⟨manager, isManager, rfl⟩ := List.mem_map.mp member
  exact (ensureCreated_obeys permits isGood isManager).mono fun _ _ => trivial

theorem ensureFinalizer_obeys
    (permits : r.Permits protocol good holds listed)
    (isGood : good cluster.spec) :
    (ensureFinalizer cluster).run.Obeys protocol (OnOk fun stored => good stored.spec) := by
  unfold ensureFinalizer
  dsimp only
  split
  · have writes := permits.writesCluster { cluster with
      metadata := (cluster.metadata.addFinalizer lvmClusterFinalizer).1 } isGood
    exact .run_mapError (Client.update_obeys writes.1 writes.2)
  · exact isGood

theorem reportIncomplete_uses (errs : GoError) :
    (r.reportIncomplete cluster errs).run.Uses (Within [.read, .report, .updateStatus]) :=
  .run_bind (.run_lift (within (warningEvent_uses ..) (by simp))) fun _ =>
    .run_bind (.run_attempt (r.updateLVMClusterStatus_uses _)) fun _ => trivial

theorem finishReconcile_uses :
    (r.finishReconcile cluster).run.Uses
      (Within (.report :: .updateStatus :: orphanEffects)) :=
  .run_bind (.run_mapError (within (r.checkForDeletedDeviceClasses_uses _) (by decide)))
    fun _ =>
  .run_bind (.run_lift (within (r.normalEvent_uses ..) (by decide))) fun _ =>
  .run_bind (within (r.updateLVMClusterStatus_uses _) (by decide)) fun _ => trivial

/-- A live cluster is reconciled as permitted. -/
theorem reconcile_obeys
    (permits : r.Permits protocol good holds listed)
    (isGood : good cluster.spec) :
    (r.reconcile cluster).Obeys protocol := by
  refine .run_bind (ensureFinalizer_obeys permits isGood) fun stored isGood => ?_
  refine .run_bind (.run_lift (createResources_obeys permits.toPermitsResources
    isGood)) fun results _ => ?_
  split
  · exact permits.within (reportIncomplete_uses _) (by decide)
  · exact permits.within finishReconcile_uses (by decide)

/-! ### Deletion -/

/-- Finalizers of nodes that were not listed are removed. -/
theorem removeStaleFinalizers_obeys
    {nodes : List String}
    {vg : LVMVolumeGroup}
    {array : List String}
    (permits : r.Permits protocol good holds listed)
    (areListed : listed nodes)
    (positions : List Nat)
    (isHeld : holds vg) :
    (removeStaleFinalizers nodes vg array positions).Obeys protocol := by
  induction positions generalizing vg array with
  | nil => trivial
  | cons position rest inductionHypothesis =>
      rw [removeStaleFinalizers]
      dsimp only
      split
      · exact inductionHypothesis isHeld
      · rename_i isStale
        simp only [Bool.or_eq_true, Bool.not_eq_true', List.contains_iff_mem, not_or,
          Bool.not_eq_false] at isStale
        have writes := permits.releases nodes vg _ areListed isHeld isStale.1 isStale.2
        exact .run_bind (.run_mapError (Client.update_obeys writes.1 writes.2))
          fun updated isHeld => inductionHypothesis isHeld

/-- Finalizers of nodes that are not listed are removed as permitted. -/
theorem checkStaleNodeFinalizers_obeys
    {nodes : List String}
    (permits : r.Permits protocol good holds listed)
    (areListed : listed nodes) :
    (checkStaleNodeFinalizers nodes).Obeys protocol := by
  refine .run_bind (.run_attempt ⟨permits.others _ (not_mem_writeEffects_of_read rfl),
    fun _ isExpected => isExpected⟩) fun found isExpected => ?_
  cases found with
  | error err =>
      dsimp only
      split <;> trivial
  | ok vgs => exact .run_forM fun vg member =>
      removeStaleFinalizers_obeys permits areListed _ (permits.lists vgs isExpected vg member)

theorem releaseLogicalVolumes_uses
    (nodes : List String)
    (logicalVolumes : List TopolvmLogicalVolume) :
    (releaseLogicalVolumes nodes logicalVolumes).run.Uses
      (Within [.read, .update .logicalVolume]) := by
  induction logicalVolumes with
  | nil => trivial
  | cons logicalVolume rest inductionHypothesis =>
      dsimp only [releaseLogicalVolumes]
      split
      · trivial
      · exact .run_bind (.run_mapError (within (Client.update_uses ..) (by simp)))
          fun _ => inductionHypothesis

theorem logicalVolumesExist_uses (nodes : List String) :
    (logicalVolumesExist nodes).run.Uses (Within [.read, .update .logicalVolume]) :=
  .run_bind (.run_mapError (within (Client.list_uses _) (by simp))) fun _ =>
    releaseLogicalVolumes_uses ..

theorem activePVCsExist_uses (deviceClasses : List DeviceClass) :
    (activePVCsExist deviceClasses).run.Uses (Within [.read]) := by
  induction deviceClasses with
  | nil => trivial
  | cons deviceClass rest inductionHypothesis =>
      refine .run_bind (.run_mapError (Client.listPVCs_uses _)) fun pvcs => ?_
      split
      · trivial
      · exact inductionHypothesis

theorem retainPVsExist_uses (deviceClasses : List DeviceClass) :
    (retainPVsExist deviceClasses).run.Uses (Within [.read]) := by
  induction deviceClasses with
  | nil => trivial
  | cons deviceClass rest inductionHypothesis =>
      dsimp only [retainPVsExist]
      split
      · exact inductionHypothesis
      · refine .run_bind (.run_mapError (Client.listPVs_uses _)) fun pvs => ?_
        split
        · trivial
        · exact inductionHypothesis

theorem deleteResource_uses_of
    {effects : List Effect}
    (deleting : (manager.ensureDeleted cluster).run.Uses (Within effects))
    (included : ∀ effect ∈ [Effect.read, .report], effect ∈ effects) :
    (deleteResource cluster manager).run.Uses (Within effects) := by
  refine .run_bind (.run_attempt deleting) fun deleted => ?_
  cases deleted with
  | ok done => trivial
  | error err =>
      exact .run_bind (.run_lift (within (warningEvent_uses ..) included)) fun _ => trivial

/-- The deletion of a resource, with its events. -/
theorem deleteResource_uses
    (member : manager ∈ r.resourceDeletionList) :
    (deleteResource cluster manager).run.Uses (Within (.report :: deletionEffects)) :=
  deleteResource_uses_of (within (r.ensureDeleted_uses _ _ member) (by decide)) (by decide)

/-- A cluster that has no finalizer any more keeps its resources and is left as it is. -/
theorem processDelete_eq :
    r.processDelete cluster =
      if cluster.metadata.finalizers.contains lvmClusterFinalizer then do
        forM r.resourceDeletionList (deleteResource cluster)
        releaseCluster cluster
      else releaseCluster cluster := rfl

theorem releaseCluster_uses :
    (releaseCluster cluster).run.Uses (Within [.update .lvmCluster]) := by
  dsimp only [releaseCluster]
  split
  · exact .run_bind (.run_mapError (Client.update_uses ..)) fun _ => trivial
  · trivial

/-- The cluster is released as it was declared. -/
theorem releaseCluster_obeys
    (permits : r.Permits protocol good holds listed)
    (isGood : good cluster.spec) :
    (releaseCluster cluster).Obeys protocol := by
  dsimp only [releaseCluster]
  split
  · have writes := permits.writesCluster { cluster with
      metadata := (cluster.metadata.removeFinalizer lvmClusterFinalizer).1 } isGood
    exact .run_bind (.run_mapError (Client.update_obeys writes.1 writes.2))
      fun _ _ => trivial
  · trivial

/-- The resources are deleted as permitted. -/
theorem processDelete_obeys
    (permits : r.Permits protocol good holds listed)
    (isGood : good cluster.spec) :
    (r.processDelete cluster).Obeys protocol := by
  rw [processDelete_eq]
  split
  · refine .run_bind (.run_forM fun manager member => ?_)
      fun _ _ => releaseCluster_obeys permits isGood
    exact permits.within (deleteResource_uses member) (by decide)
  · exact releaseCluster_obeys permits isGood

theorem finishDeletion_obeys
    (permits : r.Permits protocol good holds listed)
    (isGood : good cluster.spec) :
    (r.finishDeletion cluster).Obeys protocol := by
  refine .run_bind (.run_attempt (processDelete_obeys permits isGood)) fun result _ => ?_
  cases result <;> trivial

/-- The nodes that are found were listed. -/
theorem clusterNodes_obeys
    (permits : r.Permits protocol good holds listed) :
    clusterNodes.run.Obeys protocol (OnOk listed) := by
  have reads : protocol.allowed (.api (.list .node)) :=
    permits.others _ (not_mem_writeEffects_of_read rfl)
  exact .run_bind (.run_mapError (Client.list_obeys reads permits.listsNodes))
    fun _ areListed => areListed

/-- A deleted cluster is reconciled as permitted. -/
theorem reconcileDeleted_obeys
    (permits : r.Permits protocol good holds listed)
    (isGood : good cluster.spec) :
    (r.reconcileDeleted cluster).Obeys protocol := by
  have waits (found : String) : (waitForDeletion cluster found).Obeys protocol :=
    permits.within (.run_bind (.run_lift (warningEvent_uses ..)) fun _ => trivial)
      (by decide)
  refine .run_bind (.run_mapError (clusterNodes_obeys permits)) fun nodes areListed => ?_
  refine .run_bind (.run_mapError (checkStaleNodeFinalizers_obeys permits areListed))
    fun _ _ => ?_
  refine .run_bind (.run_mapError (permits.within (logicalVolumesExist_uses nodes)
    (by decide))) fun _ _ => ?_
  refine .run_bind (.run_mapError (permits.within (activePVCsExist_uses _)
    (by decide))) fun claimed _ => ?_
  split
  · exact waits _
  · refine .run_bind (.run_mapError (permits.within (retainPVsExist_uses _)
      (by decide))) fun retained _ => ?_
    split
    · exact waits _
    · exact finishDeletion_obeys permits isGood

/-- What is permitted does not depend on the image. -/
theorem Permits.with_image
    (permits : r.Permits protocol good holds listed)
    (image : String) :
    ({ r with imageName := image } : Operator).Permits protocol good holds listed :=
  ⟨⟨permits.others, permits.applies⟩, permits.readsCluster, permits.writesCluster,
    permits.lists, permits.listsNodes, permits.releases⟩

/-- A reconciliation obeys a protocol that permits what the operator writes. -/
theorem Permits.reconcileRequest_obeys
    (permits : r.Permits protocol good holds listed)
    (name : String) :
    (r.reconcileRequest name).Obeys protocol := by
  refine .run_bind (.run_mapError (permits.within (Client.list_uses _) (by decide)))
    fun clusters _ => ?_
  dsimp only
  split
  · trivial
  refine .run_bind (.run_attempt ⟨permits.others _ (not_mem_writeEffects_of_read rfl),
    fun _ isExpected => isExpected⟩) fun found isExpected => ?_
  cases found with
  | error err =>
      dsimp only
      split <;> trivial
  | ok cluster =>
      have starts : r.setRunningPodImage.run.Obeys protocol
          (OnOk fun started => ∃ image, started = { r with imageName := image }) := by
        refine ((permits.within setRunningPodImage_uses (by decide)).yields
          setRunningPodImage_yields).mono ?_
        rintro (err | started) ⟨-, possibly⟩
        · trivial
        · exact possibly started rfl
      have isGood := permits.readsCluster name cluster isExpected
      refine .run_bind (.run_mapError starts) ?_
      rintro _ ⟨image, rfl⟩
      split
      · exact reconcileDeleted_obeys (permits.with_image image) isGood
      · exact reconcile_obeys (permits.with_image image) isGood

end Permitted

/-! ### Fitting volume groups -/

/-- The volume groups of the device classes fit. -/
def ClassesFit
    (r : Operator)
    (fits : String → LVMVolumeGroupSpec → Prop)
    (spec : LVMClusterSpec) : Prop :=
  ∀ vg ∈ lvmVolumeGroups r.ns spec.deviceClasses, fits vg.name vg.spec

/-- If the volume groups of the declared device classes fit, the operator may write. -/
theorem permits_writing
    (classesFit : ∀ spec, declared spec → r.ClassesFit fits spec) :
    r.Permits (writing fits declared) declared (fun vg => fits vg.name vg.spec)
      fun _ => True where
  others _ untouched := writing_allowed untouched
  readsCluster _ _ isDeclared := isDeclared
  writesCluster _ isDeclared := ⟨isDeclared, fun _ sameSpec => sameSpec ▸ isDeclared⟩
  applies spec isDeclared vg member := by
    have isFit := classesFit spec isDeclared vg member
    constructor
    · intro existing isNamed
      have fitsToo : fits existing.name vg.spec := isNamed.1 ▸ isFit
      exact fitsToo
    · intro metadata named
      have fitsToo : fits metadata.name vg.spec := named ▸ isFit
      exact fitsToo
  lists _ areFit := areFit
  listsNodes _ _ := trivial
  releases _ _ _ _ isFit _ _ := ⟨isFit, fun _ same => same.1 ▸ same.2 ▸ isFit⟩

/-- The operator writes volume groups that fit their names. -/
theorem reconcileRequest_obeys
    {name : String}
    (classesFit : ∀ spec, declared spec → r.ClassesFit fits spec) :
    (r.reconcileRequest name).Obeys (writing fits declared) :=
  (permits_writing classesFit).reconcileRequest_obeys name

/-- A reconciliation of the operator writes only what fits. -/
theorem reconcileRequest_fitting
    {node name : String}
    {world after : World}
    {events : List (Event sig World)}
    {result : Except GoError Result}
    (ran : Exec (environment node) (r.reconcileRequest name).run world events result
      after)
    (classesFit : ∀ spec, declared spec → r.ClassesFit fits spec)
    (fitting : Fitting fits declared world) :
    (∀ event ∈ events, Fitting fits declared event.before) ∧
      Fitting fits declared after :=
  fitting.of_obeys (reconcileRequest_obeys classesFit) ran

end Operator
end Programs

/-! ## The footprint of a reconciliation -/

namespace Operator

variable {r : Operator} {cluster : LVMCluster}

/-- The classes of the calls for a cluster that is not deleted. -/
def liveEffects : List Effect :=
  .report :: .updateStatus :: .update .lvmCluster :: (createEffects ++ orphanEffects)

/-- The classes of the calls for a deleted cluster. -/
def teardownEffects : List Effect :=
  .report :: .update .lvmCluster :: .update .logicalVolume :: .update .volumeGroup ::
    deletionEffects

/-- The classes of all calls of the operator. -/
def operatorEffects : List Effect :=
  .report :: .updateStatus :: .update .lvmCluster :: .update .logicalVolume ::
    (createEffects ++ deletionEffects ++ orphanEffects)

theorem ensureFinalizer_uses :
    (ensureFinalizer cluster).run.Uses (Within [.update .lvmCluster]) := by
  dsimp only [ensureFinalizer]
  split
  · exact .run_mapError (Client.update_uses ..)
  · trivial

/-- The calls for a cluster that is not deleted. -/
theorem reconcile_uses : (r.reconcile cluster).run.Uses (Within liveEffects) := by
  refine .run_bind (within ensureFinalizer_uses (by decide)) fun stored => ?_
  refine .run_bind (.run_lift (within (r.createResources_uses stored) (by decide)))
    fun results => ?_
  split
  · exact within (reportIncomplete_uses _) (by decide)
  · exact within finishReconcile_uses (by decide)

theorem removeStaleFinalizers_uses
    {nodes : List String}
    {vg : LVMVolumeGroup}
    {array : List String}
    (positions : List Nat) :
    (removeStaleFinalizers nodes vg array positions).run.Uses
      (Within [.update .volumeGroup]) := by
  induction positions generalizing vg array with
  | nil => trivial
  | cons position rest inductionHypothesis =>
      rw [removeStaleFinalizers]
      dsimp only
      split
      · exact inductionHypothesis
      · exact .run_bind (.run_mapError (Client.update_uses ..))
          fun _ => inductionHypothesis

theorem checkStaleNodeFinalizers_uses (nodes : List String) :
    (checkStaleNodeFinalizers nodes).run.Uses (Within [.read, .update .volumeGroup]) := by
  refine .run_bind (.run_attempt (within (Client.list_uses _) (by decide)))
    fun listed => ?_
  cases listed with
  | error err =>
      dsimp only
      split <;> trivial
  | ok vgs =>
      exact .run_forM fun vg _ => within (removeStaleFinalizers_uses _) (by decide)

/-- The calls that delete the resources. -/
theorem processDelete_uses :
    (r.processDelete cluster).run.Uses (Within teardownEffects) := by
  rw [processDelete_eq]
  split
  · refine .run_bind (.run_forM fun manager member => ?_)
      fun _ => within releaseCluster_uses (by decide)
    exact within (deleteResource_uses member) (by decide)
  · exact within releaseCluster_uses (by decide)

theorem finishDeletion_uses :
    (r.finishDeletion cluster).run.Uses (Within teardownEffects) := by
  refine .run_bind (.run_attempt processDelete_uses) fun result => ?_
  cases result <;> trivial

/-- No status is written for a deleted cluster. -/
theorem reconcileDeleted_uses :
    (r.reconcileDeleted cluster).run.Uses (Within teardownEffects) := by
  have waits (found : String) :
      (waitForDeletion cluster found).run.Uses (Within teardownEffects) :=
    .run_bind (.run_lift (within (warningEvent_uses ..) (by decide))) fun _ => trivial
  have names : clusterNodes.run.Uses (Within teardownEffects) :=
    .run_bind (.run_mapError (within (Client.list_uses _) (by decide))) fun _ => trivial
  refine .run_bind (.run_mapError names) fun nodes => ?_
  refine .run_bind (.run_mapError (within (checkStaleNodeFinalizers_uses nodes)
    (by decide))) fun _ => ?_
  refine .run_bind (.run_mapError (within (logicalVolumesExist_uses nodes) (by decide)))
    fun _ => ?_
  refine .run_bind (.run_mapError (within (activePVCsExist_uses _) (by decide)))
    fun claimed => ?_
  split
  · exact waits _
  · refine .run_bind (.run_mapError (within (retainPVsExist_uses _) (by decide)))
      fun retained => ?_
    split
    · exact waits _
    · exact finishDeletion_uses

/-- All calls of the operator. -/
theorem reconcileRequest_uses (name : String) :
    (r.reconcileRequest name).run.Uses (Within operatorEffects) := by
  refine .run_bind (.run_mapError (within (Client.list_uses _) (by decide)))
    fun clusters => ?_
  dsimp only
  split
  · trivial
  refine .run_bind (.run_attempt (within (Client.get_uses ..) (by decide)))
    fun found => ?_
  cases found with
  | error err =>
      dsimp only
      split <;> trivial
  | ok cluster =>
      refine .run_bind (.run_mapError (within setRunningPodImage_uses (by decide)))
        fun started => ?_
      split
      · exact within reconcileDeleted_uses (by decide)
      · exact within reconcile_uses (by decide)

end Operator

/-- An operator without optional resources that compares labels itself. -/
def plainOperator : Operator where
  clusterType := .other
  snapshotsEnabled := false
  imageName := "image"
  scheduling := .byLabels

end Lvms
