import Lvms.Operator.Steps
import Lvms.Outcomes

/-!
# The deletion of the cluster

A reconciliation of a deleted cluster first removes stale finalizers and checks its
gates. Only when no claim and no retained volume is left does it remove the resources,
one manager after the other, and each one only when the one before has succeeded. The
finalizer of the cluster comes last.
-/

namespace Lvms

open Interaction Interaction.Program

namespace Client

variable {node storageClassName : String} {world after : World}
variable {events : List (Event sig World)}

/-- A list of claims that is returned has all claims of the storage class. -/
theorem listPVCs_ok
    {claims : List PersistentVolumeClaim}
    (ran : Exec (environment node) (listPVCs storageClassName).run world events
      (.ok claims) after) :
    after = world ∧ claims = (world.api.objects .persistentVolumeClaim).filter
      (·.storageClassName == some storageClassName) := by
  refine ⟨(Exec.of_reading ran (within (listPVCs_uses _) (by simp))).1, ?_⟩
  obtain ⟨choice, -, answered, -⟩ := exec_call_iff.mp ran
  simp only [World.respond, ApiServer.respond] at answered
  cases failure : choice.failure with
  | some text => simp [failure, ApiServer.refuse] at answered
  | none => simpa [failure, ApiServer.answer] using answered

/-- A list of volumes that is returned has all volumes of the storage class. -/
theorem listPVs_ok
    {volumes : List PersistentVolume}
    (ran : Exec (environment node) (listPVs storageClassName).run world events
      (.ok volumes) after) :
    after = world ∧ volumes = (world.api.objects .persistentVolume).filter
      (·.storageClassName == storageClassName) := by
  refine ⟨(Exec.of_reading ran (within (listPVs_uses _) (by simp))).1, ?_⟩
  obtain ⟨choice, -, answered, -⟩ := exec_call_iff.mp ran
  simp only [World.respond, ApiServer.respond] at answered
  cases failure : choice.failure with
  | some text => simp [failure, ApiServer.refuse] at answered
  | none => simpa [failure, ApiServer.answer] using answered

end Client

namespace Operator

variable {r : Operator} {cluster : LVMCluster} {node : String} {world after : World}
variable {events : List (Event sig World)}
variable {event : Event sig World} {manager : Manager}

/-! ## The gates -/

/-- No claim and, for the classes that retain their volumes, no volume is left of the
device classes of the cluster. -/
structure GatesOpen (cluster : LVMCluster) (world : World) : Prop where
  claims : ∀ deviceClass ∈ cluster.spec.deviceClasses,
    ∀ claim ∈ world.api.objects .persistentVolumeClaim,
      claim.storageClassName ≠ getStorageClassName deviceClass.name
  volumes : ∀ deviceClass ∈ cluster.spec.deviceClasses, deviceClass.retains = true →
    ∀ volume ∈ world.api.objects .persistentVolume,
      volume.storageClassName ≠ getStorageClassName deviceClass.name

theorem activePVCsExist_false
    {deviceClasses : List DeviceClass}
    (ran : Exec (environment node) (activePVCsExist deviceClasses).run world events
      (.ok false) after) :
    ∀ deviceClass ∈ deviceClasses,
      ∀ claim ∈ world.api.objects .persistentVolumeClaim,
        claim.storageClassName ≠ getStorageClassName deviceClass.name := by
  induction deviceClasses generalizing events with
  | nil => simp
  | cons deviceClass rest inductionHypothesis =>
      obtain ⟨pvcs, first, between, second, head, tail, rfl⟩ := Exec.run_bind_ok_iff.mp ran
      obtain ⟨rfl, listed⟩ := Client.listPVCs_ok (Exec.run_mapError_ok_iff.mp head)
      split at tail
      · simp at tail
      rename_i isEmpty
      rw [List.forall_mem_cons]
      refine ⟨?_, inductionHypothesis tail⟩
      intro claim member same
      have isListed : claim ∈ pvcs := by simp [listed, member, same]
      rw [Bool.not_eq_true, Bool.not_eq_false', List.isEmpty_iff] at isEmpty
      simp [isEmpty] at isListed

theorem retainPVsExist_false
    {deviceClasses : List DeviceClass}
    (ran : Exec (environment node) (retainPVsExist deviceClasses).run world events
      (.ok false) after) :
    ∀ deviceClass ∈ deviceClasses, deviceClass.retains = true →
      ∀ volume ∈ world.api.objects .persistentVolume,
        volume.storageClassName ≠ getStorageClassName deviceClass.name := by
  induction deviceClasses generalizing events with
  | nil => simp
  | cons deviceClass rest inductionHypothesis =>
      rw [List.forall_mem_cons]
      dsimp only [retainPVsExist] at ran
      split at ran
      · rename_i discards
        exact ⟨fun retains => by simp [retains] at discards, inductionHypothesis ran⟩
      obtain ⟨pvs, first, between, second, head, tail, rfl⟩ := Exec.run_bind_ok_iff.mp ran
      obtain ⟨rfl, listed⟩ := Client.listPVs_ok (Exec.run_mapError_ok_iff.mp head)
      split at tail
      · simp at tail
      rename_i isEmpty
      refine ⟨fun _ => ?_, inductionHypothesis tail⟩
      intro volume member same
      have isListed : volume ∈ pvs := by simp [listed, member, same]
      rw [Bool.not_eq_true, Bool.not_eq_false', List.isEmpty_iff] at isEmpty
      simp [isEmpty] at isListed

/-! ## Up to the resources -/

/-- The calls before any resource is removed. -/
def preparing : List Effect :=
  [.read, .report, .update .volumeGroup, .update .logicalVolume]

theorem clusterNodes_uses : clusterNodes.run.Uses (Within [.read]) :=
  .run_bind (.run_mapError (Client.list_uses _)) fun _ => trivial

theorem clusterNodes_ok
    {nodes : List String}
    (ran : Exec (environment node) clusterNodes.run world events (.ok nodes) after) :
    after = world ∧ nodes = (world.api.objects .node).map (·.metadata.name) := by
  obtain ⟨listed, first, between, second, head, tail, rfl⟩ := Exec.run_bind_ok_iff.mp ran
  obtain ⟨rfl, rfl⟩ := Client.list_ok (Exec.run_mapError_ok_iff.mp head)
  obtain ⟨-, isNames, rfl⟩ := Exec.run_pure_iff.mp tail
  exact ⟨rfl, Except.ok.inj isNames⟩

theorem waitForDeletion_uses (found : String) :
    (waitForDeletion cluster found).run.Uses (Within preparing) :=
  .run_bind (.run_lift (within (warningEvent_uses ..) (by decide))) fun _ => trivial

/-- The cluster is ready for the removal of its resources: the finalizers of the nodes that
do not exist were removed, and then the gates were open. -/
structure Prepared (node : String) (cluster : LVMCluster) (world middle : World) : Prop where
  frame : Frame preparing world middle
  gates : GatesOpen cluster middle
  released : ∃ events between, Exec (environment node)
      (checkStaleNodeFinalizers ((world.api.objects .node).map (·.metadata.name))).run world
      events (.ok ()) between ∧
    middle.api.objects .volumeGroup = between.api.objects .volumeGroup

/-- A reconciliation that makes any other call removes the resources when it is ready to
do so. -/
theorem reconcileDeleted_reached
    {result : Except GoError Result}
    (ran : Exec (environment node) (r.reconcileDeleted cluster).run world events result
      after)
    (member : event ∈ events)
    (outside : event.request.effect ∉ preparing) :
    ∃ middle during ended, Prepared node cluster world middle ∧
      Exec (environment node) (r.processDelete cluster).run middle during ended after ∧
      event ∈ during := by
  obtain ⟨nodes, _, named, _, names, afterNames, -, member⟩ :=
    (Uses.run_mapError (within clusterNodes_uses (by decide))).run_bind_reached ran member
      outside
  obtain ⟨_, _, released, _, stale, afterStale, -, member⟩ :=
    (Uses.run_mapError (within (checkStaleNodeFinalizers_uses nodes)
      (by decide))).run_bind_reached afterNames member outside
  obtain ⟨_, _, checked, _, volumes, afterVolumes, -, member⟩ :=
    (Uses.run_mapError (within (logicalVolumesExist_uses nodes)
      (by decide))).run_bind_reached afterStale member outside
  obtain ⟨claimed, _, unclaimed, _, claims, afterClaims, -, member⟩ :=
    (Uses.run_mapError (within (activePVCsExist_uses _)
      (by decide))).run_bind_reached afterVolumes member outside
  obtain ⟨rfl, rfl⟩ := clusterNodes_ok (Exec.run_mapError_ok_iff.mp names)
  have kept := Exec.frame volumes (.run_mapError (logicalVolumesExist_uses _))
  have framed : Frame preparing named checked :=
    (Exec.frame stale (.run_mapError (within (checkStaleNodeFinalizers_uses _)
      (by decide)))).trans (kept.widen (by decide))
  obtain ⟨rfl, -⟩ := Exec.of_reading claims (within (.run_mapError (activePVCsExist_uses _))
    (by decide))
  split at afterClaims
  · exact absurd ((waitForDeletion_uses _).events_allowed afterClaims event member) outside
  rename_i noClaims
  obtain ⟨retained, _, unretained, _, retains, afterRetained, -, member⟩ :=
    (Uses.run_mapError (within (retainPVsExist_uses _)
      (by decide))).run_bind_reached afterClaims member outside
  obtain ⟨rfl, -⟩ := Exec.of_reading retains (within (.run_mapError (retainPVsExist_uses _))
    (by decide))
  split at afterRetained
  · exact absurd ((waitForDeletion_uses _).events_allowed afterRetained event member) outside
  rename_i noVolumes
  obtain rfl : claimed = false := by simpa using noClaims
  obtain rfl : retained = false := by simpa using noVolumes
  have gates : GatesOpen cluster unretained :=
    ⟨activePVCsExist_false (Exec.run_mapError_ok_iff.mp claims),
      retainPVsExist_false (Exec.run_mapError_ok_iff.mp retains)⟩
  obtain ⟨ended, during, last, rest, processing, finishing, rfl⟩ :=
    Exec.run_attempt_bind_iff.mp afterRetained
  have ends : rest = [] ∧ after = last := by
    cases ended with
    | ok done =>
        obtain ⟨rfl, -, rfl⟩ := Exec.run_pure_iff.mp finishing
        exact ⟨rfl, rfl⟩
    | error err =>
        obtain ⟨rfl, -, rfl⟩ := Exec.run_pure_iff.mp finishing
        exact ⟨rfl, rfl⟩
  obtain ⟨rfl, rfl⟩ := ends
  refine ⟨unretained, during, ended, ⟨framed, gates, ?_⟩, processing,
    by simpa using member⟩
  exact ⟨_, released, Exec.run_mapError_ok_iff.mp stale,
    kept.objects .volumeGroup (by decide)⟩

/-! ## One resource after the other -/

theorem deleteResource_ok
    (ran : Exec (environment node) (deleteResource cluster manager).run world events
      (.ok ()) after) :
    Exec (environment node) (manager.ensureDeleted cluster).run world events (.ok ())
      after := by
  obtain ⟨answer, first, between, second, head, tail, rfl⟩ := Exec.run_bind_ok_iff.mp ran
  have head := Exec.run_attempt_ok_iff.mp head
  cases answer with
  | ok done =>
      obtain ⟨rfl, -, rfl⟩ := Exec.run_pure_iff.mp tail
      simpa using head
  | error err =>
      obtain ⟨_, _, _, _, -, throws, -⟩ := Exec.run_bind_ok_iff.mp tail
      exact absurd throws Exec.run_throw_not_ok

/-- The classes of the calls of these managers. -/
def classEffects : List Effect :=
  [.read, .report, .otherManager, .delete .storageClass, .delete .volumeSnapshotClass]

theorem afterStatuses_uses
    (member : manager ∈ r.resourcesAfterStatuses) :
    (deleteResource cluster manager).run.Uses (Within classEffects) := by
  have others (name : String) : ((otherManager name).ensureDeleted cluster).run.Uses
      (Within classEffects) :=
    within (otherManager_ensureDeleted_uses ..) (by decide)
  refine deleteResource_uses_of ?_ (by decide)
  simp only [resourcesAfterStatuses, List.mem_append, List.mem_cons,
    List.mem_ite_nil_right, List.not_mem_nil, or_false] at member
  rcases member with ((rfl | rfl | rfl | rfl | rfl) | ⟨_, rfl⟩) | ⟨_, rfl⟩
  · exact within (topoLVMStorageClass_ensureDeleted_uses ..) (by decide)
  · exact others _
  · exact others _
  · exact others _
  · exact others _
  · exact others _
  · exact within (topoLVMVolumeSnapshotClass_ensureDeleted_uses ..) (by decide)

/-- When all resources were removed, those before a manager were removed first, then its
own, and then those after it. -/
theorem deleteResources_split
    {earlier later : List Manager}
    (ran : Exec (environment node)
      (forM (earlier ++ manager :: later) (deleteResource cluster)).run world events
      (.ok ()) after) :
    ∃ first second third before between,
      Exec (environment node) (forM earlier (deleteResource cluster)).run world first
        (.ok ()) before ∧
      Exec (environment node) (manager.ensureDeleted cluster).run before second (.ok ())
        between ∧
      Exec (environment node) (forM later (deleteResource cluster)).run between third
        (.ok ()) after ∧
      events = first ++ (second ++ third) := by
  rw [List.forM_append] at ran
  obtain ⟨_, first, before, _, head, tail, rfl⟩ := Exec.run_bind_ok_iff.mp ran
  rw [List.forM_cons] at tail
  obtain ⟨_, second, between, third, own, rest, rfl⟩ := Exec.run_bind_ok_iff.mp tail
  exact ⟨first, second, third, before, between, head, deleteResource_ok own, rest, rfl⟩

/-- The cluster is only updated at the end, without its finalizer, when all resources have
been removed. -/
theorem processDelete_released
    {result : Except GoError Unit}
    (ran : Exec (environment node) (r.processDelete cluster).run world events result after)
    (member : event ∈ events)
    (updates : event.request.effect = .update .lvmCluster) :
    ∃ removing, Exec (environment node)
      (forM r.resourceDeletionList (deleteResource cluster)).run world removing (.ok ())
      event.before := by
  have outside : ¬Within (.report :: deletionEffects) event.request := by
    rw [Within, updates]
    decide
  rw [processDelete_eq] at ran
  split at ran
  · obtain ⟨_, removing, removed, releasing, resources, releases, -, member⟩ :=
      (Uses.run_forM fun manager isManager =>
        deleteResource_uses isManager).run_bind_reached ran member outside
    refine ⟨removing, ?_⟩
    dsimp only [releaseCluster] at releases
    split at releases
    · obtain ⟨_, -, mapped⟩ := Exec.run_bind_pure_iff.mp releases
      obtain ⟨_, -, updating⟩ := Exec.run_mapError_iff.mp mapped
      obtain ⟨choice, rfl, -, -⟩ := exec_call_iff.mp updating
      obtain rfl := List.mem_singleton.mp member
      exact resources
    · obtain ⟨rfl, -, -⟩ := Exec.run_pure_iff.mp releases
      cases member
  · rename_i absent
    dsimp only [releaseCluster] at ran
    split at ran
    · rename_i removed
      rw [ObjectMeta.removeFinalizer_iff] at removed
      simp [removed] at absent
    · obtain ⟨rfl, -, -⟩ := Exec.run_pure_iff.mp ran
      cases member

/-- All other calls of the deletion are made for the resources. -/
theorem processDelete_removes
    {result : Except GoError Unit}
    (ran : Exec (environment node) (r.processDelete cluster).run world events result after)
    (member : event ∈ events)
    (isOther : event.request.effect ≠ .update .lvmCluster) :
    ∃ removing ended last, Exec (environment node)
      (forM r.resourceDeletionList (deleteResource cluster)).run world removing ended last ∧
      event ∈ removing := by
  have releases {before last : World} {releasing : List (Event sig World)}
      (released : Exec (environment node) (releaseCluster cluster).run before releasing result
        last) :
      event ∉ releasing := fun inside =>
    isOther (List.mem_singleton.mp (releaseCluster_uses.events_allowed released event inside))
  rw [processDelete_eq] at ran
  split at ran
  · rcases Exec.run_bind_iff.mp ran with
      ⟨error, -, failed⟩ | ⟨_, removing, between, releasing, head, tail, rfl⟩
    · exact ⟨events, _, after, failed, member⟩
    · rcases List.mem_append.mp member with early | late
      · exact ⟨removing, _, between, head, early⟩
      · exact absurd late (releases tail)
  · exact absurd member (releases ran)

end Operator
end Lvms
