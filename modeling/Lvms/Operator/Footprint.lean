import Lvms.Effects
import Lvms.Operator.Controller

/-!
# Footprints of the operator

For the functions of the operator, the classes of the calls they can make.
-/

namespace Lvms

open Interaction Interaction.Program

namespace Client

theorem applyStorageClass_uses (storageClass : StorageClass) :
    (applyStorageClass storageClass).run.Uses (Within [.applyStorageClass]) :=
  call_uses _ (.head _)

theorem updateStatus_uses (cluster : LVMCluster) :
    (updateStatus cluster).run.Uses (Within [.updateStatus]) :=
  call_uses _ (.head _)

theorem listPVCs_uses (storageClassName : String) :
    (listPVCs storageClassName).run.Uses (Within [.read]) :=
  call_uses _ (.head _)

theorem listPVs_uses (storageClassName : String) :
    (listPVs storageClassName).run.Uses (Within [.read]) :=
  call_uses _ (.head _)

end Client

/-! ## Managers -/

/-- The calls of `CreateOrUpdate` of a kind. -/
def applyEffects (kind : Kind) : List Effect :=
  [.read, .create kind, .update kind]

theorem applyVolumeGroup_uses (lvmCluster : LVMCluster) (volumeGroup : LVMVolumeGroup) :
    (applyVolumeGroup lvmCluster volumeGroup).run.Uses
      (Within (applyEffects .volumeGroup)) :=
  .run_bind (.run_mapError trivial) fun _ =>
    .run_bind (.run_mapError (Client.createOrUpdate_uses ..)) fun _ => trivial

theorem deleteVolumeGroupObject_uses (volumeGroup : LVMVolumeGroup) :
    (deleteVolumeGroupObject volumeGroup).run.Uses
      (Within [.read, .delete .volumeGroup]) := by
  refine .run_bind (.run_attempt (within (Client.get_uses ..) (by simp))) fun found => ?_
  cases found with
  | error err =>
      dsimp only
      split <;> trivial
  | ok existing =>
      dsimp only
      split
      · exact .run_bind (.run_mapError (within (Client.delete_uses ..) (by simp)))
          fun _ => trivial
      · trivial

theorem volumeGroupsPendingDelete_uses
    (ns : String)
    (volumeGroups : List LVMVolumeGroup) :
    (volumeGroupsPendingDelete ns volumeGroups).run.Uses
      (Within [.read, .delete .volumeGroup]) := by
  induction volumeGroups with
  | nil => trivial
  | cons volumeGroup rest inductionHypothesis =>
      exact .run_bind (deleteVolumeGroupObject_uses _) fun _ =>
        .run_bind inductionHypothesis fun _ => trivial

theorem releaseNodeStatus_uses (status : LVMVolumeGroupNodeStatus) :
    (releaseNodeStatus status).run.Uses (Within [.update .nodeStatus]) := by
  unfold releaseNodeStatus
  split
  · trivial
  · exact .run_bind (.run_mapError (Client.update_uses ..)) fun _ => trivial

theorem deleteNodeStatus_uses (status : LVMVolumeGroupNodeStatus) :
    (deleteNodeStatus status).run.Uses
      (Within [.read, .delete .nodeStatus, .update .nodeStatus]) := by
  have releases := within (releaseNodeStatus_uses status)
    (by simp : ∀ effect ∈ [Effect.update .nodeStatus],
      effect ∈ [.read, .delete .nodeStatus, .update .nodeStatus])
  dsimp only [deleteNodeStatus]
  split
  · exact .run_bind (.run_mapError (within (Client.delete_uses ..) (by simp))) fun _ => releases
  · exact releases

theorem throwIfSome_uses (err : Option GoError) (effects : List Effect) :
    (throwIfSome err).run.Uses (Within effects) := by
  cases err <;> trivial

theorem deleteClass_uses (kind : Kind) (kindName errorName name : String) :
    (deleteClass kind kindName errorName name).run.Uses
      (Within [.read, .delete kind]) := by
  refine .run_bind (.run_attempt (within (Client.get_uses ..) (by simp))) fun found => ?_
  cases found with
  | error err =>
      dsimp only
      split <;> trivial
  | ok existing =>
      dsimp only
      split
      · trivial
      · exact .run_mapError (within (Client.delete_uses ..) (by simp))

theorem getTopolvmStorageClasses_uses (lvmCluster : LVMCluster) :
    (getTopolvmStorageClasses lvmCluster).Uses (Within [.read]) := by
  refine .bind (Client.list_uses ..) fun listed => ?_
  cases listed <;> trivial

theorem deleteDaemonSet_uses (name : String) :
    (deleteDaemonSet name).run.Uses (Within [.read, .delete .daemonSet]) := by
  refine .run_bind (.run_attempt (within (Client.delete_uses ..) (by simp)))
    fun deleted => ?_
  cases deleted with
  | ok done => trivial
  | error err =>
      dsimp only
      split <;> trivial

theorem verifyDaemonSetDeleted_uses (name : String) :
    (verifyDaemonSetDeleted name).run.Uses (Within [.read, .delete .daemonSet]) := by
  refine .run_bind (.run_attempt (within (Client.get_uses ..) (by simp)))
    fun found => ?_
  cases found with
  | ok existing => trivial
  | error err =>
      dsimp only
      split <;> trivial

namespace Operator

variable (r : Operator)

theorem lvmVGs_ensureCreated_uses (cluster : LVMCluster) :
    (r.lvmVGs.ensureCreated cluster).run.Uses (Within (applyEffects .volumeGroup)) :=
  .run_forM fun _ _ => applyVolumeGroup_uses ..

theorem lvmVGs_ensureDeleted_uses (cluster : LVMCluster) :
    (r.lvmVGs.ensureDeleted cluster).run.Uses
      (Within [.read, .delete .volumeGroup]) := by
  refine .run_bind (volumeGroupsPendingDelete_uses ..) fun pending => ?_
  split <;> trivial

theorem lvmVGNodeStatus_ensureCreated_uses (cluster : LVMCluster) :
    (r.lvmVGNodeStatus.ensureCreated cluster).run.Uses
      (Within (applyEffects .nodeStatus)) :=
  .run_bind (.run_mapError (within (Client.list_uses _) (by simp [applyEffects])))
    fun _ => .run_bind
      (.run_forM fun _ _ => .run_bind (.run_mapError (Client.createOrUpdate_uses ..))
        fun _ => trivial)
      fun _ => throwIfSome_uses ..

theorem lvmVGNodeStatus_ensureDeleted_uses (cluster : LVMCluster) :
    (r.lvmVGNodeStatus.ensureDeleted cluster).run.Uses
      (Within [.read, .delete .nodeStatus, .update .nodeStatus]) :=
  .run_bind (.run_mapError (within (Client.list_uses _) (by simp))) fun _ =>
    .run_bind (.run_mapError (within (Client.list_uses _) (by simp))) fun _ =>
      .run_bind (.run_forM fun _ _ => deleteNodeStatus_uses _) fun _ =>
        throwIfSome_uses ..

theorem topoLVMStorageClass_ensureCreated_uses (cluster : LVMCluster) :
    (topoLVMStorageClass.ensureCreated cluster).run.Uses
      (Within [.read, .applyStorageClass]) :=
  .run_bind (.run_lift (within (getTopolvmStorageClasses_uses _) (by simp))) fun _ =>
    .run_forM fun _ _ =>
      .run_mapError (within (Client.applyStorageClass_uses _) (by simp))

theorem topoLVMStorageClass_ensureDeleted_uses (cluster : LVMCluster) :
    (topoLVMStorageClass.ensureDeleted cluster).run.Uses
      (Within [.read, .delete .storageClass]) :=
  .run_forM fun _ _ => deleteClass_uses ..

theorem topoLVMVolumeSnapshotClass_ensureCreated_uses (cluster : LVMCluster) :
    (topoLVMVolumeSnapshotClass.ensureCreated cluster).run.Uses
      (Within (applyEffects .volumeSnapshotClass)) :=
  .run_forM fun _ _ =>
    .run_bind (.run_mapError (Client.createOrUpdate_uses ..)) fun _ => trivial

theorem topoLVMVolumeSnapshotClass_ensureDeleted_uses (cluster : LVMCluster) :
    (topoLVMVolumeSnapshotClass.ensureDeleted cluster).run.Uses
      (Within [.read, .delete .volumeSnapshotClass]) :=
  .run_forM fun _ _ => deleteClass_uses ..

theorem vgManager_ensureCreated_uses (cluster : LVMCluster) :
    (r.vgManager.ensureCreated cluster).run.Uses (Within (applyEffects .daemonSet)) :=
  .run_bind (.run_mapError trivial) fun _ =>
    .run_bind (.run_mapError (Client.createOrUpdateObject_uses ..)) fun _ =>
      .run_mapError trivial

theorem vgManager_ensureDeleted_uses (cluster : LVMCluster) :
    (r.vgManager.ensureDeleted cluster).run.Uses
      (Within [.read, .delete .daemonSet]) := by
  refine .run_bind (deleteDaemonSet_uses _) fun _ =>
    .run_bind (verifyDaemonSetDeleted_uses _) fun _ =>
      .run_bind (.run_mapError (within (Client.list_uses _) (by simp))) fun pods => ?_
  dsimp only
  split <;> trivial

theorem otherManager_ensureCreated_uses (name : String) (cluster : LVMCluster) :
    ((otherManager name).ensureCreated cluster).run.Uses (Within [.otherManager]) :=
  call_uses _ (.head _)

theorem otherManager_ensureDeleted_uses (name : String) (cluster : LVMCluster) :
    ((otherManager name).ensureDeleted cluster).run.Uses (Within [.otherManager]) :=
  call_uses _ (.head _)

/-! ## Reconciliation -/

/-- The classes of the calls of all managers that create their resources. -/
def createEffects : List Effect :=
  [.read, .otherManager, .applyStorageClass, .create .daemonSet, .update .daemonSet,
    .create .volumeGroup, .update .volumeGroup, .create .nodeStatus,
    .update .nodeStatus, .create .volumeSnapshotClass, .update .volumeSnapshotClass]

/-- The classes of the calls of all managers that delete their resources. -/
def deletionEffects : List Effect :=
  [.read, .otherManager, .delete .volumeGroup, .delete .daemonSet, .delete .nodeStatus,
    .update .nodeStatus, .delete .storageClass, .delete .volumeSnapshotClass]

theorem ensureCreated_uses
    (cluster : LVMCluster)
    (manager : Manager)
    (member : manager ∈ r.resources) :
    (manager.ensureCreated cluster).run.Uses (Within createEffects) := by
  simp only [resources, List.mem_append, List.mem_cons, List.mem_ite_nil_right,
    List.not_mem_nil, or_false] at member
  rcases member with ((rfl | rfl | rfl | rfl | rfl | rfl | rfl | rfl) | ⟨_, rfl⟩) |
    ⟨_, rfl⟩
  · exact within (otherManager_ensureCreated_uses ..) (by decide)
  · exact within (otherManager_ensureCreated_uses ..) (by decide)
  · exact within (vgManager_ensureCreated_uses ..) (by decide)
  · exact within (lvmVGs_ensureCreated_uses ..) (by decide)
  · exact within (lvmVGNodeStatus_ensureCreated_uses ..) (by decide)
  · exact within (topoLVMStorageClass_ensureCreated_uses ..) (by decide)
  · exact within (otherManager_ensureCreated_uses ..) (by decide)
  · exact within (otherManager_ensureCreated_uses ..) (by decide)
  · exact within (otherManager_ensureCreated_uses ..) (by decide)
  · exact within (topoLVMVolumeSnapshotClass_ensureCreated_uses ..) (by decide)

theorem ensureDeleted_uses
    (cluster : LVMCluster)
    (manager : Manager)
    (member : manager ∈ r.resourceDeletionList) :
    (manager.ensureDeleted cluster).run.Uses (Within deletionEffects) := by
  simp only [resourceDeletionList, resourcesAfterStatuses, List.mem_append, List.mem_cons,
    List.mem_ite_nil_right, List.not_mem_nil, or_false] at member
  rcases member with (rfl | rfl) | rfl |
    ((rfl | rfl | rfl | rfl | rfl) | ⟨_, rfl⟩) | ⟨_, rfl⟩
  · exact within (lvmVGs_ensureDeleted_uses ..) (by decide)
  · exact within (vgManager_ensureDeleted_uses ..) (by decide)
  · exact within (lvmVGNodeStatus_ensureDeleted_uses ..) (by decide)
  · exact within (topoLVMStorageClass_ensureDeleted_uses ..) (by decide)
  · exact within (otherManager_ensureDeleted_uses ..) (by decide)
  · exact within (otherManager_ensureDeleted_uses ..) (by decide)
  · exact within (otherManager_ensureDeleted_uses ..) (by decide)
  · exact within (otherManager_ensureDeleted_uses ..) (by decide)
  · exact within (otherManager_ensureDeleted_uses ..) (by decide)
  · exact within (topoLVMVolumeSnapshotClass_ensureDeleted_uses ..) (by decide)

theorem createResources_uses (cluster : LVMCluster) :
    (r.createResources cluster).Uses (Within createEffects) := by
  unfold createResources
  refine .interleaveAll (by decide : Request.turn.effect ∈ createEffects) ?_
  intro program member
  obtain ⟨manager, managerMember, rfl⟩ := List.mem_map.mp member
  exact r.ensureCreated_uses cluster manager managerMember

theorem warningEvent_uses (cluster : LVMCluster) (reason : String) (err : GoError) :
    (warningEvent cluster reason err).Uses (Within [.read, .report]) :=
  within (eventf_uses ..) (by simp)

theorem normalEvent_uses (cluster : LVMCluster) (reason message : String) :
    (r.normalEvent cluster reason message).Uses (Within [.read, .report]) := by
  unfold normalEvent
  split
  · exact within (eventf_uses ..) (by simp)
  · trivial

theorem withVolumeGroupStatus_uses (cluster : LVMCluster) :
    (r.withVolumeGroupStatus cluster).run.Uses (Within [.read, .report]) := by
  dsimp only [withVolumeGroupStatus]
  split
  · trivial
  · exact .run_bind (.run_mapError (within (Client.list_uses _) (by simp))) fun _ =>
      .run_bind (.run_mapError (within (Client.list_uses _) (by simp))) fun _ =>
        .run_bind (.run_lift (.bind (within (mapOrder_uses _) (by simp))
          fun _ => trivial)) fun _ => trivial

theorem updateLVMClusterStatus_uses (cluster : LVMCluster) :
    (r.updateLVMClusterStatus cluster).run.Uses
      (Within [.read, .report, .updateStatus]) :=
  .run_bind (within (r.withVolumeGroupStatus_uses _) (by simp)) fun _ =>
    .run_mapError (within (Client.updateStatus_uses _) (by simp))

theorem deleteIfPresent_uses (kind : Kind) (getError deleteError name : String) :
    (deleteIfPresent kind getError deleteError name).run.Uses
      (Within [.read, .delete kind]) := by
  refine .run_bind (.run_attempt (within (Client.get_uses ..) (by simp))) fun found => ?_
  cases found with
  | error err =>
      dsimp only
      split <;> trivial
  | ok existing =>
      dsimp only
      split
      · exact .run_mapError (within (Client.delete_uses ..) (by simp))
      · trivial

/-- The classes of the calls that clean up after device classes that are gone. -/
def orphanEffects : List Effect :=
  [.read, .delete .storageClass, .delete .volumeSnapshotClass, .delete .volumeGroup]

theorem deleteOrphan_uses (currentVG : LVMVolumeGroup) :
    (r.deleteOrphan currentVG).run.Uses (Within orphanEffects) := by
  have last : (if currentVG.metadata.deletionTimestamp.isNone then
      Fallible.mapError
        (GoError.wrapped ("failed to delete orphaned LVMVolumeGroup " ++
          currentVG.name))
        (Client.delete .volumeGroup currentVG.name)
      else pure () : Go Unit).run.Uses (Within orphanEffects) := by
    split
    · exact .run_mapError (within (Client.delete_uses ..) (by decide))
    · trivial
  refine .run_bind (within (deleteIfPresent_uses ..) (by decide)) fun _ => ?_
  dsimp only
  split
  · exact .run_bind (within (deleteIfPresent_uses ..) (by decide)) fun _ => last
  · exact last

theorem checkForDeletedDeviceClasses_uses (cluster : LVMCluster) :
    (r.checkForDeletedDeviceClasses cluster).run.Uses (Within orphanEffects) :=
  .run_bind (.run_mapError (within (Client.list_uses _) (by decide))) fun _ =>
    .run_forM fun _ _ => r.deleteOrphan_uses _

end Operator
end Lvms
