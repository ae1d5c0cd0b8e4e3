import Lvms.System.RetainedData
import Lvms.VgManager.ForceWipe

/-!
# How logical volumes are lost

Many commands change the disks of a node, and each node has a vg-manager that reconciles all
volume groups. A logical volume is lost when it is removed, and also when a device under it is
wiped. The vg-manager of its node removes it only when it handles the deletion of its own
volume group, and under a storage class that retains volumes only the thin pool. It wipes only
for a volume group that is to be wiped by force, which can be another one.
-/

namespace Lvms

open Interaction Interaction.Program

/-! ## Calls that remove a logical volume -/

/-- A host has a logical volume. -/
def HasVolume (host : Host) (vgName lvName : String) : Prop :=
  ∃ lv ∈ host.logicalVolumes, lv.vgName = vgName ∧ lv.name = lvName

instance (host : Host) (vgName lvName : String) : Decidable (HasVolume host vgName lvName) :=
  inferInstanceAs (Decidable (∃ lv ∈ host.logicalVolumes, _))

/-- The call removes a logical volume, alone or with its volume group. -/
def removesVolume (vgName lvName : String) : Request → Bool
  | .command (.lvremove group name) => group == vgName && name == lvName
  | .command (.vgremove group) => group == vgName
  | _ => false

/-- A call that removes a logical volume destroys data of its volume group. -/
theorem destroys_of_removesVolume
    {vgName lvName : String}
    {request : Request}
    (removes : removesVolume vgName lvName request = true) :
    destroys vgName request = true := by
  unfold removesVolume at removes
  split at removes
  · exact (Bool.and_eq_true_iff.mp removes).1
  · exact removes
  · cases removes

section Calls

variable {vgName lvName : String} {choice : Choice} {host : Host}

/-- A logical volume that is changed is still there. -/
theorem HasVolume.alterLV
    {group name : String}
    {change : LogicalVolume → LogicalVolume}
    (there : HasVolume host vgName lvName)
    (keeps : ∀ lv, (change lv).vgName = lv.vgName ∧ (change lv).name = lv.name) :
    ∃ lv ∈ host.alterLV group name change, lv.vgName = vgName ∧ lv.name = lvName := by
  obtain ⟨lv, member, sameGroup, sameName⟩ := there
  refine ⟨_, List.mem_map_of_mem member, ?_⟩
  split
  · rw [(keeps lv).1, (keeps lv).2]
    exact ⟨sameGroup, sameName⟩
  · exact ⟨sameGroup, sameName⟩

/-- A command that does not remove a logical volume keeps it. -/
theorem HasVolume.execute
    {command : Command}
    (there : HasVolume host vgName lvName)
    (keeps : removesVolume vgName lvName (.command command) = false) :
    HasVolume (host.execute choice command).2 vgName lvName := by
  cases failure : choice.failure with
  | some text =>
      simp only [Host.execute, failure, Host.afterFailure]
      split <;> exact there
  | none =>
      simp only [Host.execute, failure]
      cases command with
      | vgcreate =>
          simp only [Host.apply]
          split <;> exact there
      | removeFile =>
          simp only [Host.apply]
          split <;> exact there
      | vgextend | vgreduce | pvremove | vgchangeDeactivate | lvmdevicesDelpvid | wipefs
      | dmsetupRemove | writeFile => exact there
      | lvextend | lvextendMetadata | lvchangeActivate | lvchangeDeactivate =>
          exact there.alterLV fun _ => ⟨rfl, rfl⟩
      | lvcreate =>
          obtain ⟨lv, member, isVolume⟩ := there
          exact ⟨lv, List.mem_append_left _ member, isVolume⟩
      | lvremove group name =>
          obtain ⟨lv, member, rfl, rfl⟩ := there
          refine ⟨lv, List.mem_filter.mpr ⟨member, ?_⟩, rfl, rfl⟩
          simp only [removesVolume, Bool.and_eq_false_iff, beq_eq_false_iff_ne] at keeps
          simp only [Bool.not_eq_true', Bool.and_eq_false_iff, beq_eq_false_iff_ne]
          exact keeps.imp Ne.symm Ne.symm
      | vgremove group =>
          obtain ⟨lv, member, rfl, rfl⟩ := there
          refine ⟨lv, List.mem_filter.mpr ⟨member, ?_⟩, rfl, rfl⟩
          simp only [removesVolume, beq_eq_false_iff_ne] at keeps
          simpa using Ne.symm keeps

/-- A call that loses a logical volume was made on its host and removes it. -/
theorem removesVolume_of_lost
    {node owner : String}
    {world : World}
    {request : Request}
    (there : HasVolume (world.host owner) vgName lvName)
    (lost : ¬HasVolume ((World.respond node choice world request).2.host owner) vgName
      lvName) :
    node = owner ∧ removesVolume vgName lvName request = true := by
  cases request with
  | command command =>
      simp only [World.respond, World.setHost] at lost
      by_cases same : owner = node
      · subst same
        rw [Function.update_self] at lost
        refine ⟨rfl, ?_⟩
        by_contra keeps
        exact lost (there.execute (by simpa using keeps))
      · rw [Function.update_of_ne same] at lost
        exact absurd there lost
  | otherManager =>
      simp only [World.respond] at lost
      split at lost <;> exact absurd there lost
  | _ => exact absurd there lost

end Calls

/-! ## The ways to lose a logical volume -/

/-- A call removes a logical volume because the volume group object is being deleted. What
a stored class retains is not removed. -/
structure RemovedByDeletion
    (node vgName lvName : String)
    (event : Event sig World) : Prop where
  removes : removesVolume vgName lvName event.request = true
  there : HasVolume (event.before.host node) vgName lvName
  deleted : ∃ vg, event.before.api.find? .volumeGroup vgName = some vg ∧
    vg.metadata.deletionTimestamp.isSome ∧
    (Retains vg event.before → ∃ config, vg.spec.thinPoolConfig = some config ∧
      lvName = config.name)

/-- The call wipes a physical volume of a volume group or removes a device-mapper reference
on top of it. -/
def WipesGroup (node vgName : String) (event : Event sig World) : Prop :=
  ∃ device, IsMember (event.before.host node) vgName device ∧ wipes node device event = true

/-- A call wipes a physical volume because a volume group asks for it, which has not been
wiped on the node yet. -/
structure WipedByForce (node vgName : String) (event : Event sig World) : Prop where
  wiped : WipesGroup node vgName event
  asked : ∃ name vg, event.before.api.find? .volumeGroup name = some vg ∧
    vg.metadata.deletionTimestamp = none ∧ IsForced vg ∧ ¬IsMarked node vg

section Reconciliation

variable {r : Reconciler} {vg : LVMVolumeGroup} {node : String} {world after : World}
variable {events : List (Event sig World)}
variable {event : Event sig World}

/-- A reconciliation that loses a logical volume of its node handles the deletion of the
volume group. -/
theorem ReconcileStep.removes
    {name owner vgName lvName : String}
    (step : ReconcileStep r name world events after)
    (there : HasVolume (world.host owner) vgName lvName)
    (lost : ¬HasVolume (after.host owner) vgName lvName) :
    r.nodeName = owner ∧ ∃ event ∈ events, RemovedByDeletion owner vgName lvName event := by
  obtain ⟨_, request⟩ := step
  obtain ⟨event, member, isThere, choice, -, isLost⟩ := Exec.exists_breaking
    (fun world => HasVolume (world.host owner) vgName lvName) request there lost
  obtain ⟨rfl, removes⟩ := removesVolume_of_lost isThere isLost
  refine ⟨rfl, event, member, removes, isThere, ?_⟩
  have destroyed := destroys_of_removesVolume removes
  have step : ReconcileStep r name world events after := ⟨_, request⟩
  obtain ⟨vg, rest, _, -, -, marked, deleting, late, stored⟩ := step.deleting member destroyed
  refine ⟨vg, stored, marked, fun retains => ?_⟩
  have retained : Retains vg (world.withNewResolver r.nodeName) := by
    rw [Retains, ApiServer.find?, Exec.objects_throughout deleting (r.processDelete_uses vg)
      (by decide) event late] at retains
    exact retains
  have noVolumes := Reconciler.processDelete_spares deleting (.inl retained) late
    (effect_of_destroys destroyed)
  obtain ⟨lv, isVolume, sameGroup, rfl⟩ := isThere
  have named : vg.name = vgName := ApiServer.nameOf_of_find? stored
  exact userVolumes_eq_nil_iff.mp noVolumes lv isVolume (sameGroup.trans named.symm)

/-- Devices are only wiped for a volume group that asks for it, which is stored as it was
read. -/
theorem Reconciler.reconcile_wipes
    {result : Except GoError Result}
    (ran : Exec (environment node) (r.reconcile vg).run world events result after)
    (member : event ∈ events)
    (isWipe : event.request.effect = .wipe) :
    vg.metadata.deletionTimestamp = none ∧
      shouldWipeDevicesOnVolumeGroup r.nodeName vg = true ∧
      event.before.api.objects .volumeGroup = world.api.objects .volumeGroup := by
  have outside {effects : List Effect} (absent : .wipe ∉ effects) :
      ¬Within effects event.request := by
    rwa [Within, isWipe]
  have asked : shouldWipeDevicesOnVolumeGroup r.nodeName vg = true := by
    by_contra spared
    have uses := r.reconcile_uses_of_spared (Bool.eq_false_iff.mpr spared)
    exact outside (by decide) (uses.events_allowed ran event member)
  dsimp only [reconcile] at ran
  split at ran
  · obtain ⟨_, -, deletes⟩ := Exec.run_bind_pure_iff.mp ran
    exact absurd ((r.processDelete_uses vg).events_allowed deletes event member)
      (outside (by decide))
  rename_i unmarked
  refine ⟨Option.not_isSome_iff_eq_none.mp unmarked, asked, ?_⟩
  split at ran
  · obtain ⟨_, -, updates⟩ := Exec.run_bind_pure_iff.mp ran
    exact absurd ((Client.update_uses ..).events_allowed updates event member)
      (outside (by decide))
  -- The block devices and the volume groups are listed before anything is wiped.
  obtain ⟨_, _, _, _, lists, ran, -, member⟩ :=
    (Uses.run_mapError (query_uses _)).run_bind_reached ran member (outside (by decide))
  obtain ⟨_, _, _, _, refreshes, ran, -, member⟩ :=
    refreshVGs_uses.run_bind_reached ran member (outside (by decide))
  rw [← (Exec.frame lists (.run_mapError (query_uses _))).objects .volumeGroup (by decide),
    ← (Exec.frame refreshes refreshVGs_uses).objects .volumeGroup (by decide)]
  split at ran
  · obtain ⟨_, _, _, _, -, ran, -, member⟩ :=
      (Uses.run_lift (r.warningEvent_uses ..)).run_bind_reached ran member
        (outside (by decide))
    obtain ⟨_, -, reports⟩ := Exec.run_bind_pure_iff.mp ran
    exact absurd ((Uses.run_lift (r.reportFailure_uses ..)).events_allowed reports event
      member) (outside (by decide))
  have wipeUses (devices : List BlockDevice) : (Fallible.mapError
      (GoError.wrapped "failed to wipe devices") (wipeDevices r.nodeName vg devices)).run.Uses
      (Within [.read, .resolve, .wipe]) :=
    .run_mapError (wipeDevices_uses ..)
  rcases Exec.run_bind_iff.mp ran with
    ⟨_, -, wiping⟩ | ⟨wiped, _, _, _, wiping, rest, rfl⟩
  · exact Exec.objects_throughout wiping (wipeUses _) (by decide) event member
  rcases List.mem_append.mp member with early | late
  · exact Exec.objects_throughout wiping (wipeUses _) (by decide) event early
  cases wiped with
  | some annotated =>
      obtain ⟨_, -, updates⟩ := Exec.run_bind_pure_iff.mp rest
      exact absurd ((Client.update_uses ..).events_allowed updates event late)
        (outside (by decide))
  | none =>
      exact absurd ((r.reconcileDevices_uses ..).events_allowed rest event late)
        (outside (by decide))

/-- A reconciliation that wipes a physical volume was asked to wipe by force. -/
theorem ReconcileStep.wiped
    {name vgName : String}
    (step : ReconcileStep r name world events after)
    (member : event ∈ events)
    (wiped : WipesGroup r.nodeName vgName event) :
    WipedByForce r.nodeName vgName event := by
  refine ⟨wiped, name, ?_⟩
  obtain ⟨device, -, isWiped⟩ := wiped
  have isWipe : event.request.effect = .wipe := by
    by_contra other
    simp [wipes_of_effect other] at isWiped
  obtain ⟨first, rest, rfl, reads, stopsOr⟩ := step.cases
  rcases List.mem_append.mp member with early | late
  · have reading := reads event early
    simp [isWipe] at reading
  rcases stopsOr with ⟨rfl, -⟩ | ⟨vg, result, found, ran⟩
  · cases late
  obtain ⟨unmarked, asked, sameGroups⟩ := r.reconcile_wipes ran late isWipe
  obtain ⟨forced, unwiped⟩ := shouldWipe_iff.mp asked
  refine ⟨vg, ?_, unmarked, forced, unwiped⟩
  rw [ApiServer.find?, sameGroups]
  exact found

end Reconciliation

/-! ## Whole runs -/

/-- No logical volume disappears. -/
def VolumesKept (before after : World) : Prop :=
  ∀ node vgName lvName, HasVolume (before.host node) vgName lvName →
    HasVolume (after.host node) vgName lvName

/-- A program that does not touch the disks keeps the logical volumes. -/
theorem volumesKept_of_frame
    {effects : List Effect}
    {before after : World}
    (frame : Frame effects before after)
    (untouched : ∀ effect ∈ effects, effect.touchesDisks = false) :
    VolumesKept before after := by
  intro node vgName lvName there
  have sameDisks := congrArg Host.logicalVolumes (frame.disks untouched node)
  have same : (after.host node).logicalVolumes = (before.host node).logicalVolumes := sameDisks
  rwa [HasVolume, same]

/-- One action of the system, where the surroundings remove no logical volume. -/
def System.KeepingStep
    (system : System)
    (before : World)
    (occurrences : List Occurrence)
    (after : World) : Prop :=
  ∃ action, system.Step before action occurrences after ∧
    (action = .change → VolumesKept before after)

section Actions

variable {system : System} {before after : World} {occurrences : List Occurrence}
variable {node vgName lvName : String}

/-- An action that loses a logical volume is a reconciliation by the vg-manager of its
node. -/
theorem System.KeepingStep.removed
    (step : system.KeepingStep before occurrences after)
    (there : HasVolume (before.host node) vgName lvName)
    (lost : ¬HasVolume (after.host node) vgName lvName) :
    ∃ event, .call (.vgManager node) event ∈ occurrences ∧
      RemovedByDeletion node vgName lvName event := by
  obtain ⟨action, step, keeps⟩ := step
  have absurdIf (kept : VolumesKept before after) : False := lost (kept _ _ _ there)
  cases step with
  | create _ _ ran =>
      have frame : Frame [.create .lvmCluster] before after :=
        Exec.frame ran (call_uses _ (List.mem_singleton_self _))
      exact (absurdIf (volumesKept_of_frame frame (by decide))).elim
  | update _ _ _ _ ran =>
      have frame := Exec.frame ran (Client.update_uses ..)
      exact (absurdIf (volumesKept_of_frame frame (by decide))).elim
  | delete ran =>
      have frame := Exec.frame ran (Client.delete_uses ..)
      exact (absurdIf (volumesKept_of_frame frame (by decide))).elim
  | operator ran =>
      have frame := Exec.frame ran (Operator.reconcileRequest_uses _)
      exact (absurdIf (volumesKept_of_frame frame (by decide))).elim
  | change => exact (absurdIf (keeps rfl)).elim
  | vgManager step =>
      obtain ⟨isManager, event, member, removed⟩ := step.removes there lost
      rw [system.nodeName_vgManager] at isManager
      subst isManager
      exact ⟨event, List.mem_map_of_mem member, removed⟩

/-- All wipes of physical volumes are asked for. -/
theorem System.KeepingStep.wiped
    {event : Event sig World}
    (step : system.KeepingStep before occurrences after)
    (member : .call (.vgManager node) event ∈ occurrences)
    (wiped : WipesGroup node vgName event) :
    WipedByForce node vgName event := by
  obtain ⟨action, step, -⟩ := step
  cases step with
  | @vgManager manager _ _ _ step =>
      obtain ⟨_, inEvents, same⟩ := List.mem_map.mp member
      injection same with isActor isEvent
      injection isActor with isManager
      subst isManager isEvent
      rw [← system.nodeName_vgManager manager] at wiped
      have byForce := step.wiped inEvents wiped
      rwa [system.nodeName_vgManager] at byForce
  | _ => simp at member

end Actions

end Lvms
