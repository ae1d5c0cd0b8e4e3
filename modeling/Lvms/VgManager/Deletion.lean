import Lvms.Interaction.History
import Lvms.Steady
import Lvms.VgManager.Footprint

/-!
# Cleaning up a deleted volume group

What `processDelete` leaves behind on the node when it removes the finalizer of
the node, and when a reconciliation of a deleted volume group gets that far.
-/

namespace Lvms

open Interaction

variable {name node : String}

/-! ## The disks -/

/-- The tagged volume group is there, and those of the devices that carry a label
belong to it. -/
structure Intact (name : String) (devices : List String) (host : Host) :
    Prop where
  tagged : ∃ row ∈ host.volumeGroups, row.name = name ∧
    row.tags.contains defaultTag = true
  members : ∀ pv ∈ host.physicalVolumes, pv.pvName ∈ devices → pv.vgName = name

/-- Nothing is left of the volume group: no logical volume, and no label on its
devices. -/
structure Gone (name : String) (devices : List String) (host : Host) :
    Prop where
  volumeGroup : ∀ row ∈ host.volumeGroups, row.name ≠ name
  logicalVolumes : ∀ lv ∈ host.logicalVolumes, lv.vgName ≠ name
  labels : ∀ pv ∈ host.physicalVolumes, pv.pvName ∉ devices

/-- The volume group has not been touched or is gone as a whole. -/
def Whole (name : String) (devices : List String) (host : Host) : Prop :=
  Intact name devices host ∨ Gone name devices host

/-- It stays gone while the disks are the same. -/
theorem Gone.of_disks
    {devices : List String}
    {host host' : Host}
    (gone : Gone name devices host)
    (same : host'.disks = host.disks) :
    Gone name devices host' where
  volumeGroup := (congrArg Host.volumeGroups same :) ▸ gone.volumeGroup
  logicalVolumes := (congrArg Host.logicalVolumes same :) ▸ gone.logicalVolumes
  labels := (congrArg Host.physicalVolumes same :) ▸ gone.labels

theorem Whole.of_disks
    {devices : List String}
    {host host' : Host}
    (whole : Whole name devices host)
    (same : host'.disks = host.disks) :
    Whole name devices host' := by
  rcases whole with intact | gone
  · left
    exact {
      tagged := (congrArg Host.volumeGroups same :) ▸ intact.tagged
      members := (congrArg Host.physicalVolumes same :) ▸ intact.members }
  · exact .inr (gone.of_disks same)

/-- No `pvremove` and no write of the configuration of lvmd fails. -/
def completed (event : Event sig World) : Bool :=
  match event.request with
  | .command (.pvremove _) | .command (.writeFile _) => !hostFailed event
  | _ => true

section Disks

variable {node : String} {world : World} {devices : List String}
variable {assumes : Event sig World → Prop} {name : String} {host : Host}
variable {existing : VolumeGroup}

/-- A failing `pvremove` is not complete. -/
theorem not_completed_pvremove
    {choice : Choice}
    {text : String}
    {pvs : List String}
    (failure : choice.failure = some text)
    (assumed : completed
      ((environment node).event choice world (.command (.pvremove pvs)))) :
    False := by
  simp [completed, Environment.event, environment, World.respond, Host.execute,
    failure, hostFailed] at assumed

/-- Cleaning the devices file leaves the disks alone. -/
theorem Lvm.deletePVIDs_wp
    (vgName : String)
    (pvs : List PhysicalVolume) :
    wp (environment node) (.assuming assumes) (Lvm.deletePVIDs vgName pvs).run
      (fun _ after => after.host node = world.host node) world := by
  induction pvs generalizing world with
  | nil => rfl
  | cons pv rest inductionHypothesis =>
      simp only [Lvm.deletePVIDs, wp.run_bind_iff, wp.run_attempt_iff]
      refine wp_command_cases (fun choice text _ _ => ?_) (fun choice => ?_)
      · refine ⟨by simp, ?_⟩
        rintro _ ⟨⟩
        simp only [Host.afterFailure, World.setHost_self]
        split
        · exact inductionHypothesis
        · rfl
      · refine ⟨by simp [Host.apply], ?_⟩
        rintro _ ⟨⟩
        simpa [Host.apply] using inductionHypothesis

/-- `vgremove` and `pvremove` of all its devices leave nothing of a volume
group. -/
theorem gone_of_removed
    {pvs : List String}
    (first second : Choice)
    (covered : ∀ pv ∈ host.physicalVolumes, pv.pvName ∈ devices →
      pv.pvName ∈ pvs) :
    Gone name devices
      ((host.apply first (.vgremove name)).2.apply second (.pvremove pvs)).2 where
  volumeGroup := by simp [Host.apply]
  logicalVolumes := by simp [Host.apply]
  labels := by
    intro pv member selected
    simp only [Host.apply, Host.unlabel, Host.release, List.mem_filter,
      List.mem_map] at member
    obtain ⟨⟨old, oldMember, rfl⟩, kept⟩ := member
    have sameName : (if old.vgName == name then { old with vgName := "" }
        else old).pvName = old.pvName := by
      split <;> rfl
    rw [sameName] at selected kept
    simp [covered old oldMember selected] at kept

/-- `DeleteVG` ends with the volume group untouched or gone. -/
theorem Lvm.deleteVG_wp
    {vg : VolumeGroup}
    (intact : Intact vg.name devices (world.host node))
    (covered : ∀ pv ∈ (world.host node).physicalVolumes, pv.pvName ∈ devices →
      pv.pvName ∈ vg.pvs.map (·.pvName)) :
    wp (environment node) (.assuming (completed ·)) (Lvm.deleteVG vg).run
      (fun result after => Whole vg.name devices (after.host node) ∧
        (result = .ok () → Gone vg.name devices (after.host node)))
      world := by
  have untouched : Whole vg.name devices (world.host node) := .inl intact
  simp only [Lvm.deleteVG, wp.run_bind_iff, wp.run_mapError_iff]
  -- a failing `vgchange` or `vgremove` changes nothing
  refine wp_command_cases (fun _ _ _ _ => ?_) (fun _ => ?_)
  · simpa [Except.mapError, Host.afterFailure] using untouched
  refine ⟨by simp [Host.apply, Except.mapError], fun _ _ => ?_⟩
  simp only [Host.apply, World.setHost_self]
  refine wp_command_cases (fun _ _ _ _ => ?_) (fun removal => ?_)
  · simpa [Except.mapError, Host.afterFailure] using untouched
  refine ⟨by simp [Host.apply, Except.mapError], fun _ _ => ?_⟩
  refine wp_command_cases (fun _ _ failure assumed => ?_) (fun unlabelling => ?_)
  · exact (not_completed_pvremove failure assumed).elim
  refine ⟨by simp [Host.apply, Except.mapError], fun _ _ => ?_⟩
  have gone : Gone vg.name devices _ :=
    gone_of_removed removal unlabelling covered
  refine (Lvm.deletePVIDs_wp ..).mono ?_
  intro result after same
  rw [same, World.setHost_host, World.setHost_host]
  exact ⟨.inr gone, fun _ => gone⟩

/-- The volume groups and physical volumes of a node are the same. -/
def SameMembers (node : String) (before after : World) : Prop :=
  (after.host node).volumeGroups = (before.host node).volumeGroups ∧
    (after.host node).physicalVolumes = (before.host node).physicalVolumes

theorem Frame.sameMembers
    {effects : List Effect}
    {before after : World}
    (frame : Frame effects before after)
    (node : String)
    (untouched : ∀ effect ∈ effects, effect.touchesDisks = false) :
    SameMembers node before after :=
  have same := frame.disks untouched node
  ⟨(congrArg Host.volumeGroups same :), (congrArg Host.physicalVolumes same :)⟩

/-- Removing a logical volume leaves the volume groups and their devices
alone. -/
theorem Lvm.deleteLV_wp
    (lvName vgName : String) :
    wp (environment node) (.assuming assumes) (Lvm.deleteLV lvName vgName).run
      (fun _ after => SameMembers node world after) world := by
  simp only [Lvm.deleteLV, wp.run_bind_iff, wp.run_mapError_iff]
  have checked : wp (environment node) (.assuming assumes)
      (Lvm.checkNames "delete logical volume" lvName vgName).run
      (fun _ after => after = world) world := by
    dsimp only [Lvm.checkNames]
    split
    · rfl
    · split <;> rfl
  refine checked.mono ?_
  rintro result after rfl
  refine ⟨fun _ _ => ⟨rfl, rfl⟩, fun _ _ => ?_⟩
  refine wp_command_cases (fun _ _ _ _ => ?_) (fun _ => ?_)
  · simp [Except.mapError, Host.afterFailure, SameMembers]
  refine ⟨by simp [Host.apply, Except.mapError], fun _ _ => ?_⟩
  refine wp_command_cases (fun _ _ _ _ => ?_) (fun _ => ?_)
  · simp [Host.afterFailure, SameMembers, Host.apply]
  · simp [SameMembers, Host.apply]

variable {r : Reconciler} {vg : LVMVolumeGroup}

/-- The deletion of the pool keeps the members. -/
theorem Reconciler.deleteThinPool_wp
    (vgs : List VolumeGroup)
    (config : ThinPoolConfig) :
    wp (environment node) (.assuming assumes) (r.deleteThinPool vg vgs config).run
      (fun _ after => SameMembers node world after) world := by
  simp only [Reconciler.deleteThinPool, wp.run_bind_iff, wp.run_mapError_iff]
  refine (wp_frame (Lvm.lvExists_uses ..)).mono ?_
  intro result listed frame
  have same := frame.sameMembers node (by decide)
  refine ⟨fun _ _ => same, fun found _ => ?_⟩
  split
  · simp only [wp.run_bind_iff, wp.run_attempt_iff]
    refine (Lvm.deleteLV_wp ..).mono ?_
    intro removed after sameAfter
    refine ⟨by simp, ?_⟩
    rintro _ ⟨⟩
    cases removed with
    | ok _ => exact ⟨sameAfter.1.trans same.1, sameAfter.2.trans same.2⟩
    | error error =>
        simp only [wp.run_bind_iff, wp.run_lift_iff]
        refine (wp_frame (r.reportFailure_uses ..)).mono ?_
        intro _ reported frame
        have sameReported := frame.sameMembers node (by decide)
        exact ⟨by simp, fun _ _ => ⟨sameReported.1.trans (sameAfter.1.trans same.1),
          sameReported.2.trans (sameAfter.2.trans same.2)⟩⟩
  · exact same

/-- The volume groups of a host that `ListVGs` reports. -/
def lvmsVGs (host : Host) : List VolumeGroup :=
  Lvm.assembleVGs
    (host.volumeGroups.filter fun row => row.tags.contains defaultTag)
    host.physicalVolumes

/-- `ListVGs` reports the tagged volume groups of the host. -/
theorem Lvm.listVGs_wp
    {assumes : Event sig World → Prop} :
    wp (environment node) (.assuming assumes) (Lvm.listVGs true).run
      (fun result after => after = world ∧
        ∀ vgs, result = .ok vgs → vgs = lvmsVGs (world.host node)) world := by
  simp only [Lvm.listVGs, Lvm.listPVs, wp.run_bind_iff, wp.run_mapError_iff]
  refine wp_query_of_report (fun _ => ?_) ?_
  · simp [Except.mapError]
  refine ⟨by simp [Host.report, Except.mapError], ?_⟩
  rintro _ ⟨⟩
  refine wp_query_of_report (fun _ => ?_) ?_
  · simp [Except.mapError]
  · simp [Host.report, Except.mapError, lvmsVGs]

/-- A volume group that `ListVGs` reports is tagged, and comes with its
devices. -/
theorem find_lvmsVGs
    (found : (lvmsVGs host).find? (·.name == name) = some existing) :
    existing.name = name ∧
      (∃ row ∈ host.volumeGroups, row.name = name ∧
        row.tags.contains defaultTag = true) ∧
      ∀ pv ∈ host.physicalVolumes, pv.vgName = name → pv ∈ existing.pvs := by
  have named : existing.name = name := by simpa using List.find?_some found
  have member := List.mem_of_find?_eq_some found
  simp only [lvmsVGs, Lvm.assembleVGs, List.mem_map, List.mem_filter] at member
  obtain ⟨row, ⟨rowMember, tagged⟩, rfl⟩ := member
  refine ⟨named, ⟨row, rowMember, named, tagged⟩, fun pv pvMember inGroup => ?_⟩
  have rowNamed : row.name = name := named
  simp [pvMember, inGroup, rowNamed]

/-- A volume group that `ListVGs` does not report has no tag. -/
theorem untagged_of_find_lvmsVGs
    (absent : (lvmsVGs host).find? (·.name == name) = none) :
    ¬∃ row ∈ host.volumeGroups, row.name = name ∧
      row.tags.contains defaultTag = true := by
  rintro ⟨row, member, named, tagged⟩
  refine List.find?_eq_none.mp absent _ (List.mem_map_of_mem
    (List.mem_filter.mpr ⟨member, tagged⟩)) ?_
  simpa using named

theorem Reconciler.deleteVolumeGroup_wp
    {vgs : List VolumeGroup}
    (intact : Intact existing.name devices (world.host node))
    (covered : ∀ pv ∈ (world.host node).physicalVolumes, pv.pvName ∈ devices →
      pv.pvName ∈ existing.pvs.map (·.pvName)) :
    wp (environment node) (.assuming (completed ·))
      (r.deleteVolumeGroup vg vgs existing).run
      (fun result after => Whole existing.name devices (after.host node) ∧
        (result = .ok () → Gone existing.name devices (after.host node)))
      world := by
  simp only [Reconciler.deleteVolumeGroup, wp.run_bind_iff, wp.run_attempt_iff]
  refine (Lvm.deleteVG_wp intact covered).mono ?_
  rintro removed after ⟨whole, gone⟩
  refine ⟨by simp, ?_⟩
  rintro _ ⟨⟩
  cases removed with
  | ok _ => exact ⟨whole, fun _ => gone rfl⟩
  | error error =>
      simp only [wp.run_bind_iff, wp.run_lift_iff, wp.run_throw_iff]
      refine (wp_frame (r.reportFailure_uses ..)).mono ?_
      intro _ reported frame
      exact ⟨by simp, fun _ _ =>
        ⟨whole.of_disks (frame.disks (by decide) node), by simp⟩⟩

theorem Reconciler.deleteDisks_wp
    {vgs : List VolumeGroup}
    (intact : Intact existing.name devices (world.host node))
    (covered : ∀ pv ∈ (world.host node).physicalVolumes, pv.pvName ∈ devices →
      pv.pvName ∈ existing.pvs.map (·.pvName)) :
    wp (environment node) (.assuming (completed ·))
      (r.deleteDisks vg vgs existing).run
      (fun result after => Whole existing.name devices (after.host node) ∧
        (result = .ok () → Gone existing.name devices (after.host node)))
      world := by
  dsimp only [Reconciler.deleteDisks]
  split
  · simp only [wp.run_bind_iff]
    refine (Reconciler.deleteThinPool_wp ..).mono ?_
    rintro result after ⟨sameGroups, sameVolumes⟩
    have intactAfter : Intact existing.name devices (after.host node) :=
      ⟨sameGroups ▸ intact.tagged, sameVolumes ▸ intact.members⟩
    exact ⟨fun _ _ => ⟨.inl intactAfter, by simp⟩, fun _ _ =>
      Reconciler.deleteVolumeGroup_wp intactAfter (sameVolumes ▸ covered)⟩
  · exact Reconciler.deleteVolumeGroup_wp intact covered

/-- Cleaning up the disks ends with the volume group untouched or gone, and when
it succeeds the volume group is gone. -/
theorem Reconciler.cleanUpDisks_wp
    (whole : Whole vg.name devices (world.host node)) :
    wp (environment node) (.assuming (completed ·)) (r.cleanUpDisks vg).run
      (fun result after => Whole vg.name devices (after.host node) ∧
        (result = .ok () → Gone vg.name devices (after.host node)))
      world := by
  simp only [Reconciler.cleanUpDisks, wp.run_bind_iff, wp.run_mapError_iff,
    Except.mapError_eq_ok_iff]
  refine Lvm.listVGs_wp.mono ?_
  rintro result after ⟨rfl, listed⟩
  refine ⟨fun _ _ => ⟨whole, by simp⟩, fun vgs succeeded => ?_⟩
  obtain rfl := listed vgs succeeded
  split
  · rename_i absent
    have gone : Gone vg.name devices (after.host node) :=
      whole.resolve_left fun intact =>
        untagged_of_find_lvmsVGs absent intact.tagged
    exact ⟨whole, fun _ => gone⟩
  · rename_i existing found
    obtain ⟨named, ⟨row, rowMember, rowNamed, _⟩, members⟩ := find_lvmsVGs found
    have intact : Intact vg.name devices (after.host node) :=
      whole.resolve_right fun gone => gone.volumeGroup row rowMember rowNamed
    simp only [wp.run_bind_iff]
    refine (wp_frame (r.checkRetained_uses _)).mono ?_
    intro checked middle frame
    have same : middle.host = after.host := frame.host (by decide) (by decide)
    refine ⟨fun _ _ => ⟨.inl (same ▸ intact), by simp⟩, fun _ _ => ?_⟩
    rw [← named] at intact ⊢
    refine Reconciler.deleteDisks_wp (same ▸ intact) ?_
    intro pv member selected
    rw [same] at member
    exact List.mem_map_of_mem (members pv member
      ((intact.members pv member selected).trans named))

end Disks
/-! ## The configuration of lvmd -/

/-- At most one device class has the name. -/
def AtMostOnce (name : String) (config : Lvmd.Config) : Prop :=
  config.deviceClasses.countP (·.name == name) ≤ 1

/-- No device class has the name. -/
def Unlisted (name : String) (config : Lvmd.Config) : Prop :=
  ∀ deviceClass ∈ config.deviceClasses, deviceClass.name ≠ name

/-- Removing the first of at most one leaves none. -/
theorem not_of_mem_eraseP
    {α : Type}
    {selected : α → Bool}
    {values : List α}
    (once : values.countP selected ≤ 1) :
    ∀ value ∈ values.eraseP selected, selected value = false := by
  induction values with
  | nil => simp
  | cons value rest inductionHypothesis =>
      intro other member
      cases isSelected : selected value with
      | true =>
          rw [List.eraseP_cons_of_pos isSelected] at member
          rw [List.countP_cons_of_pos isSelected] at once
          have none : rest.countP selected = 0 := by omega
          simpa using List.countP_eq_zero.mp none other member
      | false =>
          have notSelected : ¬selected value = true := by simp [isSelected]
          rw [List.eraseP_cons_of_neg notSelected] at member
          rw [List.countP_cons_of_neg notSelected] at once
          rcases List.mem_cons.mp member with rfl | later
          · exact isSelected
          · exact inductionHypothesis once other later

/-- After the removal of its only entry, the name is not listed. -/
theorem unlisted_withoutDeviceClass
    {config : Lvmd.Config}
    (once : AtMostOnce name config) :
    Unlisted name (Reconciler.withoutDeviceClass name config) :=
  fun deviceClass member => by
    simpa using not_of_mem_eraseP once deviceClass member

theorem Unlisted.atMostOnce
    {config : Lvmd.Config}
    (unlisted : Unlisted name config) :
    AtMostOnce name config := by
  have none : config.deviceClasses.countP (·.name == name) = 0 :=
    List.countP_eq_zero.mpr fun deviceClass member => by
      simpa using unlisted deviceClass member
  rw [AtMostOnce, none]
  omega

/-- What the cache and the file of a node say while a volume group is cleaned up.
A cache without a file is left behind when the file was deleted with its last
device class. -/
structure LvmdInvariant (node name : String) (world : World) : Prop where
  storedOnce : ∀ config, Lvmd.stored node world = some (.config config) →
    AtMostOnce name config
  cachedOnce : ∀ config, Lvmd.cached node world = some config →
    AtMostOnce name config
  agrees : ∀ config, Lvmd.cached node world = some config →
    Lvmd.stored node world = some (.config config) ∨
      Lvmd.stored node world = none ∧
        (Reconciler.withoutDeviceClass name config).deviceClasses = []

/-- Only the file and the cache matter. -/
theorem LvmdInvariant.of_same
    {before after : World}
    (holds : LvmdInvariant node name before)
    (file : Lvmd.stored node after = Lvmd.stored node before)
    (cache : Lvmd.cached node after = Lvmd.cached node before) :
    LvmdInvariant node name after :=
  ⟨file ▸ holds.storedOnce, cache ▸ holds.cachedOnce,
    file ▸ cache ▸ holds.agrees⟩

section Configuration

variable {node name : String} {world : World} {file : Lvmd.FileConfig}
variable {config : Lvmd.Config}

/-- Loading the configuration keeps the invariant, and what it returns is
cached. -/
theorem load_wp
    {assumes : Event sig World → Prop}
    (holds : LvmdInvariant node name world) :
    wp (environment node) (.assuming assumes)
      (Lvmd.CachedFileConfig.load file).run
      (fun result after => after.host = world.host ∧
        LvmdInvariant node name after ∧
        ∀ loaded, result = .ok loaded → Lvmd.cached node after = loaded ∧
          (loaded = none → Lvmd.stored node after = none))
      world := by
  simp only [Lvmd.CachedFileConfig.load, wp.run_bind_iff, wp.run_lift_iff,
    wp_cachedConfig_iff]
  intro _ _
  refine ⟨by simp, ?_⟩
  rintro _ ⟨⟩
  cases inMemory : (world.memory node).config with
  | some config =>
      refine ⟨rfl, holds, ?_⟩
      rintro _ ⟨⟩
      simp [Lvmd.cached, inMemory]
  | none =>
      simp only [wp.run_bind_iff, wp.run_lift_iff, wp_cacheConfig_iff]
      refine Lvmd.FileConfig.load_wp.mono ?_
      rintro result after ⟨rfl, loaded⟩
      refine ⟨fun _ _ => ⟨rfl, holds, by simp⟩, ?_⟩
      rintro config rfl choice _
      have isStored := loaded config rfl
      refine ⟨by simp, fun _ _ => ⟨rfl, ⟨holds.storedOnce, ?_, ?_⟩, ?_⟩⟩
      · intro other isCached
        have same : config = some other := by simpa [Lvmd.cached] using isCached
        exact holds.storedOnce other (by simpa [same] using isStored)
      · intro other isCached
        have same : config = some other := by simpa [Lvmd.cached] using isCached
        left
        simpa [Lvmd.stored, same] using isStored
      · rintro _ ⟨⟩
        refine ⟨by cases config <;> simp [Lvmd.cached], ?_⟩
        intro missing
        cases config with
        | none => exact isStored
        | some config => cases missing

/-- A failing write is not complete. -/
theorem not_completed_writeFile
    {choice : Choice}
    {text : String}
    (failure : choice.failure = some text)
    (assumed : completed
      ((environment node).event choice world (.command (.writeFile config)))) :
    False := by
  simp [completed, Environment.event, environment, World.respond, Host.execute,
    failure, hostFailed] at assumed

/-- The file of a node has no device class of the name. -/
def UnlistedInFile (node name : String) (world : World) : Prop :=
  ∀ config, Lvmd.stored node world = some (.config config) →
    Unlisted name config

theorem delete_wp
    (holds : LvmdInvariant node name world)
    (isCached : Lvmd.cached node world = some config)
    (last : (Reconciler.withoutDeviceClass name config).deviceClasses = []) :
    wp (environment node) (.assuming (completed ·))
      (Lvmd.CachedFileConfig.delete file).run
      (fun result after => LvmdInvariant node name after ∧
        (result = .ok () → UnlistedInFile node name after))
      world := by
  simp only [Lvmd.CachedFileConfig.delete, Lvmd.FileConfig.delete,
    wp.run_mapError_iff, Except.mapError_eq_ok_iff]
  refine wp_command_cases (fun _ _ _ _ => ?_) (fun _ => ?_)
  · simpa [Host.afterFailure] using holds
  · cases inFile : (world.host node).lvmdFile with
    | none => simpa [Host.apply, inFile] using holds
    | some content =>
        simp only [Host.apply, inFile]
        refine ⟨⟨by simp [Lvmd.stored], holds.cachedOnce, ?_⟩,
          by simp [UnlistedInFile, Lvmd.stored]⟩
        intro other otherCached
        have same : config = other :=
          Option.some.inj (isCached.symm.trans otherCached)
        exact .inr ⟨by simp [Lvmd.stored], same ▸ last⟩

theorem save_wp
    (holds : LvmdInvariant node name world)
    (isCached : Lvmd.cached node world = some config)
    (others : (Reconciler.withoutDeviceClass name config).deviceClasses ≠ []) :
    wp (environment node) (.assuming (completed ·))
      (Lvmd.CachedFileConfig.save file
        (Reconciler.withoutDeviceClass name config)).run
      (fun _ after => LvmdInvariant node name after ∧
        UnlistedInFile node name after)
      world := by
  have unlisted := unlisted_withoutDeviceClass (holds.cachedOnce config isCached)
  simp only [Lvmd.CachedFileConfig.save, wp.run_bind_iff, wp.run_lift_iff,
    wp_cachedConfig_iff]
  intro _ _
  refine ⟨by simp, ?_⟩
  rintro _ ⟨⟩
  split
  · rename_i same
    -- the cache is up to date, and then so is the file
    have unchanged : config = Reconciler.withoutDeviceClass name config :=
      Option.some.inj (isCached.symm.trans same)
    refine ⟨holds, fun other isStored => ?_⟩
    rcases holds.agrees config isCached with inFile | ⟨_, empty⟩
    · have equal : config = other := by simpa using inFile.symm.trans isStored
      rw [← equal, unchanged]
      exact unlisted
    · exact absurd empty others
  · simp only [wp.run_bind_iff, wp.run_lift_iff, wp_cacheConfig_iff,
      Lvmd.FileConfig.save, wp.run_mapError_iff]
    intro _ _
    refine ⟨by simp, fun _ _ => ?_⟩
    refine wp_command_cases (fun _ _ failure assumed => ?_) (fun _ => ?_)
    · exact (not_completed_writeFile failure assumed).elim
    have once := unlisted.atMostOnce
    refine ⟨⟨?_, ?_, ?_⟩, ?_⟩ <;>
      simp [Host.apply, Lvmd.stored, Lvmd.cached, UnlistedInFile, once, unlisted]

variable {r : Reconciler} {vg : LVMVolumeGroup}

/-- What is loaded and stored without its device class leaves a file without that
device class. -/
theorem Reconciler.storeRemaining_wp
    {loaded : Option Lvmd.Config}
    (holds : LvmdInvariant node vg.name world)
    (isCached : Lvmd.cached node world = loaded)
    (missing : loaded = none → Lvmd.stored node world = none) :
    wp (environment node) (.assuming (completed ·))
      (r.storeRemaining vg
        (loaded.map (Reconciler.withoutDeviceClass vg.name))).run
      (fun result after => LvmdInvariant node vg.name after ∧
        (result = .ok () → UnlistedInFile node vg.name after))
      world := by
  -- events about the change leave the configuration alone
  have announced (reason message : String) (middle : World)
      (kept : LvmdInvariant node vg.name middle)
      (unlisted : UnlistedInFile node vg.name middle) :
      wp (environment node) (.assuming (completed ·))
        (liftM (r.normalEvent vg reason message) : Go Unit).run
        (fun result after => LvmdInvariant node vg.name after ∧
          (result = .ok () → UnlistedInFile node vg.name after)) middle := by
    rw [wp.run_lift_iff]
    refine (wp_frame (r.normalEvent_uses ..)).mono ?_
    intro _ after frame
    have sameFile : Lvmd.stored node after = Lvmd.stored node middle :=
      frame.lvmdFile (by decide) node
    have sameCache : Lvmd.cached node after = Lvmd.cached node middle :=
      frame.config (by decide) node
    refine ⟨kept.of_same sameFile sameCache, fun _ => ?_⟩
    rw [UnlistedInFile, sameFile]
    exact unlisted
  cases loaded with
  | none => exact ⟨holds, fun _ config isStored => by simp [missing rfl] at isStored⟩
  | some config =>
      dsimp only [Option.map, Reconciler.storeRemaining]
      split
      · rename_i empty
        simp only [wp.run_bind_iff, wp.run_mapError_iff,
          Except.mapError_eq_ok_iff]
        refine (delete_wp holds isCached (List.isEmpty_iff.mp empty)).mono ?_
        rintro result after ⟨kept, unlisted⟩
        exact ⟨fun _ _ => ⟨kept, by simp⟩, fun _ deleted =>
          announced _ _ _ kept (unlisted deleted)⟩
      · rename_i others
        simp only [wp.run_bind_iff, wp.run_mapError_iff]
        refine (save_wp holds isCached (by simpa using others)).mono ?_
        rintro result after ⟨kept, unlisted⟩
        exact ⟨fun _ _ => ⟨kept, by simp⟩, fun _ _ =>
          announced _ _ _ kept unlisted⟩

end Configuration

/-! ## The finalizer -/

/-- The node is free of the volume group: nothing of it is left on the disks or in
the configuration of lvmd. -/
structure CleanedUp
    (node name : String)
    (devices : List String)
    (world : World) : Prop where
  disks : Gone name devices (world.host node)
  lvmd : UnlistedInFile node name world

/-- The call removes the finalizer of a node from a volume group. -/
def removesFinalizer (node name : String) : Event sig World → Bool
  | ⟨_, .api (.update .volumeGroup vg), .ok _⟩ =>
      vg.metadata.name == name &&
        !vg.metadata.finalizers.contains (getFinalizer node)
  | _ => false

/-- Only updates of volume groups remove finalizers. -/
theorem effect_of_removesFinalizer
    {event : Event sig World}
    (removes : removesFinalizer node name event) :
    event.request.effect = .update .volumeGroup := by
  unfold removesFinalizer at removes
  split at removes
  · rfl
  · cases removes

section Finalizer

variable {node name : String} {world : World} {devices : List String}
variable {r : Reconciler} {vg : LVMVolumeGroup}

/-- The contract of the deletion: assuming that no `pvremove` and no write fails,
the finalizer is only removed from a node that is cleaned up. -/
def cleanupContract (node name : String) (devices : List String) :
    Contract sig World where
  assumes event := completed event
  guarantees event := removesFinalizer node name event →
    CleanedUp node name devices event.before

/-- Code that does not update volume groups meets the contract. -/
theorem wp_cleanupContract
    {α : Type}
    {effects : List Effect}
    {program : Program sig α}
    {post : α → World → Prop}
    (holds : wp (environment node) (.assuming (completed ·)) program post world)
    (uses : program.Uses (Within effects))
    (absent : .update .volumeGroup ∉ effects) :
    wp (environment node) (cleanupContract node name devices) program post
      world :=
  holds.guaranteed uses fun _ allowed removes =>
    absurd (effect_of_removesFinalizer removes ▸ allowed) absent

/-- The state of a clean up between two calls. -/
structure CleanupState
    (node name : String)
    (devices : List String)
    (world : World) : Prop where
  disks : Whole name devices (world.host node)
  lvmd : LvmdInvariant node name world

theorem Reconciler.releaseVolumeGroup_wp
    (cleaned : CleanedUp node vg.name devices world)
    (holds : LvmdInvariant node vg.name world) :
    wp (environment node) (cleanupContract node vg.name devices)
      (r.releaseVolumeGroup vg).run
      (fun _ after => CleanupState node vg.name devices after) world := by
  have same (after : World) (sameHost : after.host = world.host)
      (sameCache : Lvmd.cached node after = Lvmd.cached node world) :
      CleanedUp node vg.name devices after ∧
        CleanupState node vg.name devices after := by
    have sameFile : Lvmd.stored node after = Lvmd.stored node world := by
      rw [Lvmd.stored, Lvmd.stored, sameHost]
    have gone : Gone vg.name devices (after.host node) := sameHost ▸ cleaned.disks
    have unlisted : UnlistedInFile node vg.name after := by
      rw [UnlistedInFile, sameFile]
      exact cleaned.lvmd
    exact ⟨⟨gone, unlisted⟩, ⟨.inr gone, holds.of_same sameFile sameCache⟩⟩
  simp only [Reconciler.releaseVolumeGroup, wp.run_bind_iff, wp.run_mapError_iff]
  refine (wp_cleanupContract (wp_frame (r.removeVolumeGroupStatus_uses vg))
    (r.removeVolumeGroupStatus_uses vg) (by decide)).mono ?_
  intro _ after frame
  have sameHost := frame.host (by decide) (by decide)
  have sameCache := frame.config (by decide) node
  obtain ⟨stillCleaned, state⟩ := same after sameHost sameCache
  refine ⟨fun _ _ => state, fun _ _ => ?_⟩
  split
  · rw [wp.run_bind_iff]
    intro choice _
    have updated (api : ApiServer) := (same { after with api } sameHost sameCache).2
    exact ⟨fun _ => stillCleaned, fun _ _ => updated _, fun _ _ => updated _⟩
  · exact state

/-- One call of `processDelete` meets the contract. -/
theorem Reconciler.processDelete_wp
    (state : CleanupState node vg.name devices world) :
    wp (environment node) (cleanupContract node vg.name devices)
      (r.processDelete vg).run
      (fun _ after => CleanupState node vg.name devices after) world := by
  simp only [Reconciler.processDelete, wp.run_bind_iff, wp.run_mapError_iff,
    Except.mapError_eq_ok_iff]
  refine (wp_cleanupContract (load_wp state.lvmd)
    (Lvmd.CachedFileConfig.load_uses _) (by decide)).mono ?_
  rintro _ opened ⟨sameHost, holds, loadedIs⟩
  have whole : Whole vg.name devices (opened.host node) := sameHost ▸ state.disks
  refine ⟨fun _ _ => ⟨whole, holds⟩, fun loaded succeeded => ?_⟩
  obtain ⟨isCached, missing⟩ := loadedIs loaded succeeded
  -- the disks; the configuration stays as it was loaded
  refine (wp_cleanupContract ((Reconciler.cleanUpDisks_wp whole).both
    (wp_frame (r.cleanUpDisks_uses vg))) (r.cleanUpDisks_uses vg)
    (by decide)).mono ?_
  rintro _ cleaned ⟨⟨wholeAfter, gone⟩, frame⟩
  have sameFile : Lvmd.stored node cleaned = Lvmd.stored node opened :=
    frame.lvmdFile (by decide) node
  have sameCache : Lvmd.cached node cleaned = Lvmd.cached node opened :=
    frame.config (by decide) node
  have holdsAfter := holds.of_same sameFile sameCache
  refine ⟨fun _ _ => ⟨wholeAfter, holdsAfter⟩, fun _ removed => ?_⟩
  -- the configuration; the disks stay clean
  refine (wp_cleanupContract ((Reconciler.storeRemaining_wp holdsAfter
    (sameCache.trans isCached) (fun absent => sameFile.trans (missing absent))).both
    (wp_frame (r.storeRemaining_uses vg _))) (r.storeRemaining_uses vg _)
    (by decide)).mono ?_
  rintro _ stored ⟨⟨kept, unlisted⟩, frame⟩
  have sameDisks := frame.disks (by decide) node
  refine ⟨fun _ _ => ⟨wholeAfter.of_disks sameDisks, kept⟩, fun _ succeeded => ?_⟩
  exact Reconciler.releaseVolumeGroup_wp
    ⟨(gone removed).of_disks sameDisks, unlisted succeeded⟩ kept

end Finalizer

/-! ## Runs of the deletion -/

/-- The vg-manager of a node runs `processDelete` on the volume group as the API
server has it; every call in it can succeed or fail. -/
def DeleteStep
    (r : Reconciler)
    (name : String)
    (before : World)
    (events : List (Event sig World))
    (after : World) : Prop :=
  ∃ vg result, before.api.find? .volumeGroup name = some vg ∧
    Exec (environment r.nodeName) (r.processDelete vg).run before events result
      after

/-- The vg-manager has set up the volume group on the node: it is there with its
devices, and lvmd knows it by at most one device class. -/
structure SetUp (node name : String) (world : World) : Prop where
  disks : Intact name ((world.host node).members name) (world.host node)
  once : ∀ config, Lvmd.stored node world = some (.config config) →
    AtMostOnce name config
  coherent : Lvmd.CachedFileConfig.Coherent node world

/-- A cleanup can start from what was set up. -/
theorem SetUp.cleanupState
    {world : World}
    (setUp : SetUp node name world) :
    CleanupState node name ((world.host node).members name) world where
  disks := .inl setUp.disks
  lvmd := {
    storedOnce := setUp.once
    cachedOnce := fun config isCached => setUp.once config (setUp.coherent config isCached)
    agrees := fun config isCached => .inl (setUp.coherent config isCached) }

/-- In every run of deletions in which no `pvremove` and no write of the
configuration of lvmd fails, the finalizer of the node is only removed when the
node is cleaned up. -/
theorem cleanedUp_of_removesFinalizer
    (r : Reconciler)
    (name : String)
    (world world' : World)
    (events : List (Event sig World))
    (setUp : SetUp r.nodeName name world)
    (run : History (fun before added after => DeleteStep r name before added after ∧
      ∀ event ∈ added, completed event) world events world') :
    ∀ event ∈ events, removesFinalizer r.nodeName name event →
      CleanedUp r.nodeName name ((world.host r.nodeName).members name)
        event.before := by
  refine run.all_events (CleanupState r.nodeName name _) _ setUp.cleanupState ?_
  rintro before added after state ⟨⟨vg, result, found, ran⟩, complete⟩
  have named : vg.name = name := by
    simpa [Kind.nameOf, Kind.metadata] using List.find?_some found
  subst named
  obtain ⟨guaranteed, final⟩ :=
    (Reconciler.processDelete_wp state).sound ran complete
  exact ⟨final, guaranteed⟩

/-! ### A volume group on one device -/

/-- A deleted volume group that waits for one node. -/
def deletedVG : LVMVolumeGroup where
  metadata := {
    name := "vg1"
    resourceVersion := 1
    deletionTimestamp := some 0
    finalizers := [getFinalizer "node"] }
  spec := {}

/-- That node, with one device in the volume group. -/
def deletionWorld : World where
  api := ⟨fun
    | .volumeGroup => [deletedVG]
    | .nodeStatus => [{ metadata := { name := "node" } }]
    | .node => [{ metadata := { name := "node" } }]
    | _ => []⟩
  host := fun _ => {
    volumeGroups := [{ name := "vg1", tags := [defaultTag] }]
    physicalVolumes := [{ pvName := "/dev/sdb", vgName := "vg1" }]
    lvmdFile := some (.config {
      deviceClasses := [{ name := "vg1", volumeGroup := "vg1" }] }) }
  memory := fun _ => {}

theorem deletionWorld_setUp : SetUp "node" "vg1" deletionWorld where
  disks := ⟨⟨_, .head _, rfl, by decide⟩, by decide⟩
  once := by
    rintro config ⟨⟩
    exact Nat.le_refl 1
  coherent := by
    rintro config ⟨⟩

/-- `processDelete` on that node, with the choices of a strategy. -/
def deleteVG1 (pick : World → Request → Choice) (world : World) :
    List (Event sig World) × Except GoError Unit × World :=
  Program.run (environment "node") pick
    ((Reconciler.plain "node").processDelete deletedVG).run world

theorem deleteVG1_step
    (pick : World → Request → Choice)
    (world : World)
    (found : world.api.find? .volumeGroup "vg1" = some deletedVG) :
    DeleteStep (.plain "node") "vg1" world (deleteVG1 pick world).1
      (deleteVG1 pick world).2.2 :=
  ⟨deletedVG, _, found, Program.run_exec ..⟩

/-- A deletion without failures removes the finalizer of a node that is cleaned
up. -/
theorem cleanedUp_of_removesFinalizer_vg1 :
    let events := (deleteVG1 (fun _ _ => {}) deletionWorld).1
    (∃ event ∈ events, removesFinalizer "node" "vg1" event) ∧
      ∀ event ∈ events, removesFinalizer "node" "vg1" event →
        CleanedUp "node" "vg1" ["/dev/sdb"] event.before := by
  refine ⟨by decide +kernel, ?_⟩
  refine cleanedUp_of_removesFinalizer (.plain "node") "vg1" deletionWorld _ _
    deletionWorld_setUp (.single ⟨deleteVG1_step _ _ (by decide +kernel), ?_⟩)
  decide +kernel

/-- No physical volume can be removed. -/
def pvremoveFails (_ : World) : Request → Choice
  | .command (.pvremove _) => { failure := some "Device or resource busy" }
  | _ => {}

/-- The `pvremove` of the first attempt fails after `vgremove` has succeeded. The
second attempt does not find the volume group and removes the finalizer, while
the device still carries its label. -/
theorem removesFinalizer_despite_label :
    ¬∀ (r : Reconciler) (name : String) (world world' : World)
      (events : List (Event sig World)),
      SetUp r.nodeName name world →
      History (DeleteStep r name) world events world' →
      ∀ event ∈ events, removesFinalizer r.nodeName name event →
        CleanedUp r.nodeName name ((world.host r.nodeName).members name)
          event.before := by
  intro claimed
  let first := deleteVG1 pvremoveFails deletionWorld
  let second := deleteVG1 (fun _ _ => {}) first.2.2
  have run : History (DeleteStep (.plain "node") "vg1") deletionWorld
      (first.1 ++ second.1) second.2.2 :=
    (History.single (deleteVG1_step _ _ (by decide +kernel))).next
      (deleteVG1_step _ _ (by decide +kernel))
  have labelled : ∃ event ∈ second.1, removesFinalizer "node" "vg1" event ∧
      ∃ pv ∈ (event.before.host "node").physicalVolumes, pv.pvName = "/dev/sdb" := by
    decide +kernel
  obtain ⟨event, member, removes, pv, stillThere, named⟩ := labelled
  have cleaned := claimed _ _ _ _ _ deletionWorld_setUp run event
    (List.mem_append_right _ member) removes
  refine cleaned.disks.labels pv stillThere ?_
  rw [named]
  exact .head _

end Lvms
