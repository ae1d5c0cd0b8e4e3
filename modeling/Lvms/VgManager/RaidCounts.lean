import Lvms.Operator.RaidGeometry
import Lvms.VgManager.Evidence
import Lvms.VgManager.Merging
import Lvms.VgManager.Removal
import Mathlib.Data.Finset.Card

/-!
# The number of devices of a RAID volume group

Before devices leave a RAID volume group, the vg-manager checks the number that is to
stay. The devices then leave one by one, and the first failure ends the loop, so that
the volume group can be left with any number in between.

Before a RAID volume group is extended, the vg-manager checks the sum of the available
devices and the current ones. Devices that the user has taken out of the list are still
among the current ones, since they are removed only when no device is available.
-/

namespace Lvms

open Interaction

/-- A device has left its volume group. -/
def takesOut : Event sig World → Bool
  | ⟨_, .command (.vgreduce _ _), response⟩ => response.isOk
  | _ => false

/-- The number of devices that have left their volume group. -/
def departures (events : List (Event sig World)) : Nat :=
  events.countP takesOut

/-! ## Commands -/

namespace Host

variable {host : Host} {vgName device : String} {choice : Choice}

theorem members_release (named : vgName ≠ "") :
    { host with physicalVolumes := host.release fun pv =>
        pv.vgName == vgName && pv.pvName == device }.members vgName =
      (host.members vgName).filter (· != device) := by
  have stays : ∀ pv : PhysicalVolume,
      ((if pv.vgName == vgName && pv.pvName == device then { pv with vgName := "" }
        else pv).vgName == vgName) = (pv.pvName != device && pv.vgName == vgName) := by
    intro pv
    by_cases inside : pv.vgName = vgName <;> by_cases same : pv.pvName = device <;>
      simp [inside, same, named.symm]
  have keepsName : ∀ pv : PhysicalVolume,
      (if pv.vgName == vgName && pv.pvName == device then { pv with vgName := "" }
        else pv).pvName = pv.pvName := by
    intro pv
    split <;> rfl
  unfold members release
  rw [List.filter_map, List.map_map, List.filter_map, List.filter_filter]
  simp only [Function.comp_def, stays, keepsName]

theorem members_unlabel (devices : List String) :
    { host with physicalVolumes := host.unlabel devices }.members vgName =
      (host.members vgName).filter fun name => !devices.contains name := by
  unfold members unlabel
  rw [List.filter_filter, List.filter_map, List.filter_filter]
  congr 1
  apply List.filter_congr
  intro pv _
  exact Bool.and_comm ..

/-- `pvremove` of a device that is not in the volume group leaves it alone, whether it
succeeds or not. -/
theorem execute_pvremove (left : device ∉ host.members vgName) :
    (host.execute choice (.pvremove [device])).2.members vgName = host.members vgName := by
  have kept (devices : List String) (only : ∀ name ∈ devices, name = device) :
      { host with physicalVolumes := host.unlabel devices }.members vgName =
        host.members vgName := by
    rw [members_unlabel, List.filter_eq_self]
    intro name member
    rw [Bool.not_eq_true', List.contains_eq_mem, decide_eq_false_iff_not]
    intro removed
    exact left (only name removed ▸ member)
  unfold execute
  cases choice.failure with
  | some text =>
      apply kept
      intro name removed
      exact List.mem_singleton.mp (List.mem_of_mem_filter removed)
  | none => exact kept [device] fun name => List.mem_singleton.mp

end Host

/-! ## The loop -/

section Removal

variable {r : Reconciler} {vg : LVMVolumeGroup} {current : VolumeGroup}
variable {world after : World} {events : List (Event sig World)}
variable {result : Except GoError Unit}

/-- Departures add up. -/
theorem departures_append (first second : List (Event sig World)) :
    departures (first ++ second) = departures first + departures second :=
  List.countP_append

/-- Nothing departs when devices are kept. -/
theorem departures_of_keeps (keeps : KeepsDevices events) : departures events = 0 := by
  unfold departures
  rw [List.countP_eq_zero]
  intro event member taken
  unfold takesOut at taken
  split at taken
  · exact keeps _ member _ rfl
  · cases taken

/-- `ReduceVG` succeeds and takes out one device, or fails and takes out none. -/
theorem reduceVG_exec
    {vgName device : String}
    (named : vgName ≠ "")
    (ran : Exec (environment r.nodeName) (Lvm.reduceVG vgName device).run world events result
      after) :
    (result = .ok () ∧ departures events = 1 ∧
      (after.host r.nodeName).members vgName =
        ((world.host r.nodeName).members vgName).filter (· != device)) ∨
    (∃ error, result = .error error ∧ departures events = 0 ∧
      (after.host r.nodeName).members vgName = (world.host r.nodeName).members vgName) := by
  obtain ⟨inner, rfl, commanded⟩ := Exec.run_mapError_iff.mp ran
  obtain ⟨choice, rfl, rfl, rfl⟩ := exec_call_iff.mp commanded
  cases failure : choice.failure with
  | none =>
      left
      simp [departures, takesOut, environment, Environment.event, World.respond,
        World.setHost, Host.execute, failure, Host.apply, Host.members_release named,
        Except.mapError, Except.isOk, Except.toBool]
  | some text =>
      right
      simp [departures, takesOut, environment, Environment.event, World.respond,
        World.setHost, Host.execute, failure, Host.afterFailure, Except.mapError,
        Except.isOk, Except.toBool]

/-- `RemovePV` of a device that has left the volume group changes nothing there. -/
theorem removePV_exec
    {vgName device : String}
    (left : device ∉ (world.host r.nodeName).members vgName)
    (ran : Exec (environment r.nodeName) (Lvm.removePV device).run world events result
      after) :
    departures events = 0 ∧
      (after.host r.nodeName).members vgName = (world.host r.nodeName).members vgName := by
  obtain ⟨inner, rfl, commanded⟩ := Exec.run_mapError_iff.mp ran
  obtain ⟨choice, rfl, rfl, rfl⟩ := exec_call_iff.mp commanded
  refine ⟨rfl, ?_⟩
  simpa [World.respond, World.setHost] using Host.execute_pvremove left

/-- The end of the loop after a failed `vgreduce`. -/
theorem failRemoval_quiet
    {reason : String}
    {error thrown : GoError}
    (ran : Exec (environment r.nodeName)
      (do r.warningEvent vg reason error
          throw thrown : Go Unit).run world events result after) :
    after = world ∧ departures events = 0 := by
  have uses : (do r.warningEvent vg reason error
                  throw thrown : Go Unit).run.Uses (Within [.read, .report]) :=
    .run_bind (.run_lift (r.warningEvent_uses ..)) fun _ => trivial
  exact ⟨(Exec.of_reading ran uses).1,
    departures_of_keeps (keepsDevices_of_uses ran uses (by decide))⟩

/-- One device leaves the volume group with every `vgreduce` that succeeds. -/
theorem removeDevices_members
    {names : List String}
    (named : vg.name ≠ "")
    (distinct : names.Nodup)
    (once : ((world.host r.nodeName).members vg.name).Nodup)
    (inside : ∀ name ∈ names, name ∈ (world.host r.nodeName).members vg.name)
    (ran : Exec (environment r.nodeName) (r.removeDevices vg names).run world events result
      after) :
    ((after.host r.nodeName).members vg.name).length + departures events =
        ((world.host r.nodeName).members vg.name).length ∧
      departures events ≤ names.length := by
  induction names generalizing world events with
  | nil =>
      obtain ⟨rfl, -, rfl⟩ := Exec.run_pure_iff.mp ran
      exact ⟨rfl, Nat.le_refl _⟩
  | cons name rest inductionHypothesis =>
      obtain ⟨reduced, first, between, second, tried, removes, rfl⟩ :=
        Exec.run_attempt_bind_iff.mp ran
      rw [departures_append]
      rcases reduceVG_exec named tried with
        ⟨rfl, one, taken⟩ | ⟨error, rfl, none, kept⟩
      · obtain ⟨_, unlabels, cleared, last, unlabelled, continues, rfl⟩ :=
          Exec.run_attempt_bind_iff.mp removes
        have gone : name ∉ (between.host r.nodeName).members vg.name := by
          rw [taken]
          simp
        obtain ⟨zero, same⟩ := removePV_exec gone unlabelled
        rw [List.nodup_cons] at distinct
        rw [List.forall_mem_cons] at inside
        obtain ⟨counted, few⟩ := inductionHypothesis distinct.2
          (by rw [same, taken]; exact once.filter _)
          (by
            intro other member
            rw [same, taken, List.mem_filter]
            exact ⟨inside.2 other member, by
              rw [bne_iff_ne]; rintro rfl; exact distinct.1 member⟩) continues
        have shorter := List.length_erase_add_one inside.1
        rw [once.erase_eq_filter, ← taken, ← same] at shorter
        rw [departures_append, one, zero, List.length_cons]
        omega
      · obtain ⟨rfl, zero⟩ := failRemoval_quiet removes
        rw [none, zero, kept]
        exact ⟨rfl, Nat.zero_le _⟩

/-- The devices to remove are some of those of the volume group. -/
theorem unmatchedPVs_sublist
    {node : String}
    {mappings names : List String}
    {pvs : List PhysicalVolume}
    (ran : Exec (environment node) (Reconciler.unmatchedPVs mappings pvs) world events names
      after) :
    names.Sublist (pvs.map (·.pvName)) := by
  induction pvs generalizing world events names after with
  | nil =>
      obtain ⟨-, rfl, -⟩ := Exec.pure_iff.mp ran
      exact List.Sublist.refl _
  | cons pv rest inductionHypothesis =>
      rw [Reconciler.unmatchedPVs] at ran
      split at ran
      · exact (inductionHypothesis ran).cons _
      · obtain ⟨_, resolved, _, _, -, others, -⟩ := Exec.bind_iff.mp ran
        obtain ⟨_, remaining, _, _, continues, returned, -⟩ := Exec.bind_iff.mp others
        obtain ⟨-, rfl, -⟩ := Exec.pure_iff.mp returned
        have rest := inductionHypothesis continues
        split_ifs
        · exact rest.cons _
        · exact rest.cons_cons _

/-- A run takes out at most as many devices as may be removed. -/
theorem deleteRemovedDevices_members
    {result : Except GoError Bool}
    (named : vg.name ≠ "")
    (listed : (current.pvs.map (·.pvName)).Perm ((world.host r.nodeName).members vg.name))
    (once : ((world.host r.nodeName).members vg.name).Nodup)
    (ran : Exec (environment r.nodeName) (r.deleteRemovedDevices current vg).run world
      events result after) :
    ((after.host r.nodeName).members vg.name).length + departures events =
        current.pvs.length ∧
      (departures events = 0 ∨
        ∃ names, MayRemove vg current names ∧ departures events ≤ names.length) := by
  have total : current.pvs.length = ((world.host r.nodeName).members vg.name).length := by
    rw [← listed.length_eq, List.length_map]
  rw [total]
  cases explicit : hasExplicitDevicePaths vg with
  | false =>
      rw [Reconciler.deleteRemovedDevices, explicit] at ran
      obtain ⟨rfl, -, rfl⟩ := Exec.run_pure_iff.mp ran
      exact ⟨rfl, .inl rfl⟩
  | true =>
      have quiet {α : Type} {program : Program sig α} {before last : World}
          {calls : List (Event sig World)} {value : α}
          (ran : Exec (environment r.nodeName) program before calls value last)
          (uses : program.Uses (Within [.read, .resolve])) :
          last.host = before.host ∧ departures calls = 0 :=
        ⟨(Exec.frame ran uses).host (by decide) (by decide),
          departures_of_keeps (keepsDevices_of_uses ran uses (by decide))⟩
      rcases deleteRemovedDevices_cases explicit ran with
        ⟨-, rfl, rfl⟩ | ⟨error, failed⟩ |
          ⟨-, mappings, names, first, middle, late, between, later, rfl, mapped, sought,
            removes⟩
      · exact ⟨rfl, .inl rfl⟩
      · obtain ⟨same, none⟩ := quiet failed (buildDevicePathMappings_uses _)
        rw [same, none]
        exact ⟨rfl, .inl rfl⟩
      obtain ⟨sameFirst, noneFirst⟩ := quiet mapped (buildDevicePathMappings_uses _)
      obtain ⟨sameMiddle, noneMiddle⟩ := quiet sought (Reconciler.unmatchedPVs_uses ..)
      have same : later.host = world.host := sameMiddle.trans sameFirst
      rw [departures_append, departures_append, noneFirst, noneMiddle, Nat.zero_add,
        Nat.zero_add]
      rcases removes with ⟨-, rfl, rfl⟩ | ⟨may, during, reports, removed, rfl, keeps, removing⟩
      · rw [same]
        exact ⟨rfl, .inl rfl⟩
      have some := unmatchedPVs_sublist sought
      rw [← same] at once listed ⊢
      obtain ⟨counted, few⟩ := removeDevices_members named
        (some.nodup (listed.nodup_iff.mpr once)) once
        (fun name member => listed.subset (some.subset member)) removing
      rw [departures_append, departures_of_keeps keeps, Nat.add_zero]
      exact ⟨counted, .inr ⟨names, may, few⟩⟩

/-- A number is accepted if it is large enough and, for `raid10`, made of whole
groups. -/
theorem validateRAIDDeviceCount_iff_dvd
    {config : RAIDConfig}
    {count : Nat} :
    validateRAIDDeviceCount config count = .ok () ↔
      config.leastDevices ≤ count ∧
        (config.type = .raid10 → wrapInt64 (config.effectiveMirrors + 1) ∣ count) := by
  rw [validateRAIDDeviceCount_eq_ok_iff, Int.dvd_iff_tmod_eq_zero]

/-- When devices are removed, the number that is left is legal exactly if the volume
group had devices at all and, for `raid10`, those that have left form whole groups. -/
theorem deleteRemovedDevices_legal_iff
    {config : RAIDConfig}
    {result : Except GoError Bool}
    (isRAID : vg.spec.raidConfig = some config)
    (named : vg.name ≠ "")
    (listed : (current.pvs.map (·.pvName)).Perm ((world.host r.nodeName).members vg.name))
    (once : ((world.host r.nodeName).members vg.name).Nodup)
    (legal : validateRAIDDeviceCount config current.pvs.length = .ok ())
    (ran : Exec (environment r.nodeName) (r.deleteRemovedDevices current vg).run world
      events result after) :
    (1 ≤ ((after.host r.nodeName).members vg.name).length ∧
      validateRAIDDeviceCount config ((after.host r.nodeName).members vg.name).length =
        .ok ()) ↔
    current.pvs ≠ [] ∧ (config.type = .raid10 →
      wrapInt64 (config.effectiveMirrors + 1) ∣ departures events) := by
  obtain ⟨counted, few⟩ := deleteRemovedDevices_members named listed once ran
  -- the loop never goes below the number that was checked before it
  have bounds : config.leastDevices ≤ ((after.host r.nodeName).members vg.name).length ∧
      (1 ≤ ((after.host r.nodeName).members vg.name).length ↔ 0 < current.pvs.length) := by
    rcases few with none | ⟨names, may, few⟩
    · have least := (validateRAIDDeviceCount_eq_ok_iff.mp legal).1
      omega
    · have least := (validateRAIDDeviceCount_eq_ok_iff.mp (may.raid config isRAID)).1
      have some := may.remaining
      omega
  rw [validateRAIDDeviceCount_iff_dvd] at legal ⊢
  simp only [bounds, true_and, ← List.length_pos_iff]
  refine and_congr_right fun _ => forall_congr' fun isRaid10 => ?_
  have divides := legal.2 isRaid10
  rw [← counted, Int.natCast_add] at divides
  exact ⟨fun leftDivides => (Int.dvd_add_right leftDivides).mp divides,
    fun goneDivides => (Int.dvd_add_left goneDivides).mp divides⟩

end Removal

/-- A `raid10` volume group on six disks, two of which the user no longer lists. -/
def mirroredGroup : LVMVolumeGroup where
  metadata := { name := "vg1" }
  spec := {
    raidConfig := some { type := .raid10 }
    deviceSelector := some { paths := ["/dev/sda", "/dev/sdb", "/dev/sdc", "/dev/sdd"] } }

/-- What LVM reports about it. -/
def mirroredVolumes : VolumeGroup where
  name := "vg1"
  pvs := ["/dev/sda", "/dev/sdb", "/dev/sdc", "/dev/sdd", "/dev/sde", "/dev/sdf"].map
    fun pvName => { pvName, vgName := "vg1" }

/-- A host with some volume group, on which every path is a device. -/
def worldWith (volumes : VolumeGroup) : World :=
  { World.empty with host := fun _ => { symlinks := some, physicalVolumes := volumes.pvs } }

/-- A run in which the last disk cannot be taken out. -/
def stoppedRemoval : List (Event sig World) × Except GoError Bool × World :=
  Program.run (environment "node")
    (fun _ request => match request with
      | .command (.vgreduce _ "/dev/sdf") => { failure := some "in use", exitCode := 5 }
      | _ => {})
    ((Reconciler.plain "node").deleteRemovedDevices mirroredVolumes mirroredGroup).run
    (worldWith mirroredVolumes)

theorem deleteRemovedDevices_legal_iff_stopped :
    (1 ≤ ((stoppedRemoval.2.2.host "node").members "vg1").length ∧
      validateRAIDDeviceCount { type := .raid10 }
        ((stoppedRemoval.2.2.host "node").members "vg1").length = .ok ()) ↔
    mirroredVolumes.pvs ≠ [] ∧ (RAIDType.raid10 = .raid10 →
      wrapInt64 (({ type := .raid10 } : RAIDConfig).effectiveMirrors + 1) ∣
        departures stoppedRemoval.1) :=
  @deleteRemovedDevices_legal_iff (Reconciler.plain "node") mirroredGroup mirroredVolumes
    (worldWith mirroredVolumes) _ _ { type := .raid10 } _ rfl (by decide) (by decide) (by decide)
    (by decide) (Program.run_exec ..)

/-- Six devices and the four that are to stay are legal, but five are left. -/
theorem mirror_left_with_five :
    validateRAIDDeviceCount { type := .raid10 } mirroredVolumes.pvs.length = .ok () ∧
      Exec (environment "node")
        ((Reconciler.plain "node").deleteRemovedDevices mirroredVolumes mirroredGroup).run
        (worldWith mirroredVolumes) stoppedRemoval.1 stoppedRemoval.2.1 stoppedRemoval.2.2 ∧
      ((stoppedRemoval.2.2.host "node").members "vg1").length = 5 ∧
      validateRAIDDeviceCount { type := .raid10 } 5 ≠ .ok () :=
  ⟨by decide, Program.run_exec .., by decide +kernel, by decide⟩

/-! ## Extending -/

/-- A device class selects some paths, all of them mandatory. -/
def DeviceClass.Requires
    (deviceClass : DeviceClass)
    (paths : List DevicePath) : Prop :=
  ∃ selector, deviceClass.deviceSelector = some selector ∧ selector.paths = paths ∧
    selector.optionalPaths = []

/-- An accepted change of the paths of a RAID class, as its volume group has it. -/
structure PathChange
    (v : Webhook.Validator)
    (old l : LVMCluster)
    (vg : LVMVolumeGroup)
    (config : RAIDConfig)
    (oldPaths newPaths : List DevicePath) : Prop where
  accepted : Webhook.AcceptsUpdate v old l
  before : ∃ deviceClass ∈ old.spec.deviceClasses,
    deviceClass.name = vg.name ∧ deviceClass.Requires oldPaths
  now : ∃ deviceClass ∈ l.spec.deviceClasses,
    deviceClass.name = vg.name ∧ deviceClass.Requires newPaths ∧
      deviceClass.raidConfig = some config ∧
      vg.spec.raidConfig = deviceClass.raidConfig ∧
      vg.spec.deviceSelector = deviceClass.deviceSelector

/-- A node whose volume group is on the devices of the old paths, and which has the
devices of the new ones. A path or a volume denotes the device `target`. -/
structure ReadyForChange
    (resolver : String → Option String)
    (target : String → String)
    (vg : LVMVolumeGroup)
    (pvs : List PhysicalVolume)
    (existing : VolumeGroup)
    (blockDevices : List BlockDevice)
    (devices : FilteredBlockDevices)
    (oldPaths newPaths : List DevicePath) : Prop where
  named : vg.name ≠ ""
  reaches : ∀ path ∈ newPaths, resolver path = some (target path)
  located : ∀ pv ∈ existing.pvs, resolver pv.pvName = some (target pv.pvName)
  /-- `existing` has the volumes of this volume group among all volumes. -/
  volumes : existing.pvs = pvs.filter (·.vgName == vg.name)
  once : (existing.pvs.map fun pv => target pv.pvName).Nodup
  /-- A device of the volume group has no other volume, and a signature. -/
  sole : ∀ pv ∈ pvs, ∀ member ∈ existing.pvs,
    resolver pv.pvName = some (target member.pvName) → pv.vgName = vg.name
  signed : ∀ device ∈ allDevices blockDevices,
    device.kname ∈ oldPaths.map target → device.fsType ≠ ""
  exactly : ∀ device, device ∈ (existing.pvs.map fun pv => target pv.pvName) ↔
    device ∈ oldPaths.map target
  distinct : (newPaths.map target).Nodup
  /-- The new devices are there and pass the filters. -/
  passes : ∀ device ∈ newPaths.map target, device ∉ oldPaths.map target →
    device ∈ devices.available.map (·.kname)

section Extending

variable {r : Reconciler} {vg : LVMVolumeGroup} {vgs : List VolumeGroup}
variable {config : RAIDConfig} {devices : FilteredBlockDevices}
variable {world after : World} {events : List (Event sig World)}
variable {existing : VolumeGroup}

/-- What the webhook has checked of a class without optional paths. -/
theorem validateRAIDDeviceCount_of_verified
    {deviceClass : DeviceClass}
    {paths : List DevicePath}
    (requires : deviceClass.Requires paths)
    (verified : Webhook.verifyRAIDConfigOf deviceClass config = .ok ()) :
    validateRAIDDeviceCount config paths.length = .ok () := by
  obtain ⟨selector, isSelector, rfl, none⟩ := requires
  have total : Webhook.deviceCount deviceClass = selector.paths.length := by
    simp [Webhook.deviceCount, isSelector, none]
  rw [validateRAIDDeviceCount_eq_ok_iff, ← total]
  refine ⟨leastDevices_le_of_verified verified, fun isRaid10 => ?_⟩
  simp only [Webhook.verifyRAIDConfigOf, Except.bind_eq_ok_iff, failIf_eq_ok_iff] at verified
  obtain ⟨_, _, _, _, _, _, _, _, _, _, _, _, _, _, divides⟩ := verified
  simpa [isRaid10, isSelector, none] using divides

namespace PathChange

variable {v : Webhook.Validator} {old l : LVMCluster} {oldPaths newPaths : List DevicePath}

theorem isRAID (change : PathChange v old l vg config oldPaths newPaths) :
    vg.spec.raidConfig = some config := by
  obtain ⟨deviceClass, -, -, -, isConfig, same, -⟩ := change.now
  exact same.trans isConfig

/-- The webhook accepts the number of the new paths. -/
theorem legal (change : PathChange v old l vg config oldPaths newPaths) :
    validateRAIDDeviceCount config newPaths.length = .ok () ∧
      hasExplicitDevicePaths vg = true := by
  obtain ⟨deviceClass, member, -, requires, isConfig, -, sameSelector⟩ := change.now
  have verified := Except.forM_eq_ok_iff.mp
    (Webhook.acceptsUpdate_iff.mp change.accepted).1.raid deviceClass member
  rw [isConfig] at verified
  refine ⟨validateRAIDDeviceCount_of_verified requires verified, ?_⟩
  simp only [Webhook.verifyRAIDConfigOf, Except.bind_eq_ok_iff, failIf_eq_ok_iff,
    Bool.not_eq_false'] at verified
  obtain ⟨_, _, _, _, _, _, _, _, _, _, _, explicit, _⟩ := verified
  unfold hasExplicitDevicePaths
  rw [sameSelector]
  exact explicit

end PathChange

/-- The check succeeds exactly if the sum of the available and the current devices is
accepted. -/
theorem checkDeviceCount_ok_iff
    {result : Except GoError Unit}
    (isRAID : vg.spec.raidConfig = some config)
    (found : vgs.find? (·.name == vg.name) = some existing)
    (ran : Exec (environment r.nodeName) (r.checkDeviceCount vg vgs devices).run world
      events result after) :
    result = .ok () ↔ validateRAIDDeviceCount config
      (devices.available.length + existing.pvs.length) = .ok () := by
  simp only [Reconciler.checkDeviceCount, isRAID, found] at ran
  constructor
  · rintro rfl
    obtain ⟨-, accepted, -⟩ := Exec.pure_iff.mp (Reconciler.orFailWith_ok ran)
    exact accepted.symm
  · intro accepted
    obtain ⟨outcome, _, _, _, attempted, continues, -⟩ := Exec.run_attempt_bind_iff.mp ran
    obtain ⟨-, rfl, -⟩ := Exec.pure_iff.mp attempted
    rw [accepted] at continues
    exact (Exec.run_pure_iff.mp continues).2.1

/-- With explicit paths no device is left out because it was discovered later. -/
theorem excludeDiscovered_of_explicit (explicit : hasExplicitDevicePaths vg = true) :
    Reconciler.excludeDiscovered vg vgs devices = devices := by
  simp [Reconciler.excludeDiscovered, explicit]

/-- The available devices are the new ones that are not in the volume group. -/
theorem available_of_change
    {resolver : String → Option String}
    {target : String → String}
    {v : Webhook.Validator}
    {old l : LVMCluster}
    {bdi : GoMap Bool}
    {pvs : List PhysicalVolume}
    {blockDevices : List BlockDevice}
    {oldPaths newPaths : List DevicePath}
    (change : PathChange v old l vg config oldPaths newPaths)
    (ready : ReadyForChange resolver target vg pvs existing blockDevices devices oldPaths
      newPaths)
    (isResolver : ResolverIs r.nodeName resolver world)
    (honest : ∀ event ∈ events, Honest r.nodeName event)
    (ran : Exec (environment r.nodeName)
      (filterDevices (defaultFilters { vg, bdi, pvs }) blockDevices) world events devices
      after) :
    (devices.available.map (·.kname)).toFinset =
      (newPaths.map target).toFinset \ (oldPaths.map target).toFinset := by
  obtain ⟨deviceClass, -, -, ⟨selector, isSelector, rfl, none⟩, -, -, sameSelector⟩ :=
    change.now
  have resolves : Resolves r.nodeName (Honest r.nodeName) (ResolverIs r.nodeName resolver)
      fun path answer => answer = resolver path := by
    intro path start isResolver
    refine (resolve_honest path isResolver).mono ?_
    rintro _ last ⟨still, rfl⟩
    refine ⟨still, ?_⟩
    unfold resolution
    cases leads : resolver path <;> exact leads.symm ▸ rfl
  obtain ⟨-, -, acceptable⟩ := wp.sound (filterDevices_acceptable resolves isResolver) ran honest
  ext kname
  rw [Finset.mem_sdiff, List.mem_toFinset, List.mem_toFinset, List.mem_toFinset]
  constructor
  · intro isAvailable
    obtain ⟨device, member, rfl⟩ := List.mem_map.mp isAvailable
    obtain ⟨listed, accepts⟩ := acceptable device member
    obtain ⟨path, selected, _, rfl, leads⟩ :=
      accepts.selected selector (sameSelector.trans isSelector)
    rw [DeviceSelector.allPaths, none, List.append_nil] at selected
    rw [ready.reaches path selected] at leads
    refine ⟨List.mem_map.mpr ⟨path, selected, leads⟩, fun isOld => ?_⟩
    -- a device of the volume group fails the check of the signatures
    obtain ⟨inside, isMember, same⟩ := List.mem_map.mp ((ready.exactly _).mpr isOld)
    have located := ready.located inside isMember
    rw [same] at located
    rcases accepts.signature with unsigned | ⟨-, elsewhere | ⟨pv, isPV, denotes, free, -⟩⟩
    · exact ready.signed device listed isOld unsigned
    · have known : inside ∈ pvs := by
        rw [ready.volumes] at isMember
        exact List.mem_of_mem_filter isMember
      obtain ⟨other, isOther, different⟩ := elsewhere inside known
      rw [located] at isOther
      exact different (Option.some.inj isOther)
    · have owned := ready.sole pv isPV inside isMember (by rw [← denotes, same])
      exact ready.named (owned.symm.trans free)
  · rintro ⟨isNew, notOld⟩
    exact ready.passes kname isNew notOld

/-- The number that is checked has the new devices and those that are to leave. -/
theorem ReadyForChange.count
    {resolver : String → Option String}
    {target : String → String}
    {pvs : List PhysicalVolume}
    {blockDevices : List BlockDevice}
    {oldPaths newPaths : List DevicePath}
    (ready : ReadyForChange resolver target vg pvs existing blockDevices devices oldPaths
      newPaths)
    (available : (devices.available.map (·.kname)).toFinset =
      (newPaths.map target).toFinset \ (oldPaths.map target).toFinset)
    (availableOnce : (devices.available.map (·.kname)).Nodup) :
    devices.available.length + existing.pvs.length = newPaths.length +
      ((oldPaths.map target).toFinset \ (newPaths.map target).toFinset).card := by
  have current : (existing.pvs.map fun pv => target pv.pvName).toFinset =
      (oldPaths.map target).toFinset := by
    ext device
    rw [List.mem_toFinset, List.mem_toFinset]
    exact ready.exactly device
  calc devices.available.length + existing.pvs.length
    _ = ((newPaths.map target).toFinset \ (oldPaths.map target).toFinset).card +
        (oldPaths.map target).toFinset.card := by
      rw [← available, ← current, List.toFinset_card_of_nodup availableOnce,
        List.toFinset_card_of_nodup ready.once, List.length_map, List.length_map]
    _ = ((oldPaths.map target).toFinset \ (newPaths.map target).toFinset).card +
        (newPaths.map target).toFinset.card := by
      rw [Finset.card_sdiff_add_card, Finset.card_sdiff_add_card, Finset.union_comm]
    _ = newPaths.length +
        ((oldPaths.map target).toFinset \ (newPaths.map target).toFinset).card := by
      rw [List.toFinset_card_of_nodup ready.distinct, List.length_map, Nat.add_comm]

/-- After a change of the paths the number of devices is accepted exactly if, for
`raid10`, the devices that are to leave form whole groups. -/
theorem checkDeviceCount_change_iff
    {resolver : String → Option String}
    {target : String → String}
    {v : Webhook.Validator}
    {old l : LVMCluster}
    {bdi : GoMap Bool}
    {pvs : List PhysicalVolume}
    {existing : VolumeGroup}
    {blockDevices : List BlockDevice}
    {oldPaths newPaths : List DevicePath}
    {start filtered : World}
    {filtering : List (Event sig World)}
    {result : Except GoError Unit}
    (change : PathChange v old l vg config oldPaths newPaths)
    (ready : ReadyForChange resolver target vg pvs existing blockDevices devices oldPaths
      newPaths)
    (found : vgs.find? (·.name == vg.name) = some existing)
    (isResolver : ResolverIs r.nodeName resolver start)
    (honest : ∀ event ∈ filtering, Honest r.nodeName event)
    (filters : Exec (environment r.nodeName)
      (filterDevices (defaultFilters { vg, bdi, pvs }) blockDevices) start filtering devices
      filtered)
    (checks : Exec (environment r.nodeName)
      (r.checkDeviceCount vg vgs (Reconciler.excludeDiscovered vg vgs devices)).run world
      events result after) :
    result = .ok () ↔ (config.type = .raid10 →
      wrapInt64 (config.effectiveMirrors + 1) ∣
        ((oldPaths.map target).toFinset \ (newPaths.map target).toFinset).card) := by
  obtain ⟨legal, explicit⟩ := change.legal
  have available := available_of_change change ready isResolver honest filters
  obtain ⟨-, verdicts, -, -, -, merges⟩ := filterDevices_review filters
  rw [excludeDiscovered_of_explicit explicit] at checks
  rw [checkDeviceCount_ok_iff change.isRAID found checks,
    ready.count available merges.availableOnce]
  rw [validateRAIDDeviceCount_iff_dvd] at legal ⊢
  have enough : config.leastDevices ≤ ((newPaths.length +
      ((oldPaths.map target).toFinset \ (newPaths.map target).toFinset).card : Nat) : Int) := by
    omega
  simp only [enough, true_and]
  refine forall_congr' fun isRaid10 => ?_
  rw [Int.natCast_add]
  exact Int.dvd_add_right (legal.2 isRaid10)

end Extending

/-- The disks of a volume group. -/
def fourDisks : List DevicePath := ["/dev/sda", "/dev/sdb", "/dev/sdc", "/dev/sdd"]

/-- The disks once the last one is replaced. -/
def otherDisks : List DevicePath := ["/dev/sda", "/dev/sdb", "/dev/sdc", "/dev/sde"]

/-- A `raid10` class on some disks. -/
def mirroredClass (paths : List DevicePath) : DeviceClass where
  name := "vg1"
  deviceSelector := some { paths }
  raidConfig := some { type := .raid10 }

/-- Its volume group once the fourth disk is replaced in the list. -/
def replacedGroup : LVMVolumeGroup where
  metadata := { name := "vg1" }
  spec := {
    raidConfig := some { type := .raid10 }
    deviceSelector := some { paths := otherDisks } }

/-- What LVM reports: the volume group is on the first four disks. -/
def replacedVolumes : VolumeGroup where
  name := "vg1"
  pvs := fourDisks.map fun pvName => { pvName, vgName := "vg1" }

/-- What `lsblk` reports: the fifth disk is empty. -/
def replacedDisks : List BlockDevice :=
  fourDisks.map (fun name => .mk name name "disk" "" "LVM2_member" false "" []) ++
    [.mk "/dev/sde" "/dev/sde" "disk" "" "" false "" []]

/-- A run of the filters on this node. -/
def replacedFiltering : List (Event sig World) × FilteredBlockDevices × World :=
  Program.run (environment "node") (fun _ _ => {})
    (filterDevices (defaultFilters
      { vg := replacedGroup, bdi := [], pvs := replacedVolumes.pvs }) replacedDisks)
    (worldWith replacedVolumes)

/-- The run of the check after it. -/
def replacedCheck : List (Event sig World) × Except GoError Unit × World :=
  Program.run (environment "node") (fun _ _ => {})
    ((Reconciler.plain "node").checkDeviceCount replacedGroup [replacedVolumes]
      (Reconciler.excludeDiscovered replacedGroup [replacedVolumes] replacedFiltering.2.1)).run
    (worldWith replacedVolumes)

theorem replaced_change :
    PathChange (.lenient "storage")
      (Webhook.clusterOf [mirroredClass fourDisks])
      (Webhook.clusterOf [mirroredClass otherDisks])
      replacedGroup { type := .raid10 } fourDisks otherDisks where
  accepted := by decide +kernel
  before := ⟨_, .head _, rfl, _, rfl, rfl, rfl⟩
  now := ⟨_, .head _, rfl, ⟨_, rfl, rfl, rfl⟩, rfl, rfl, rfl⟩

theorem replaced_ready :
    ReadyForChange some id replacedGroup replacedVolumes.pvs replacedVolumes replacedDisks
      replacedFiltering.2.1 fourDisks otherDisks where
  named := by decide
  reaches := fun _ _ => rfl
  located := fun _ _ => rfl
  volumes := by decide
  once := by decide
  sole := by decide
  signed := by decide
  exactly := by simp [replacedVolumes, fourDisks]
  distinct := by decide
  passes := by decide +kernel

theorem worldWith_resolver (volumes : VolumeGroup) :
    ResolverIs "node" some (worldWith volumes) :=
  ⟨fun _ => rfl, by simp [worldWith, World.empty, GoMap.get?]⟩

theorem checkDeviceCount_change_iff_replaced :
    replacedCheck.2.1 = .ok () ↔ (RAIDType.raid10 = .raid10 →
      wrapInt64 (({ type := .raid10 } : RAIDConfig).effectiveMirrors + 1) ∣
        ((fourDisks.map id).toFinset \ (otherDisks.map id).toFinset).card) :=
  @checkDeviceCount_change_iff (Reconciler.plain "node") replacedGroup [replacedVolumes]
    { type := .raid10 } _ _ _ _ _ _ _ _ _ _ _ _ _ _ _ _ _ _ _ replaced_change
    replaced_ready rfl (worldWith_resolver _)
    (Program.run_events _ _ _ honest_of_calm _ _) (Program.run_exec ..) (Program.run_exec ..)

/-- One disk is replaced by another one, which the webhook accepts, and the node
counts five. -/
theorem replaced_disk_refused :
    Webhook.AcceptsUpdate (.lenient "storage")
      (Webhook.clusterOf [mirroredClass fourDisks])
      (Webhook.clusterOf [mirroredClass otherDisks]) ∧
    ReadyForChange some id replacedGroup replacedVolumes.pvs replacedVolumes replacedDisks
      replacedFiltering.2.1 fourDisks otherDisks ∧
    replacedFiltering.2.1.available.length + replacedVolumes.pvs.length = 5 ∧
    replacedCheck.2.1 ≠ .ok () :=
  ⟨replaced_change.accepted, replaced_ready, by decide +kernel, by decide +kernel⟩

end Lvms
