import Lvms.VgManager.ForceWipe

/-!
# The flag of `vgcreate`

`vgcreate` is told to overwrite signatures without asking when the devices have been
wiped. The vg-manager computes the flag with the function that decides whether the
devices are still to be wiped, which is the opposite as soon as wiping is enabled.
-/

namespace Lvms

open Interaction Interaction.Program

/-- A volume group is created with a given flag only. -/
def FlagIs (isWiped : Bool) (request : Request) : Prop :=
  ∀ name yes devices, request = .command (.vgcreate name yes devices) → yes = isWiped

/-- Programs that create no volume group. -/
theorem flagIs_of_within
    {α : Type}
    {effects : List Effect}
    {isWiped : Bool}
    {program : Program sig α}
    (uses : program.Uses (Within effects))
    (absent : .grow ∉ effects) :
    program.Uses (FlagIs isWiped) := by
  refine uses.mono ?_
  rintro _ allowed name yes devices rfl
  exact absurd allowed absent

theorem addDevicesToVG_flag
    (vgs : List VolumeGroup)
    (vgName : String)
    (devices : List BlockDevice)
    (isWiped : Bool) :
    (addDevicesToVG vgs vgName devices isWiped).run.Uses (FlagIs isWiped) := by
  dsimp only [addDevicesToVG]
  split
  · trivial
  split
  · refine .run_bind (.run_mapError ?_) fun _ => trivial
    dsimp only [Lvm.extendVG]
    split
    · trivial
    split
    · trivial
    refine .run_bind (.run_mapError ⟨?_, fun _ => trivial⟩) fun _ => trivial
    rintro name yes devices ⟨⟩
  · refine .run_mapError ?_
    dsimp only [Lvm.createVG]
    split
    · trivial
    split
    · trivial
    refine .run_mapError ⟨?_, fun _ => trivial⟩
    rintro name yes devices ⟨⟩
    rfl

namespace Reconciler

variable (r : Reconciler)

/-- The setup passes the flag on. -/
theorem setUp_flag
    (vg : LVMVolumeGroup)
    (vgs : List VolumeGroup)
    (devices : FilteredBlockDevices) :
    (r.setUp vg vgs devices).run.Uses
      (FlagIs (shouldWipeDevicesOnVolumeGroup r.nodeName vg)) := by
  refine .run_bind (flagIs_of_within (r.checkDeviceCount_uses ..) (by decide)) fun _ => ?_
  refine .run_bind (.run_bind (.run_attempt (addDevicesToVG_flag ..)) fun result => ?_)
    fun _ => ?_
  · cases result with
    | ok => trivial
    | error error => exact flagIs_of_within (r.failWith_uses ..) (by decide)
  refine .run_bind (flagIs_of_within (r.setUpThinPool_uses ..) (by decide)) fun _ => ?_
  refine .run_bind (flagIs_of_within refreshVGs_uses (by decide)) fun _ => ?_
  refine .run_bind (flagIs_of_within (r.applyLVMDConfig_uses ..) (by decide)) fun _ => ?_
  exact .run_bind (flagIs_of_within (r.announceReady_uses ..) (by decide)) fun _ => trivial

theorem reconcileDevices_flag
    (vg : LVMVolumeGroup)
    (vgs : List VolumeGroup)
    (blockDevices : List BlockDevice) :
    (r.reconcileDevices vg vgs blockDevices).run.Uses
      (FlagIs (shouldWipeDevicesOnVolumeGroup r.nodeName vg)) := by
  refine .run_bind (.run_mapError (flagIs_of_within (Lvm.listPVs_uses _) (by decide)))
    fun pvs => ?_
  refine .run_bind (.run_lift (flagIs_of_within (blockDeviceInfos_uses _) (by decide)))
    fun bdi => ?_
  refine .run_bind (.run_lift (flagIs_of_within (filterDevices_uses ..) (by decide)))
    fun devices => ?_
  refine .run_bind (flagIs_of_within (r.checkMandatoryPaths_uses ..) (by decide)) fun _ => ?_
  dsimp only
  split
  · exact flagIs_of_within (r.reconcileExisting_uses ..) (by decide)
  · refine .run_bind (.run_attempt (flagIs_of_within (r.finishStatus_uses ..) (by decide)))
      fun updated => ?_
    split
    · trivial
    · exact r.setUp_flag ..

/-- A reconciliation creates a volume group with the flag set if the devices of the
object it has read are still to be wiped. -/
theorem reconcile_flag (vg : LVMVolumeGroup) :
    (r.reconcile vg).run.Uses
      (FlagIs (shouldWipeDevicesOnVolumeGroup r.nodeName vg)) := by
  dsimp only [reconcile]
  split
  · exact .run_bind (flagIs_of_within (r.processDelete_uses vg) (by decide)) fun _ => trivial
  split
  · exact .run_bind (flagIs_of_within (Client.update_uses ..) (by decide)) fun _ => trivial
  refine .run_bind (.run_mapError (flagIs_of_within (query_uses _) (by decide)))
    fun devices => ?_
  refine .run_bind (flagIs_of_within refreshVGs_uses (by decide)) fun vgs => ?_
  split
  · refine .run_bind (.run_lift (flagIs_of_within (r.warningEvent_uses ..) (by decide)))
      fun _ => ?_
    exact .run_bind (.run_lift (flagIs_of_within (r.reportFailure_uses ..) (by decide)))
      fun _ => trivial
  · refine .run_bind (.run_mapError (flagIs_of_within (wipeDevices_uses ..) (by decide)))
      fun wiped => ?_
    cases wiped with
    | some annotated =>
        exact .run_bind (flagIs_of_within (Client.update_uses ..) (by decide)) fun _ => trivial
    | none => exact r.reconcileDevices_flag ..

end Reconciler

/-! ## The object at the time of the call -/

/-- When a volume group is created, the object is still as given. -/
def CreatedFrom (name : String) (vg : LVMVolumeGroup) (event : Event sig World) : Prop :=
  ∀ vgName yes devices, event.request = .command (.vgcreate vgName yes devices) →
    event.before.api.find? .volumeGroup name = some vg

section

variable {α : Type} {node name : String} {vg : LVMVolumeGroup} {world : World}
variable {effects : List Effect} {program : Program sig α}

theorem wp_createdFrom_of_absent
    (uses : program.Uses (Within effects))
    (absent : .grow ∉ effects) :
    wp (environment node) ⟨fun _ => True, CreatedFrom name vg⟩ program (fun _ _ => True)
      world := by
  refine wp.of_uses uses (fun choice world request allowed _ _ => ⟨?_, trivial⟩) trivial
  rintro _ _ _ rfl
  exact absurd allowed absent

theorem wp_createdFrom_of_untouched
    (uses : program.Uses (Within effects))
    (untouched : ∀ effect ∈ effects, effect.touchesKind .volumeGroup = false)
    (found : world.api.find? .volumeGroup name = some vg) :
    wp (environment node) ⟨fun _ => True, CreatedFrom name vg⟩ program
      (fun _ after => after.api.find? .volumeGroup name = some vg) world := by
  refine wp.of_uses uses (fun choice world request allowed found _ => ⟨?_, ?_⟩) found
  · exact fun _ _ _ _ => found
  · have same := (respond_frame node choice world request allowed).objects .volumeGroup
      untouched
    simpa only [ApiServer.find?, environment, same] using found

theorem Reconciler.reconcile_createdFrom
    (r : Reconciler)
    (found : world.api.find? .volumeGroup name = some vg) :
    wp (environment r.nodeName) ⟨fun _ => True, CreatedFrom name vg⟩ (r.reconcile vg).run
      (fun _ _ => True) world := by
  dsimp only [reconcile]
  split
  · exact wp_createdFrom_of_absent (.run_bind (r.processDelete_uses vg) fun _ => trivial)
      (by decide)
  split
  · exact wp_createdFrom_of_absent (.run_bind (Client.update_uses ..) fun _ => trivial)
      (by decide)
  rw [reconcileLive, wp.run_bind_iff]
  refine (wp_createdFrom_of_untouched (.run_mapError (query_uses _)) (by decide)
    found).mono fun _ _ found => ⟨fun _ _ => trivial, fun devices _ => ?_⟩
  rw [wp.run_bind_iff]
  refine (wp_createdFrom_of_untouched refreshVGs_uses (by decide) found).mono
    fun _ _ found => ⟨fun _ _ => trivial, fun vgs _ => ?_⟩
  split
  · exact wp_createdFrom_of_absent (.run_bind (.run_lift
      (within (r.warningEvent_uses ..) (by decide))) fun _ => .run_bind (.run_lift
      (r.reportFailure_uses ..)) fun _ => trivial) (by decide)
  rw [wp.run_bind_iff]
  refine (wp_createdFrom_of_untouched (.run_mapError (wipeDevices_uses ..)) (by decide)
    found).mono fun _ _ found => ⟨fun _ _ => trivial, fun wiped _ => ?_⟩
  cases wiped with
  | some annotated =>
      exact wp_createdFrom_of_absent (.run_bind (Client.update_uses ..) fun _ => trivial)
        (by decide)
  | none =>
      exact (wp_createdFrom_of_untouched (r.reconcileDevices_uses ..) (by decide)
        found).mono fun _ _ _ => trivial

end

/-- In a reconciliation the flag says that the devices of the object are still to be
wiped. -/
theorem ReconcileStep.flag
    {r : Reconciler}
    {name : String}
    {before after : World}
    {events : List (Event sig World)}
    (step : ReconcileStep r name before events after) :
    ∀ event ∈ events, ∀ vgName yes devices,
      event.request = .command (.vgcreate vgName yes devices) →
      ∃ vg, event.before.api.find? .volumeGroup name = some vg ∧
        yes = shouldWipeDevicesOnVolumeGroup r.nodeName vg := by
  intro event member vgName yes devices creates
  obtain ⟨reading, rest, rfl, reads, ⟨rfl, -⟩ | ⟨vg, result, found, ran⟩⟩ := step.cases
  · rw [List.append_nil] at member
    have isReading := reads event member
    rw [creates] at isReading
    simp [Request.effect, Command.effect] at isReading
  rcases List.mem_append.mp member with early | late
  · have isReading := reads event early
    rw [creates] at isReading
    simp [Request.effect, Command.effect] at isReading
  · have start : (before.withNewResolver r.nodeName).api.find? .volumeGroup name = some vg :=
      found
    refine ⟨vg, ?_, ?_⟩
    · exact ((r.reconcile_createdFrom start).sound ran (by simp)).1 event late vgName yes
        devices creates
    · exact (r.reconcile_flag vg).events_allowed ran event late vgName yes devices creates

/-- The flag agrees only when no wipe is forced. -/
theorem flag_agrees_iff
    {node : String}
    {vg : LVMVolumeGroup}
    {yes : Bool}
    (isFlag : yes = shouldWipeDevicesOnVolumeGroup node vg) :
    (yes = true ↔ IsForced vg ∧ IsMarked node vg) ↔ ¬ IsForced vg := by
  rw [isFlag, shouldWipe_iff]
  by_cases forced : IsForced vg
  · simp only [forced, true_and, not_true_eq_false, iff_false]
    exact not_iff_self
  · simp [forced]

/-- In every run of reconciliations, whatever happens between them, a volume group is
created with the flag that belongs to the wipe exactly if wiping is not enabled. -/
theorem flag_follows_wipe_iff
    {r : Reconciler}
    {name : String}
    {start finish : World}
    {events : List (Event sig World)}
    (run : History (fun before added after =>
      ReconcileStep r name before added after ∨ added = []) start events finish) :
    ∀ event ∈ events, ∀ vgName yes devices,
      event.request = .command (.vgcreate vgName yes devices) →
      ∃ vg, event.before.api.find? .volumeGroup name = some vg ∧
        ((yes = true ↔ IsForced vg ∧ IsMarked r.nodeName vg) ↔ ¬ IsForced vg) := by
  refine run.all_events (fun _ => True) _ trivial fun before added after _ step => ⟨trivial, ?_⟩
  rcases step with reconciled | rfl
  · intro event member vgName yes devices creates
    obtain ⟨vg, found, isFlag⟩ := reconciled.flag event member vgName yes devices creates
    exact ⟨vg, found, flag_agrees_iff isFlag⟩
  · simp

/-! ### A device that cannot be wiped -/

/-- Three reconciliations in which the optional device cannot be wiped; the third one
creates the volume group. -/
def unwipedEvents : List (Event sig World) :=
  let first := reconcileForced wipeFails forcedWorld
  let second := reconcileForced wipeFails first.2.2
  let third := reconcileForced wipeFails second.2.2
  first.1 ++ second.1 ++ third.1

theorem unwipedEvents_history :
    ∃ finish, History (ReconcileStep (.plain "node") "vg1") forcedWorld unwipedEvents
      finish :=
  ⟨_, ((History.single (Reconciler.runWith_step ..)).next
    (Reconciler.runWith_step ..)).next (Reconciler.runWith_step ..)⟩

/-- The event creates a volume group with the flag. -/
def createsWithFlag (event : Event sig World) : Bool :=
  match event.request with
  | .command (.vgcreate _ yes _) => yes
  | _ => false

theorem exists_of_createsWithFlag
    {event : Event sig World}
    (creates : createsWithFlag event = true) :
    ∃ vgName devices, event.request = .command (.vgcreate vgName true devices) := by
  unfold createsWithFlag at creates
  split at creates
  · rename_i vgName yes devices isCreate
    exact ⟨vgName, devices, creates ▸ isCreate⟩
  · cases creates

theorem flag_follows_wipe_iff_unwiped :
    (∃ event ∈ unwipedEvents, createsWithFlag event = true) ∧
      ∀ event ∈ unwipedEvents, ∀ vgName yes devices,
        event.request = .command (.vgcreate vgName yes devices) →
        ∃ vg, event.before.api.find? .volumeGroup "vg1" = some vg ∧
          ((yes = true ↔ IsForced vg ∧ IsMarked "node" vg) ↔ ¬ IsForced vg) := by
  refine ⟨by decide +kernel, ?_⟩
  obtain ⟨finish, run⟩ := unwipedEvents_history
  exact flag_follows_wipe_iff (r := .plain "node")
    (run.mono fun _ _ _ step => .inl step)

/-- A volume group is created with the flag although the wipe of its device has
failed. -/
theorem flag_without_wipe :
    ¬ ∀ (r : Reconciler) (name : String) (start finish : World)
      (events : List (Event sig World)),
      History (ReconcileStep r name) start events finish →
      ∀ event ∈ events, ∀ vgName yes devices,
        event.request = .command (.vgcreate vgName yes devices) →
        ∀ vg, event.before.api.find? .volumeGroup name = some vg →
          (yes = true ↔ IsForced vg ∧ IsMarked r.nodeName vg) := by
  intro follows
  obtain ⟨finish, run⟩ := unwipedEvents_history
  have created : (unwipedEvents.any fun event => createsWithFlag event &&
      (event.before.api.find? .volumeGroup "vg1").any fun vg =>
        !vg.metadata.annotations.has (devicesWipedKey "node")) = true := by
    decide +kernel
  obtain ⟨event, member, creates⟩ := List.any_eq_true.mp created
  rw [Bool.and_eq_true, Option.any_eq_true] at creates
  obtain ⟨isFlagged, vg, found, unmarked⟩ := creates
  obtain ⟨vgName, devices, isCreate⟩ := exists_of_createsWithFlag isFlagged
  have marked : IsMarked "node" vg := ((follows (.plain "node") "vg1" _ _ _ run event member
    vgName true devices isCreate vg found).mp rfl).2
  rw [IsMarked] at marked
  rw [marked] at unmarked
  cases unmarked

end Lvms
