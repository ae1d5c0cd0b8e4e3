import Lvms.VgManager.Filtering
import Lvms.VgManager.Steps
import Lvms.Interaction.Checks
import Lvms.Steady

/-!
# What a ready volume group means

A reconciliation stores the ready state of a volume group only at its end. By then
every step before it has succeeded, and what the steps found out is in the events of
the same reconciliation: the volume group is there, its mandatory paths lead to
usable devices, its thin pool is sound, lvmd knows it, and RAID is healthy.
-/

namespace Lvms

open Interaction Interaction.Program

/-! ## Storing the ready state -/

/-- The call stores a node status that lists the volume group as ready. -/
def persistsReady (name : String) : Request → Bool
  | .api (.create .nodeStatus object) | .api (.update .nodeStatus object) =>
      object.lvmVGStatus.any fun entry => entry.name == name && entry.status == .ready
  | _ => false

/-- The call does not. -/
def Quiet (name : String) (request : Request) : Prop :=
  ¬ persistsReady name request = true

/-- `Ready` is only stored in a node status. -/
theorem touchesKind_of_persistsReady
    {name : String}
    {request : Request}
    (persists : persistsReady name request = true) :
    request.effect.touchesKind .nodeStatus = true := by
  unfold persistsReady at persists
  split at persists
  · rfl
  · rfl
  · cases persists

/-- A footprint without changes to node statuses. -/
theorem quiet
    {α : Type}
    {name : String}
    {effects : List Effect}
    {program : Program sig α}
    (uses : program.Uses (Within effects))
    (untouched : ∀ effect ∈ effects, effect.touchesKind .nodeStatus = false) :
    program.Uses (Quiet name) := by
  refine uses.mono fun request allowed persists => ?_
  have touches := touchesKind_of_persistsReady persists
  rw [untouched _ allowed] at touches
  cases touches

/-- All entries for the volume group are replaced. -/
theorem eq_of_mem_putVGStatus
    {status entry : VGStatus}
    {entries : List VGStatus}
    (member : entry ∈ putVGStatus status entries)
    (named : entry.name = status.name) :
    entry = status := by
  unfold putVGStatus at member
  split at member
  · obtain ⟨old, _, rfl⟩ := List.mem_map.mp member
    split at named
    · rename_i same
      simp [same]
    · rename_i different
      exact absurd named (by simpa using different)
  · rename_i absent
    rcases List.mem_append.mp member with old | new
    · exact absurd (List.any_eq_true.mpr ⟨entry, old, by simpa using named⟩) absent
    · exact List.mem_singleton.mp new

namespace Reconciler

variable {r : Reconciler} {vg : LVMVolumeGroup} {vgs : List VolumeGroup}
variable {devices : FilteredBlockDevices}

/-- A state other than `Ready` is not stored as `Ready`. -/
theorem setVolumeGroupStatus_quiet
    {status : VGStatus}
    (named : status.name = vg.name)
    (notReady : status.status ≠ .ready) :
    (r.setVolumeGroupStatus vg status).run.Uses (Quiet vg.name) := by
  refine .run_bind (.run_mapError (.run_bind (Client.createOrUpdateObject_uses_of
    (by simp [Quiet, persistsReady]) ?_) fun _ => trivial)) fun _ => trivial
  rintro existing object changed
  obtain rfl := Except.ok.inj changed
  suffices none : ∀ entry ∈ putVGStatus
      { status with deviceDiscoveryPolicy := discoveryPolicyStatus vg }
      existing.lvmVGStatus, entry.name = vg.name → entry.status ≠ .ready by
    simpa [Quiet, persistsReady] using none
  intro entry member isVG
  rw [eq_of_mem_putVGStatus member (isVG.trans named.symm)]
  exact notReady

/-- What the RAID status makes of a status. -/
theorem applyRAIDStatus_yields
    {config : RAIDConfig}
    {status : VGStatus} :
    (r.applyRAIDStatus vg config vgs status).run.Yields fun result =>
      ∀ final, result = .ok final → final.name = status.name ∧
        (final.status = status.status ∨ final.status = .degraded) := by
  refine .run_bind (by simp) fun report => .run_bind (by simp) fun _ => ?_
  split
  · rintro _ ⟨⟩
    exact ⟨rfl, .inl rfl⟩
  · rintro _ ⟨⟩
    refine ⟨rfl, ?_⟩
    dsimp only
    split
    · exact .inl rfl
    · exact .inr rfl

/-- The RAID status does not make another state `Ready`. -/
theorem finishStatus_quiet
    {status : VGStatus}
    (named : status.name = vg.name)
    (notReady : status.status ≠ .ready) :
    (r.finishStatus vg vgs status).run.Uses (Quiet vg.name) := by
  unfold finishStatus
  split
  · exact setVolumeGroupStatus_quiet named notReady
  · refine .run_bind_of_yields (.run_mapError (quiet (r.applyRAIDStatus_uses ..)
      (by decide))) (.run_mapError applyRAIDStatus_yields) ?_
    rintro final ⟨sameName, sameOr⟩
    refine setVolumeGroupStatus_quiet (sameName.trans named) ?_
    rcases sameOr with same | degraded
    · rwa [same]
    · rw [degraded]
      decide

/-- A failure is not reported as `Ready`. -/
theorem reportFailure_quiet (error : GoError) :
    (r.reportFailure vg vgs devices error).Uses (Quiet vg.name) := by
  refine .bind ?_ fun _ => trivial
  unfold setVolumeGroupFailedStatus
  dsimp only
  split
  · exact finishStatus_quiet rfl (by simp)
  · exact finishStatus_quiet rfl (by simp [setDevices])

theorem setVolumeGroupProgressingStatus_quiet :
    (r.setVolumeGroupProgressingStatus vg vgs devices).run.Uses (Quiet vg.name) :=
  finishStatus_quiet rfl (by simp [setDevices])

/-- A step that fails does not store `Ready`. -/
theorem failWith_quiet {α : Type} (reason : String) (error : GoError) :
    (r.failWith vg vgs devices reason error : Go α).run.Uses (Quiet vg.name) :=
  .run_bind (.run_lift (quiet (r.warningEvent_uses ..) (by decide))) fun _ =>
    .run_bind (.run_lift (reportFailure_quiet _)) fun _ => trivial

/-- A step that does not store `Ready` may fail. -/
theorem orFailWith_quiet
    {reason : String}
    {wrap : GoError → GoError}
    {step : Go Unit}
    (uses : step.run.Uses (Quiet vg.name)) :
    (r.orFailWith vg vgs devices reason wrap step).run.Uses (Quiet vg.name) := by
  refine .run_bind (.run_attempt uses) fun result => ?_
  cases result with
  | ok _ => trivial
  | error error => exact failWith_quiet ..

theorem validateOrFail_quiet :
    (r.validateOrFail vg vgs devices).run.Uses (Quiet vg.name) :=
  orFailWith_quiet (quiet (r.validateLVs_uses _) (by decide))

/-- Writing the configuration of lvmd does not store `Ready`. -/
theorem applyLVMDConfig_quiet :
    (r.applyLVMDConfig vg vgs devices).run.Uses (Quiet vg.name) := by
  have reports {α : Type} (error : GoError) :
      (do
        r.reportFailure vg vgs devices error
        throw error : Go α).run.Uses (Quiet vg.name) :=
    .run_bind (.run_lift (reportFailure_quiet _)) fun _ => trivial
  refine .run_bind (.run_attempt (quiet (Lvmd.CachedFileConfig.load_uses _) (by decide)))
    fun loaded => ?_
  cases loaded with
  | error error => exact reports _
  | ok loaded =>
      refine .run_bind trivial fun newConfig => ?_
      refine .run_bind (.run_attempt (quiet (r.updateLVMDConfigAfterReconcile_uses ..)
        (by decide))) fun updated => ?_
      cases updated with
      | ok _ => trivial
      | error error => exact reports _

end Reconciler

/-! ## The verdicts of the filters -/

/-- Somewhere in the events all filters were applied to the device, with these
errors. -/
def Judged
    (node : String)
    (filters : GoMap (BlockDevice → Go Unit))
    (events : List (Event sig World))
    (device : BlockDevice)
    (errors : List GoError) : Prop :=
  ∃ order, order.Perm filters.keys ∧
    Ran (environment node) (filterErrors filters device order) errors events

section Verdicts

variable {node : String} {filters : GoMap (BlockDevice → Go Unit)}
variable {verdict : BlockDevice → List GoError → Prop}
variable {world after : World} {events all : List (Event sig World)}
variable {state : FilterState} {result : FilteredBlockDevices}

/-- The values of a map in some order. -/
theorem mem_of_mapValues
    {α : Type}
    {entries : GoMap α}
    {values : List α}
    {value : α}
    (ran : Exec (environment node) (mapValues entries) world events values after)
    (member : value ∈ values) :
    ∃ entry ∈ entries, entry.2 = value := by
  obtain ⟨_, order, _, _, -, returned, -⟩ := Exec.bind_iff.mp ran
  obtain ⟨-, rfl, -⟩ := Exec.pure_iff.mp returned
  obtain ⟨key, -, found⟩ := List.mem_filterMap.mp member
  exact ⟨_, GoMap.mem_of_get? found, rfl⟩

/-- The devices of a state have their verdicts. -/
structure FilterState.Settled
    (verdict : BlockDevice → List GoError → Prop)
    (state : FilterState) : Prop where
  available : ∀ entry ∈ state.available, verdict entry.2 []
  excluded : ∀ entry ∈ state.excluded, verdict entry.2.device entry.2.filterErrors

/-- The devices of a result have their verdicts. -/
structure FilteredBlockDevices.Settled
    (verdict : BlockDevice → List GoError → Prop)
    (devices : FilteredBlockDevices) : Prop where
  available : ∀ device ∈ devices.available, verdict device []
  excluded : ∀ filtered ∈ devices.excluded,
    verdict filtered.device filtered.filterErrors

/-- Without devices there are no verdicts. -/
theorem FilterState.Settled.empty : ({} : FilterState).Settled verdict :=
  ⟨by simp, by simp⟩

/-- The result has the verdicts of the state. -/
theorem FilterState.finish_settled
    (settled : state.Settled verdict)
    (ran : Exec (environment node) state.finish world events result after) :
    result.Settled verdict := by
  obtain ⟨_, excluded, _, _, excludes, ran, -⟩ := Exec.bind_iff.mp ran
  obtain ⟨_, available, _, _, offers, ran, -⟩ := Exec.bind_iff.mp ran
  obtain ⟨-, rfl, -⟩ := Exec.pure_iff.mp ran
  constructor
  · intro device member
    obtain ⟨entry, inMap, rfl⟩ := mem_of_mapValues offers member
    exact settled.available entry inMap
  · intro filtered member
    obtain ⟨entry, inMap, rfl⟩ := mem_of_mapValues excludes member
    exact settled.excluded entry inMap

/-- Entering values under free keys adds no other values. -/
theorem mem_foldl_insertNew
    {α : Type}
    {key : α → String}
    (good : α → Prop)
    {values : List α}
    {entries : GoMap α}
    (valuesGood : ∀ value ∈ values, good value)
    (entriesGood : ∀ entry ∈ entries, good entry.2) :
    ∀ entry ∈ values.foldl (fun entries value => insertNew entries (key value) value)
      entries, good entry.2 := by
  induction values generalizing entries with
  | nil => exact entriesGood
  | cons value rest inductionHypothesis =>
      rw [List.forall_mem_cons] at valuesGood
      refine inductionHypothesis valuesGood.2 fun entry member => ?_
      rcases GoMap.mem_insertNew member with same | old
      · exact same ▸ valuesGood.1
      · exact entriesGood entry old

/-- Merging the result of the children keeps the verdicts. -/
theorem FilterState.Settled.merge
    (settled : state.Settled verdict)
    (resultSettled : result.Settled verdict) :
    (state.merge result).Settled verdict where
  available := mem_foldl_insertNew (verdict · []) resultSettled.available
    settled.available
  excluded := mem_foldl_insertNew
    (fun filtered : FilteredBlockDevice =>
      verdict filtered.device filtered.filterErrors)
    resultSettled.excluded settled.excluded

/-- Whenever the filters are applied to the device in the events, the verdict is
right. -/
def Decides
    (node : String)
    (filters : GoMap (BlockDevice → Go Unit))
    (all : List (Event sig World))
    (verdict : BlockDevice → List GoError → Prop)
    (device : BlockDevice) : Prop :=
  ∀ errors, Judged node filters all device errors → verdict device errors

/-- A device that is classified has its verdict. -/
theorem classify_settled
    {device : BlockDevice}
    {result : FilterState}
    (inside : events <:+: all)
    (decides : Decides node filters all verdict device)
    (settled : state.Settled verdict)
    (ran : Exec (environment node) (classify filters device state) world events result
      after) :
    result.Settled verdict := by
  obtain ⟨_, order, _, _, orders, ran, -, inside⟩ := ran.bind_inside inside
  obtain ⟨_, errors, _, _, applied, ran, insideApplied, -⟩ := ran.bind_inside inside
  have right := decides errors
    ⟨order, (mapOrder_perm orders).1, applied.ran.of_part insideApplied⟩
  split at ran
  · rename_i empty
    obtain ⟨-, rfl, -⟩ := Exec.pure_iff.mp ran
    rw [List.isEmpty_iff.mp empty] at right
    refine ⟨fun entry member => ?_, settled.excluded⟩
    rcases GoMap.mem_set member with same | old
    · exact same ▸ right
    · exact settled.available entry old
  · obtain ⟨-, rfl, -⟩ := Exec.pure_iff.mp ran
    refine ⟨settled.available, fun entry member => ?_⟩
    rcases GoMap.mem_insertNew member with same | old
    · exact same ▸ right
    · exact settled.excluded entry old

mutual

/-- A device and those below it have their verdicts. -/
theorem filterDevice_settled
    {world after : World}
    {events : List (Event sig World)}
    {state result : FilterState}
    (settled : state.Settled verdict)
    (inside : events <:+: all) :
    (device : BlockDevice) →
    (∀ inner ∈ device.subtree, Decides node filters all verdict inner) →
    Exec (environment node) (filterDevice filters state device) world events result
      after →
    result.Settled verdict
  | .mk _ _ _ _ _ _ _ children, decides, ran => by
      rw [BlockDevice.subtree, List.forall_mem_cons] at decides
      rw [filterDevice] at ran
      dsimp only at ran
      split at ran
      · exact classify_settled inside decides.1 settled ran
      · obtain ⟨_, inner, _, _, loops, ran, insideLoop, inside⟩ := ran.bind_inside inside
        obtain ⟨_, result, _, _, finishes, ran, -, inside⟩ := ran.bind_inside inside
        have innerSettled := filterLoop_settled .empty insideLoop children decides.2 loops
        exact classify_settled inside decides.1
          (settled.merge (FilterState.finish_settled innerSettled finishes)) ran

/-- All devices of a list have their verdicts. -/
theorem filterLoop_settled
    {world after : World}
    {events : List (Event sig World)}
    {state result : FilterState}
    (settled : state.Settled verdict)
    (inside : events <:+: all) :
    (devices : List BlockDevice) →
    (∀ device ∈ allDevices devices, Decides node filters all verdict device) →
    Exec (environment node) (filterLoop filters state devices) world events result
      after →
    result.Settled verdict
  | [], _, ran => by
      rw [filterLoop] at ran
      obtain ⟨-, rfl, -⟩ := Exec.pure_iff.mp ran
      exact settled
  | device :: rest, decides, ran => by
      rw [allDevices, List.forall_mem_append] at decides
      rw [filterLoop] at ran
      obtain ⟨_, next, _, _, filters, ran, insideFirst, inside⟩ := ran.bind_inside inside
      exact filterLoop_settled
        (filterDevice_settled settled insideFirst device decides.1 filters) inside rest
        decides.2 ran

end

/-- Every device of a result is in the tree and was judged as the result says. -/
theorem filterDevices_settled
    {devices : List BlockDevice}
    (inside : events <:+: all)
    (ran : Exec (environment node) (filterDevices filters devices) world events result
      after) :
    result.Settled fun device errors =>
      device ∈ allDevices devices ∧ Judged node filters all device errors := by
  obtain ⟨_, state, _, _, loops, finishes, insideLoop, -⟩ := ran.bind_inside inside
  refine FilterState.finish_settled ?_ finishes
  exact filterLoop_settled .empty insideLoop devices
    (fun device member errors judged => ⟨member, judged⟩) loops

end Verdicts

/-! ## Steps that succeed -/

namespace Reconciler

variable {r : Reconciler} {vg : LVMVolumeGroup} {vgs : List VolumeGroup}
variable {devices : FilteredBlockDevices}
variable {world after : World} {events all : List (Event sig World)}
variable {reason node vgName : String} {lv : LogicalVolume} {config : ThinPoolConfig}

/-- `failWith` never succeeds. -/
theorem failWith_not_ok
    {α : Type}
    {error : GoError}
    {value : α} :
    ¬ Exec (environment r.nodeName) (r.failWith vg vgs devices reason error).run world
      events (.ok value) after := by
  intro ran
  obtain ⟨_, _, _, _, -, ran, -⟩ := Exec.run_bind_ok_iff.mp ran
  obtain ⟨_, _, _, _, -, ran, -⟩ := Exec.run_bind_ok_iff.mp ran
  exact Exec.run_throw_not_ok ran

/-- A step whose error would be reported has succeeded. -/
theorem orFailWith_ok
    {wrap : GoError → GoError}
    {step : Go Unit}
    (ran : Exec (environment r.nodeName)
      (r.orFailWith vg vgs devices reason wrap step).run world events (.ok ()) after) :
    Exec (environment r.nodeName) step.run world events (.ok ()) after := by
  obtain ⟨outcome, _, _, _, attempted, ran, rfl⟩ := Exec.run_bind_ok_iff.mp ran
  cases outcome with
  | ok done =>
      obtain ⟨rfl, -, rfl⟩ := Exec.run_pure_iff.mp ran
      simpa using Exec.run_attempt_ok_iff.mp attempted
  | error error => exact absurd ran failWith_not_ok

/-- The path leads to a device that is available or set up already. -/
def PathServed
    (node : String)
    (devices : FilteredBlockDevices)
    (events : List (Event sig World))
    (path : DevicePath) : Prop :=
  ∃ target, Ran (environment node) (resolve path).run (.ok target) events ∧
    (devices.isAvailable target = true ∨
      ∃ error ∈ devices.errorsOf target, error.is errDeviceAlreadySetupCorrectly = true)

/-- When the check passes, every required path is served. -/
theorem verifyMandatoryDevicePaths_ok
    {paths : List DevicePath}
    (inside : events <:+: all)
    (ran : Exec (environment node) (verifyMandatoryDevicePaths devices paths).run world
      events (.ok ()) after) :
    ∀ path ∈ paths, PathServed node devices all path := by
  induction paths generalizing world events with
  | nil => simp
  | cons path rest inductionHypothesis =>
      obtain ⟨target, _, _, _, resolves, ran, insideFirst, inside⟩ :=
        ran.run_bind_ok_inside inside
      dsimp only at ran
      split at ran
      · exact absurd ran Exec.run_throw_bind_not_ok
      · rename_i served
        refine List.forall_mem_cons.mpr ⟨⟨target, ?_, ?_⟩, inductionHypothesis inside ran⟩
        · exact (Exec.run_mapError_ok_iff.mp resolves).ran.of_part insideFirst
        · simpa [or_iff_not_imp_left] using served

/-- What the checks ask of the logical volume of a thin pool. -/
structure SoundPool
    (numerals : Numerals)
    (config : ThinPoolConfig)
    (lv : LogicalVolume) : Prop where
  named : lv.name = config.name
  isPool : ∃ attr, parsedLvAttr lv.lvAttr = .ok attr ∧
    attr.volumeType = volumeTypeThinPool
  metadata : ∃ percent, numerals.parseFloat32 lv.metadataPercent = .ok percent ∧
    percent ≤ 95
  chunks : config.chunkSizeCalculationPolicy ≠ .host →
    numerals.parseInt lv.chunkSize = .ok (convertChunkSize config)

/-- When the check passes, the logical volume is a thin pool. -/
theorem ensureActiveThinPool_ok
    (ran : Exec (environment r.nodeName) (ensureActiveThinPool vgName lv).run world events
      (.ok ()) after) :
    ∃ attr, parsedLvAttr lv.lvAttr = .ok attr ∧ attr.volumeType = volumeTypeThinPool := by
  obtain ⟨attr, _, _, _, parses, ran, -⟩ := Exec.run_bind_ok_iff.mp ran
  obtain ⟨-, parsed, -⟩ := Exec.pure_iff.mp (Exec.run_mapError_ok_iff.mp parses)
  refine ⟨attr, parsed.symm, ?_⟩
  by_contra other
  rw [if_pos other] at ran
  exact Exec.run_throw_bind_not_ok ran

/-- When the check passes, a static chunk size is the configured one. -/
theorem verifyChunkSizeForPolicy_ok
    (passed : r.verifyChunkSizeForPolicy config lv = .ok ())
    (static : config.chunkSizeCalculationPolicy ≠ .host) :
    r.numerals.parseInt lv.chunkSize = .ok (convertChunkSize config) := by
  unfold verifyChunkSizeForPolicy at passed
  rw [if_neg static] at passed
  split at passed
  · rename_i size parsed
    rw [parsed]
    split at passed
    · cases passed
    · rename_i same
      rw [not_not.mp same]
  · cases passed

/-- What the checks of the sizes have found when they pass. -/
theorem verifyThinPoolSizes_ok
    (ran : Exec (environment r.nodeName) (r.verifyThinPoolSizes vgName config lv).run
      world events (.ok ()) after) :
    (∃ percent, r.numerals.parseFloat32 lv.metadataPercent = .ok percent ∧
      percent ≤ 95) ∧
    (config.chunkSizeCalculationPolicy ≠ .host →
      r.numerals.parseInt lv.chunkSize = .ok (convertChunkSize config)) := by
  obtain ⟨percent, _, _, _, parses, ran, -⟩ := Exec.run_bind_ok_iff.mp ran
  obtain ⟨-, parsed, -⟩ := Exec.pure_iff.mp (Exec.run_mapError_ok_iff.mp parses)
  dsimp only at ran
  split at ran
  · exact absurd ran Exec.run_throw_bind_not_ok
  · rename_i fits
    obtain ⟨_, _, _, _, verifies, -⟩ := Exec.run_bind_ok_iff.mp ran
    obtain ⟨-, verified, -⟩ := Exec.pure_iff.mp verifies
    exact ⟨⟨percent, parsed.symm, Rat.not_lt.mp fits⟩,
      verifyChunkSizeForPolicy_ok verified.symm⟩

/-- The inner loop finds the pool only in a sound row. -/
theorem validateRows_ok
    {before : Bool}
    {rows : List LogicalVolume}
    (ran : Exec (environment r.nodeName) (r.validateRows vgName config before rows).run
      world events (.ok true) after) :
    before = true ∨ ∃ lv ∈ rows, SoundPool r.numerals config lv := by
  induction rows generalizing world events before with
  | nil =>
      obtain ⟨-, same, -⟩ := Exec.run_pure_iff.mp ran
      exact .inl (Except.ok.inj same).symm
  | cons lv rest inductionHypothesis =>
      rw [validateRows] at ran
      split at ran
      · refine (inductionHypothesis ran).imp_right ?_
        rintro ⟨found, member, sound⟩
        exact ⟨found, .tail _ member, sound⟩
      · rename_i named
        obtain ⟨_, _, _, _, activates, ran, -⟩ := Exec.run_bind_ok_iff.mp ran
        obtain ⟨_, _, _, _, verifies, -⟩ := Exec.run_bind_ok_iff.mp ran
        obtain ⟨metadata, chunks⟩ := verifyThinPoolSizes_ok verifies
        exact .inr ⟨lv, .head _, not_not.mp named, ensureActiveThinPool_ok activates,
          metadata, chunks⟩

/-- When the check passes, every report lists a sound pool. -/
theorem validateReports_ok
    {report : List (List LogicalVolume)}
    (ran : Exec (environment r.nodeName) (r.validateReports vgName config report).run
      world events (.ok ()) after) :
    ∀ rows ∈ report, ∃ lv ∈ rows, SoundPool r.numerals config lv := by
  induction report generalizing world events with
  | nil => simp
  | cons rows rest inductionHypothesis =>
      rw [validateReports] at ran
      dsimp only at ran
      split at ran
      · exact absurd ran Exec.run_throw_bind_not_ok
      · obtain ⟨found, _, _, _, validates, ran, -⟩ := Exec.run_bind_ok_iff.mp ran
        cases found with
        | false => exact absurd ran Exec.run_throw_bind_not_ok
        | true =>
            refine List.forall_mem_cons.mpr ⟨?_, inductionHypothesis ran⟩
            simpa using validateRows_ok validates

/-- The thin pool was listed, and the checks accepted it. -/
def PoolListed
    (r : Reconciler)
    (vg : LVMVolumeGroup)
    (events : List (Event sig World)) : Prop :=
  ∀ config, vg.spec.thinPoolConfig = some config →
    ∃ report, Ran (environment r.nodeName) (Lvm.listLVs vg.name).run (.ok report) events ∧
      ∃ lv ∈ report.flatten, SoundPool r.numerals config lv

/-- When the check passes, LVM has listed the thin pool. -/
theorem validateLVs_ok
    (inside : events <:+: all)
    (ran : Exec (environment r.nodeName) (r.validateLVs vg).run world events (.ok ())
      after) :
    PoolListed r vg all := by
  intro config isThin
  simp only [validateLVs, isThin] at ran
  obtain ⟨report, _, _, _, lists, ran, insideFirst, -⟩ := ran.run_bind_ok_inside inside
  refine ⟨report, (Exec.run_mapError_ok_iff.mp lists).ran.of_part insideFirst, ?_⟩
  split at ran
  · exact absurd ran Exec.run_throw_bind_not_ok
  · rename_i notEmpty
    obtain ⟨rows, others, rfl⟩ := List.exists_cons_of_ne_nil (by simpa using notEmpty)
    obtain ⟨lv, member, sound⟩ := validateReports_ok ran rows (.head _)
    exact ⟨lv, List.mem_flatten_of_mem (.head _) member, sound⟩

/-! ### The configuration of lvmd -/

/-- The new configuration has a device class for the volume group. -/
theorem exists_of_refreshDeviceClasses
    {old new : List Lvmd.DeviceClass}
    (refreshed : refreshDeviceClasses vg old = .ok (some new)) :
    ∃ deviceClass ∈ new, deviceClass.name = vg.name := by
  induction old generalizing new with
  | nil => cases refreshed
  | cons first rest inductionHypothesis =>
      rw [refreshDeviceClasses] at refreshed
      split at refreshed
      · rename_i named
        obtain ⟨updated, isUpdated, same⟩ := Except.bind_eq_ok_iff.mp refreshed
        obtain rfl := Option.some.inj (Except.ok.inj same)
        exact ⟨updated, .head _, (refreshDeviceClass_keeps isUpdated).1.trans named⟩
      · obtain ⟨found, isFound, same⟩ := Except.bind_eq_ok_iff.mp refreshed
        obtain ⟨later, rfl, rfl⟩ := Option.map_eq_some_iff.mp (Except.ok.inj same)
        obtain ⟨deviceClass, member, named⟩ := inductionHypothesis isFound
        exact ⟨deviceClass, .tail _ member, named⟩

/-- The new configuration has the device class of the volume group. -/
theorem exists_of_withDeviceClass
    {old new : Lvmd.Config}
    (changed : withDeviceClass vg old = .ok new) :
    ∃ deviceClass ∈ new.deviceClasses, deviceClass.name = vg.name := by
  obtain ⟨found, refreshed, same⟩ := Except.bind_eq_ok_iff.mp changed
  cases found with
  | some deviceClasses =>
      obtain rfl := Except.ok.inj same
      exact exists_of_refreshDeviceClasses refreshed
  | none =>
      obtain rfl := Except.ok.inj same
      exact ⟨newDeviceClass vg, by simp, (newDeviceClass_keeps vg).1⟩

/-- The configuration was loaded with the device class of the volume group, or saved
with it afterwards. -/
def ConfigStored
    (r : Reconciler)
    (vg : LVMVolumeGroup)
    (events : List (Event sig World)) : Prop :=
  ∃ loaded config loading rest world after,
    loading ++ rest <:+: events ∧
    Exec (environment r.nodeName) (Lvmd.CachedFileConfig.load r.lvmd).run world loading
      (.ok loaded) after ∧
    (loaded = some config ∨ Ran (environment r.nodeName)
      (Lvmd.CachedFileConfig.save r.lvmd config).run (.ok ()) rest) ∧
    ∃ deviceClass ∈ config.deviceClasses, deviceClass.name = vg.name

theorem normalEvent_unchanged
    {message : String}
    {result : Except GoError Unit}
    (ran : Exec (environment r.nodeName)
      (liftM (r.normalEvent vg reason message) : Go Unit).run world events result after) :
    after = world :=
  (Exec.of_reading ran (.run_lift (r.normalEvent_uses vg reason message))).1

/-- A configuration that differs is saved; the events around it change nothing. -/
theorem updateLVMDConfigAfterReconcile_cases
    {old new : Lvmd.Config}
    {wasMissing : Bool}
    (ran : Exec (environment r.nodeName)
      (r.updateLVMDConfigAfterReconcile vg old new wasMissing).run world events (.ok ())
      after) :
    (old = new ∧ after = world) ∨
      ∃ saving, saving <:+: events ∧ Exec (environment r.nodeName)
        (Lvmd.CachedFileConfig.save r.lvmd new).run world saving (.ok ()) after := by
  have saves {events : List (Event sig World)}
      (ran : Exec (environment r.nodeName) (do
        Fallible.mapError
          (GoError.wrapped ("failed to update lvmd config file to update volume " ++
            "group " ++ vg.name))
          (Lvmd.CachedFileConfig.save r.lvmd new)
        r.normalEvent vg "LVMDConfigUpdated"
          "updated lvmd config with new deviceClasses" : Go Unit).run world events (.ok ())
        after) :
      ∃ saving, saving <:+: events ∧ Exec (environment r.nodeName)
        (Lvmd.CachedFileConfig.save r.lvmd new).run world saving (.ok ()) after := by
    obtain ⟨_, saving, saved, _, saves, announces, rfl⟩ := Exec.run_bind_ok_iff.mp ran
    obtain rfl := normalEvent_unchanged announces
    exact ⟨saving, (List.prefix_append ..).isInfix, Exec.run_mapError_ok_iff.mp saves⟩
  dsimp only [updateLVMDConfigAfterReconcile] at ran
  split at ran
  · rename_i same
    obtain ⟨-, -, rfl⟩ := Exec.run_pure_iff.mp ran
    exact .inl ⟨same, rfl⟩
  · right
    split at ran
    · obtain ⟨_, _, between, later, announces, rest, rfl⟩ := Exec.run_bind_ok_iff.mp ran
      obtain rfl : world = between := (normalEvent_unchanged announces).symm
      obtain ⟨saving, inside, saved⟩ := saves rest
      exact ⟨saving, inside.trans (List.suffix_append ..).isInfix, saved⟩
    · exact saves ran

/-- What a successful run does: it loads the configuration, and saves it with the device
class of the volume group if that changes it. -/
theorem applyLVMDConfig_cases
    (ran : Exec (environment r.nodeName) (r.applyLVMDConfig vg vgs devices).run world
      events (.ok ()) after) :
    ∃ loaded new between loading rest, events = loading ++ rest ∧
      Exec (environment r.nodeName) (Lvmd.CachedFileConfig.load r.lvmd).run world loading
        (.ok loaded) between ∧
      withDeviceClass vg (loaded.getD {}) = .ok new ∧
      ((loaded = some new ∧ after = between) ∨
        ∃ saving, saving <:+: rest ∧ Exec (environment r.nodeName)
          (Lvmd.CachedFileConfig.save r.lvmd new).run between saving (.ok ()) after) := by
  obtain ⟨outcome, loading, between, rest, loads, ran, rfl⟩ := Exec.run_bind_ok_iff.mp ran
  cases outcome with
  | error error =>
      obtain ⟨_, _, _, _, -, throws, -⟩ := Exec.run_bind_ok_iff.mp ran
      exact absurd throws Exec.run_throw_not_ok
  | ok loaded =>
      obtain ⟨new, _, same, later, computes, saves, rfl⟩ := Exec.run_bind_ok_iff.mp ran
      obtain ⟨rfl, computed, isSame⟩ := Exec.pure_iff.mp computes
      obtain rfl : between = same := isSame.symm
      obtain ⟨saved, saving, _, last, updates, ends, rfl⟩ := Exec.run_bind_ok_iff.mp saves
      cases saved with
      | error error =>
          obtain ⟨_, _, _, _, -, throws, -⟩ := Exec.run_bind_ok_iff.mp ends
          exact absurd throws Exec.run_throw_not_ok
      | ok done =>
          obtain ⟨rfl, -, rfl⟩ := Exec.run_pure_iff.mp ends
          refine ⟨loaded, new, between, loading, _, rfl, Exec.run_attempt_ok_iff.mp loads,
            computed.symm, ?_⟩
          rw [List.nil_append, List.append_nil]
          rcases updateLVMDConfigAfterReconcile_cases
            (Exec.run_attempt_ok_iff.mp updates) with ⟨same, unchanged⟩ | saved
          · left
            refine ⟨?_, unchanged⟩
            rw [Lvmd.deepCopyConfig_eq] at same
            cases loaded with
            | some old => exact congrArg some same
            | none =>
                -- A new configuration has no device class yet.
                obtain ⟨_, member, _⟩ := exists_of_withDeviceClass computed.symm
                simp [← same] at member
          · exact .inr saved

/-- After it succeeds, the device class is in the stored configuration. -/
theorem applyLVMDConfig_ok
    (inside : events <:+: all)
    (ran : Exec (environment r.nodeName) (r.applyLVMDConfig vg vgs devices).run world
      events (.ok ()) after) :
    ConfigStored r vg all := by
  obtain ⟨loaded, new, between, loading, rest, rfl, loads, computed, unchanged | saves⟩ :=
    applyLVMDConfig_cases ran
  · exact ⟨loaded, new, loading, rest, _, _, inside, loads, .inl unchanged.1,
      exists_of_withDeviceClass computed⟩
  · obtain ⟨saving, isPart, saved⟩ := saves
    exact ⟨loaded, new, loading, rest, _, _, inside, loads, .inr (saved.ran.of_part isPart),
      exists_of_withDeviceClass computed⟩

/-! ### The volume group -/

/-- The volume group was listed with the tag, created or extended. -/
def Established
    (node name : String)
    (events : List (Event sig World)) : Prop :=
  (∃ vgs, Ran (environment node) (Lvm.listVGs true).run (.ok vgs) events ∧
    ∃ found ∈ vgs, found.name = name) ∨
  (∃ pvs isWiped, Ran (environment node) (Lvm.createVG { name, pvs } isWiped).run (.ok ())
    events) ∨
  ∃ existing pvs extended, existing.name = name ∧
    Ran (environment node) (Lvm.extendVG existing pvs).run (.ok extended) events

/-- After it succeeds, the volume group is established. -/
theorem addDevicesToVG_ok
    {blockDevices : List BlockDevice}
    {isWiped : Bool}
    (inside : events <:+: all)
    (ran : Exec (environment node) (addDevicesToVG vgs vgName blockDevices isWiped).run
      world events (.ok ()) after) :
    Established node vgName all := by
  right
  dsimp only [addDevicesToVG] at ran
  split at ran
  · exact absurd ran Exec.run_throw_bind_not_ok
  · split at ran
    · rename_i existing isLast
      obtain ⟨extended, _, _, _, extends', -, insideFirst, -⟩ :=
        ran.run_bind_ok_inside inside
      have member := List.mem_of_mem_getLast? isLast
      exact .inr ⟨existing, _, extended, by simpa using (List.mem_filter.mp member).2,
        (Exec.run_mapError_ok_iff.mp extends').ran.of_part insideFirst⟩
    · exact .inl ⟨_, _, (Exec.run_mapError_ok_iff.mp ran).ran.of_part inside⟩

/-! ### RAID -/

/-- The physical volumes that the status of a volume group counts. -/
def memberPVs (name : String) (vgs : List VolumeGroup) : List PhysicalVolume :=
  match vgs.find? (·.name == name) with
  | some existing => existing.pvs
  | none => []

/-- There is no RAID status, or a healthy one. -/
def Healthy
    (numerals : Numerals)
    (lvs : List LogicalVolume)
    (pvs : List PhysicalVolume)
    (config : RAIDConfig) : Prop :=
  ∀ status, buildRAIDStatus numerals lvs pvs config.type = some status →
    status.status = .healthy

/-- A missing physical volume makes the status degraded. -/
theorem Healthy.present
    {numerals : Numerals}
    {lvs : List LogicalVolume}
    {pvs : List PhysicalVolume}
    {config : RAIDConfig}
    (healthy : Healthy numerals lvs pvs config) :
    ∀ pv ∈ pvs, pv.pvMissing = "" := by
  intro pv member
  by_contra missing
  have counted : 0 < pvs.countP (fun pv => pv.pvMissing != "") :=
    List.countP_pos_iff.mpr ⟨pv, member, by simpa using missing⟩
  have notEmpty : pvs.isEmpty = false := by
    rw [List.isEmpty_eq_false_iff]
    exact List.ne_nil_of_mem member
  have lowered (status : RAIDHealthStatus) :
      (if status = .healthy then .degraded else status) ≠ .healthy := by
    cases status <;> decide
  unfold Healthy buildRAIDStatus at healthy
  simp only [notEmpty, Bool.and_false, Bool.false_eq_true, if_false, Option.some.injEq,
    forall_eq', counted, decide_true, Bool.true_and, decide_eq_true_eq] at healthy
  exact lowered _ healthy

/-- RAID was healthy: in the volume groups that were listed none of the physical
volumes is missing, and the logical volumes are in order. -/
def RAIDHealthy
    (r : Reconciler)
    (vg : LVMVolumeGroup)
    (events : List (Event sig World)) : Prop :=
  ∀ config, vg.spec.raidConfig = some config →
    ∃ vgs report,
      Ran (environment r.nodeName) (Lvm.listVGs true).run (.ok vgs) events ∧
      Ran (environment r.nodeName) (Lvm.listLVs vg.name).run (.ok report) events ∧
      (∀ found ∈ vgs, found.name = vg.name → ∀ pv ∈ found.pvs, pv.pvMissing = "") ∧
      Healthy r.numerals report.flatten (memberPVs vg.name vgs) config

/-- All volume groups of one name are listed with the same physical volumes. -/
theorem pvs_eq_memberPVs
    {rows : List VGRow}
    {pvs : List PhysicalVolume}
    {found : VolumeGroup}
    (member : found ∈ Lvm.assembleVGs rows pvs) :
    found.pvs = memberPVs found.name (Lvm.assembleVGs rows pvs) := by
  have all : ∀ other ∈ Lvm.assembleVGs rows pvs,
      other.pvs = pvs.filter fun pv => other.name == pv.vgName := by
    intro other member
    obtain ⟨row, -, rfl⟩ := List.mem_map.mp member
    rfl
  unfold memberPVs
  cases first : (Lvm.assembleVGs rows pvs).find? (·.name == found.name) with
  | none =>
      have absent := List.find?_eq_none.mp first found member
      simp at absent
  | some other =>
      have named : other.name = found.name := by simpa using List.find?_some first
      dsimp only
      rw [all found member, all other (List.mem_of_find?_eq_some first), named]

/-- What is listed is put together from the reports of LVM. -/
theorem listVGs_ok
    {listed : List VolumeGroup}
    (ran : Exec (environment node) (Lvm.listVGs true).run world events (.ok listed) after) :
    ∃ rows pvs, listed = Lvm.assembleVGs rows pvs := by
  obtain ⟨report, _, _, _, -, ran, -⟩ := Exec.run_bind_ok_iff.mp ran
  obtain ⟨pvs, _, _, _, -, ran, -⟩ := Exec.run_bind_ok_iff.mp ran
  obtain ⟨-, same, -⟩ := Exec.run_pure_iff.mp ran
  exact ⟨_, _, Except.ok.inj same⟩

/-- A RAID class stays `Ready` only when LVM reports it healthy. -/
theorem applyRAIDStatus_ok
    {config : RAIDConfig}
    {status final : VGStatus}
    (inside : events <:+: all)
    (ran : Exec (environment r.nodeName) (r.applyRAIDStatus vg config vgs status).run
      world events (.ok final) after)
    (ready : final.status = .ready) :
    ∃ report, Ran (environment r.nodeName) (Lvm.listLVs vg.name).run (.ok report) all ∧
      Healthy r.numerals report.flatten (memberPVs vg.name vgs) config := by
  obtain ⟨report, _, _, _, lists, ran, insideFirst, -⟩ := ran.run_bind_ok_inside inside
  refine ⟨report, (Exec.run_mapError_ok_iff.mp lists).ran.of_part insideFirst, ?_⟩
  obtain ⟨_, _, _, _, -, ran, -⟩ := Exec.run_bind_ok_iff.mp ran
  intro raid built
  split at ran
  · rename_i absent
    cases absent.symm.trans built
  · rename_i found isFound
    obtain rfl : found = raid := Option.some.inj (isFound.symm.trans built)
    obtain ⟨-, same, -⟩ := Exec.run_pure_iff.mp ran
    obtain rfl := Except.ok.inj same
    dsimp only at ready
    split at ready
    · assumption
    · cases ready

/-- The ready state is only stored when RAID is healthy. -/
theorem finishStatus_raid
    {status : VGStatus}
    {result : Except GoError Bool}
    {event : Event sig World}
    (named : status.name = vg.name)
    (inside : events <:+: all)
    (listed : Ran (environment r.nodeName) (Lvm.listVGs true).run (.ok vgs) all)
    (ran : Exec (environment r.nodeName) (r.finishStatus vg vgs status).run world events
      result after)
    (member : event ∈ events)
    (persists : persistsReady vg.name event.request = true) :
    RAIDHealthy r vg all := by
  intro config isRAID
  simp only [finishStatus, isRAID] at ran
  obtain ⟨final, _, _, _, applies, ran, insideFirst, -, member⟩ :=
    (Program.Uses.run_mapError (quiet (r.applyRAIDStatus_uses ..) (by decide))
      : Program.Uses (Quiet vg.name) _).run_bind_reached_inside ran inside member
      (not_not.mpr persists)
  have applies := Exec.run_mapError_ok_iff.mp applies
  have ready : final.status = .ready := by
    by_contra notReady
    have sameName := (applyRAIDStatus_yields.sound applies final rfl).1
    exact (setVolumeGroupStatus_quiet (sameName.trans named) notReady).events_allowed ran
      event member persists
  obtain ⟨report, lists, healthy⟩ := applyRAIDStatus_ok insideFirst applies ready
  refine ⟨vgs, report, listed, lists, fun found foundMember isVG => ?_, healthy⟩
  obtain ⟨_, _, _, _, listing⟩ := listed
  obtain ⟨rows, pvs, rfl⟩ := listVGs_ok listing
  rw [pvs_eq_memberPVs foundMember, isVG]
  exact healthy.present

/-! ## The way to the ready state -/

section Ready

variable {event : Event sig World}
variable {result : Except GoError Result}

/-- `Ready` is announced for a RAID class only when it is healthy. -/
theorem announceReady_raid
    {result : Except GoError Unit}
    (persists : persistsReady vg.name event.request = true)
    (inside : events <:+: all)
    (listed : Ran (environment r.nodeName) (Lvm.listVGs true).run (.ok vgs) all)
    (ran : Exec (environment r.nodeName) (r.announceReady vg vgs devices).run world events
      result after)
    (member : event ∈ events) :
    RAIDHealthy r vg all := by
  rcases Exec.run_bind_iff.mp ran with
    ⟨_, _, stores⟩ | ⟨updated, first, _, second, stores, announces, rfl⟩
  · obtain ⟨_, _, stores⟩ := Exec.run_mapError_iff.mp stores
    exact finishStatus_raid rfl inside listed stores member persists
  · have quietEnd : (if updated then
        liftM (r.normalEvent vg "VolumeGroupReady"
          "all the available devices are attached to the volume group")
        else pure () : Go Unit).run.Uses (Quiet vg.name) := by
      split
      · exact .run_lift (quiet (r.normalEvent_uses ..) (by decide))
      · trivial
    rcases List.mem_append.mp member with early | late
    · exact finishStatus_raid rfl ((List.prefix_append ..).isInfix.trans inside) listed
        (Exec.run_mapError_ok_iff.mp stores) early persists
    · exact absurd persists (quietEnd.events_allowed announces event late)

/-- What the last two steps of both branches show. -/
theorem reportReady_evidence
    {last : Result}
    (persists : persistsReady vg.name event.request = true)
    (inside : events <:+: all)
    (listed : Ran (environment r.nodeName) (Lvm.listVGs true).run (.ok vgs) all)
    (ran : Exec (environment r.nodeName) (do
      r.applyLVMDConfig vg vgs devices
      r.announceReady vg vgs devices
      return last : Go Result).run world events result after)
    (member : event ∈ events) :
    ConfigStored r vg all ∧ RAIDHealthy r vg all := by
  obtain ⟨_, _, _, _, applies, ran, insideFirst, inside, member⟩ :=
    applyLVMDConfig_quiet.run_bind_reached_inside ran inside member (not_not.mpr persists)
  refine ⟨applyLVMDConfig_ok insideFirst applies, ?_⟩
  rcases Exec.run_bind_iff.mp ran with
    ⟨_, _, announces⟩ | ⟨_, _, _, _, announces, ends, rfl⟩
  · exact announceReady_raid persists inside listed announces member
  · obtain ⟨rfl, -, -⟩ := Exec.run_pure_iff.mp ends
    rw [List.append_nil] at inside member
    exact announceReady_raid persists inside listed announces member

/-- What a reconciliation that stores the ready state has found out. -/
structure Ready
    (r : Reconciler)
    (vg : LVMVolumeGroup)
    (events : List (Event sig World)) : Prop where
  established : Established r.nodeName vg.name events
  pool : PoolListed r vg events
  config : ConfigStored r vg events
  raid : RAIDHealthy r vg events

/-- The end of the path of an existing volume group has all the evidence. -/
theorem finishExisting_ready
    (persists : persistsReady vg.name event.request = true)
    (inside : events <:+: all)
    (listed : Ran (environment r.nodeName) (Lvm.listVGs true).run (.ok vgs) all)
    (established : Established r.nodeName vg.name all)
    (ran : Exec (environment r.nodeName) (r.finishExisting vg vgs devices).run world
      events result after)
    (member : event ∈ events) :
    Ready r vg all := by
  dsimp only [finishExisting] at ran
  split at ran
  · obtain ⟨_, _, _, _, validates, ran, insideFirst, inside, member⟩ :=
      validateOrFail_quiet.run_bind_reached_inside ran inside member
        (not_not.mpr persists)
    obtain ⟨config, raid⟩ := reportReady_evidence persists inside listed ran member
    exact ⟨established, validateLVs_ok insideFirst (orFailWith_ok validates), config, raid⟩
  · rename_i noPool
    obtain ⟨config, raid⟩ := reportReady_evidence persists inside listed ran member
    refine ⟨established, fun pool isThin => ?_, config, raid⟩
    simp [isThin] at noPool

/-- Before `Ready` is stored, the existing volume group was verified. -/
theorem verifyExisting_ready
    {existing : VolumeGroup}
    (persists : persistsReady vg.name event.request = true)
    (inside : events <:+: all)
    (listed : Ran (environment r.nodeName) (Lvm.listVGs true).run (.ok vgs) all)
    (established : Established r.nodeName vg.name all)
    (ran : Exec (environment r.nodeName) (r.verifyExisting vg vgs devices existing).run
      world events result after)
    (member : event ∈ events) :
    Ready r vg all := by
  obtain ⟨outcome, _, _, _, -, ran, -, inside, member⟩ :=
    (Uses.run_attempt (quiet (r.deleteRemovedDevices_uses ..) (by decide))
      : Uses (Quiet vg.name) _).run_bind_reached_inside ran inside member
        (not_not.mpr persists)
  cases outcome with
  | error error =>
      obtain ⟨_, _, _, _, -, ran, -, -, member⟩ :=
        (Uses.run_lift (reportFailure_quiet _)).run_bind_reached_inside ran inside member
          (not_not.mpr persists)
      obtain ⟨rfl, -⟩ := Exec.run_throw_iff.mp ran
      cases member
  | ok deleted =>
      dsimp only at ran
      split at ran
      · obtain ⟨refreshed, _, _, _, lists, ran, insideFirst, inside, member⟩ :=
          (quiet refreshVGs_uses (by decide)
            : Uses (Quiet vg.name) _).run_bind_reached_inside ran inside member
              (not_not.mpr persists)
        exact finishExisting_ready persists inside
          ((Exec.run_mapError_ok_iff.mp lists).ran.of_part insideFirst) established ran
          member
      · exact finishExisting_ready persists inside listed established ran member

/-- An existing volume group is listed, so it is established. -/
theorem reconcileExisting_ready
    (persists : persistsReady vg.name event.request = true)
    (inside : events <:+: all)
    (listed : Ran (environment r.nodeName) (Lvm.listVGs true).run (.ok vgs) all)
    (ran : Exec (environment r.nodeName) (r.reconcileExisting vg vgs devices).run world
      events result after)
    (member : event ∈ events) :
    Ready r vg all := by
  unfold reconcileExisting at ran
  split at ran
  · exact absurd persists ((failWith_quiet ..).events_allowed ran event member)
  · rename_i existing found
    exact verifyExisting_ready persists inside listed
      (.inl ⟨vgs, listed, existing, List.mem_of_find?_eq_some found,
        by simpa using List.find?_some found⟩) ran member

theorem setUpThinPool_quiet :
    (r.setUpThinPool vg vgs devices).run.Uses (Quiet vg.name) := by
  unfold setUpThinPool
  split
  · trivial
  · exact .run_bind (orFailWith_quiet (quiet (r.addThinPoolToVG_uses ..) (by decide)))
      fun _ => validateOrFail_quiet

/-- After it succeeds, LVM has listed the thin pool. -/
theorem setUpThinPool_ok
    (inside : events <:+: all)
    (ran : Exec (environment r.nodeName) (r.setUpThinPool vg vgs devices).run world events
      (.ok ()) after) :
    PoolListed r vg all := by
  intro config isThin
  simp only [setUpThinPool, isThin] at ran
  obtain ⟨_, _, _, _, -, validates, -, inside⟩ := ran.run_bind_ok_inside inside
  exact validateLVs_ok inside (orFailWith_ok validates) config isThin

/-- A new volume group is `Ready` after all steps of its setup. -/
theorem setUp_ready
    (persists : persistsReady vg.name event.request = true)
    (inside : events <:+: all)
    (ran : Exec (environment r.nodeName) (r.setUp vg vgs devices).run world events result
      after)
    (member : event ∈ events) :
    Ready r vg all := by
  have counts : (r.checkDeviceCount vg vgs devices).run.Uses (Quiet vg.name) := by
    unfold checkDeviceCount
    split
    · trivial
    · exact orFailWith_quiet trivial
  obtain ⟨_, _, _, _, -, ran, -, inside, member⟩ :=
    counts.run_bind_reached_inside ran inside member (not_not.mpr persists)
  obtain ⟨_, _, _, _, adds, ran, insideAdds, inside, member⟩ :=
    (orFailWith_quiet (quiet (addDevicesToVG_uses ..) (by decide))).run_bind_reached_inside
      ran inside member (not_not.mpr persists)
  obtain ⟨_, _, _, _, pools, ran, insidePool, inside, member⟩ :=
    setUpThinPool_quiet.run_bind_reached_inside ran inside member (not_not.mpr persists)
  obtain ⟨refreshed, _, _, _, lists, ran, insideLists, inside, member⟩ :=
    (quiet refreshVGs_uses (by decide)
      : Uses (Quiet vg.name) _).run_bind_reached_inside ran inside member
        (not_not.mpr persists)
  obtain ⟨config, raid⟩ := reportReady_evidence persists inside
    ((Exec.run_mapError_ok_iff.mp lists).ran.of_part insideLists) ran member
  exact ⟨addDevicesToVG_ok insideAdds (orFailWith_ok adds),
    setUpThinPool_ok insidePool pools, config, raid⟩

theorem reconcileNew_ready
    (persists : persistsReady vg.name event.request = true)
    (inside : events <:+: all)
    (ran : Exec (environment r.nodeName) (r.reconcileNew vg vgs devices).run world events
      result after)
    (member : event ∈ events) :
    Ready r vg all := by
  obtain ⟨outcome, _, _, _, -, ran, -, inside, member⟩ :=
    (Uses.run_attempt setVolumeGroupProgressingStatus_quiet).run_bind_reached_inside ran
      inside member (not_not.mpr persists)
  split at ran
  · obtain ⟨rfl, -⟩ := Exec.run_pure_iff.mp ran
    cases member
  · exact setUp_ready persists inside ran member

/-- The path leads to a device of the tree that passed all filters, or failed one
because it is set up already. -/
def PathUsable
    (node : String)
    (vg : LVMVolumeGroup)
    (events : List (Event sig World))
    (path : DevicePath) : Prop :=
  ∃ target tree pvs bdi device errors,
    Ran (environment node) (resolve path).run (.ok target) events ∧
    Ran (environment node) listBlockDevices.run (.ok tree) events ∧
    Ran (environment node) (Lvm.listPVs "").run (.ok pvs) events ∧
    Ran (environment node) (blockDeviceInfos tree) bdi events ∧
    device ∈ allDevices tree ∧ device.kname = target ∧
    Judged node (defaultFilters { vg, bdi, pvs }) events device errors ∧
    (errors = [] ∨ ∃ error ∈ errors, error.is errDeviceAlreadySetupCorrectly = true)

/-- The mandatory paths of the volume group can all be used. -/
def PathsUsable
    (node : String)
    (vg : LVMVolumeGroup)
    (events : List (Event sig World)) : Prop :=
  ∀ selector, vg.spec.deviceSelector = some selector →
    ∀ path ∈ selector.paths, PathUsable node vg events path

/-- The paths are checked before the volume group is set up. -/
theorem useDevices_ready
    (persists : persistsReady vg.name event.request = true)
    (inside : events <:+: all)
    (listed : Ran (environment r.nodeName) (Lvm.listVGs true).run (.ok vgs) all)
    (ran : Exec (environment r.nodeName) (r.useDevices vg vgs devices).run world events
      result after)
    (member : event ∈ events) :
    Ready r vg all ∧ ∀ selector, vg.spec.deviceSelector = some selector →
      ∀ path ∈ selector.paths, PathServed r.nodeName devices all path := by
  have checks : (r.checkMandatoryPaths vg vgs devices).run.Uses (Quiet vg.name) := by
    unfold checkMandatoryPaths
    split
    · trivial
    · exact orFailWith_quiet (quiet (verifyMandatoryDevicePaths_uses ..) (by decide))
  obtain ⟨_, _, _, _, verifies, ran, insideFirst, inside, member⟩ :=
    checks.run_bind_reached_inside ran inside member (not_not.mpr persists)
  constructor
  · dsimp only at ran
    split at ran
    · exact reconcileExisting_ready persists inside listed ran member
    · exact reconcileNew_ready persists inside ran member
  · intro selector isSelected
    simp only [checkMandatoryPaths, isSelected] at verifies
    exact verifyMandatoryDevicePaths_ok insideFirst (orFailWith_ok verifies)

/-- A path that is served leads to a device with a verdict. -/
theorem PathServed.device
    {node : String}
    {verdict : BlockDevice → List GoError → Prop}
    {path : DevicePath}
    (settled : devices.Settled verdict)
    (served : PathServed node devices all path) :
    ∃ target device errors,
      Ran (environment node) (resolve path).run (.ok target) all ∧
      device.kname = target ∧ verdict device errors ∧
      (errors = [] ∨ ∃ error ∈ errors, error.is errDeviceAlreadySetupCorrectly = true) := by
  obtain ⟨target, resolves, available | ⟨error, isError, already⟩⟩ := served
  · obtain ⟨device, member, named⟩ := List.any_eq_true.mp available
    exact ⟨target, device, [], resolves, by simpa using named,
      settled.available device member, .inl rfl⟩
  · unfold FilteredBlockDevices.errorsOf at isError
    split at isError
    · rename_i filtered found
      exact ⟨target, filtered.device, filtered.filterErrors, resolves,
        by simpa using List.find?_some found,
        settled.excluded filtered (List.mem_of_find?_eq_some found),
        .inr ⟨error, isError, already⟩⟩
    · cases isError

/-- The devices that are used have passed the filters. -/
theorem reconcileDevices_ready
    {blockDevices : List BlockDevice}
    (persists : persistsReady vg.name event.request = true)
    (inside : events <:+: all)
    (tree : Ran (environment r.nodeName) listBlockDevices.run (.ok blockDevices) all)
    (listed : Ran (environment r.nodeName) (Lvm.listVGs true).run (.ok vgs) all)
    (ran : Exec (environment r.nodeName) (r.reconcileDevices vg vgs blockDevices).run world
      events result after)
    (member : event ∈ events) :
    Ready r vg all ∧ PathsUsable r.nodeName vg all := by
  obtain ⟨pvs, _, _, _, listsPVs, ran, insidePVs, inside, member⟩ :=
    (Uses.run_mapError (quiet (Lvm.listPVs_uses _) (by decide))
      : Uses (Quiet vg.name) _).run_bind_reached_inside ran inside member
        (not_not.mpr persists)
  obtain ⟨bdi, _, _, _, informs, ran, insideInfos, inside, member⟩ :=
    (Uses.run_lift (quiet (blockDeviceInfos_uses _) (by decide))
      : Uses (Quiet vg.name) _).run_bind_reached_inside ran inside member
        (not_not.mpr persists)
  obtain ⟨devices, _, _, _, filters, ran, insideFilters, inside, member⟩ :=
    (Uses.run_lift (quiet (filterDevices_uses ..) (by decide))
      : Uses (Quiet vg.name) _).run_bind_reached_inside ran inside member
        (not_not.mpr persists)
  obtain ⟨ready, served⟩ := useDevices_ready persists inside listed ran member
  refine ⟨ready, fun selector isSelected path isPath => ?_⟩
  have settled := filterDevices_settled insideFilters (Exec.run_lift_ok_iff.mp filters)
  obtain ⟨target, device, errors, resolves, named, ⟨inTree, judged⟩, accepted⟩ :=
    (served selector isSelected path isPath).device settled
  exact ⟨target, blockDevices, pvs, bdi, device, errors, resolves, tree,
    (Exec.run_mapError_ok_iff.mp listsPVs).ran.of_part insidePVs,
    (Exec.run_lift_ok_iff.mp informs).ran.of_part insideInfos, inTree, named, judged,
    accepted⟩

/-- All the evidence for `Ready` comes from the same reconciliation. -/
theorem reconcileLive_ready
    (persists : persistsReady vg.name event.request = true)
    (inside : events <:+: all)
    (ran : Exec (environment r.nodeName) (r.reconcileLive vg).run world events result after)
    (member : event ∈ events) :
    Ready r vg all ∧ PathsUsable r.nodeName vg all := by
  obtain ⟨blockDevices, _, _, _, tree, ran, insideTree, inside, member⟩ :=
    (Uses.run_mapError (quiet (query_uses _) (by decide))
      : Uses (Quiet vg.name) _).run_bind_reached_inside ran inside member
        (not_not.mpr persists)
  have tree := (Exec.run_mapError_ok_iff.mp tree).ran.of_part insideTree
  obtain ⟨vgs, _, _, _, lists, ran, insideLists, inside, member⟩ :=
    (quiet refreshVGs_uses (by decide)
      : Uses (Quiet vg.name) _).run_bind_reached_inside ran inside member
        (not_not.mpr persists)
  have listed := (Exec.run_mapError_ok_iff.mp lists).ran.of_part insideLists
  split at ran
  · obtain ⟨_, _, _, _, -, ran, -, inside, member⟩ :=
      (Uses.run_lift (quiet (r.warningEvent_uses ..) (by decide))
        : Uses (Quiet vg.name) _).run_bind_reached_inside ran inside member
          (not_not.mpr persists)
    obtain ⟨_, _, _, _, -, ran, -, -, member⟩ :=
      (Uses.run_lift (reportFailure_quiet _)).run_bind_reached_inside ran inside member
        (not_not.mpr persists)
    obtain ⟨rfl, -⟩ := Exec.run_pure_iff.mp ran
    cases member
  · obtain ⟨wiped, _, _, _, -, ran, -, inside, member⟩ :=
      (Uses.run_mapError (quiet (wipeDevices_uses ..) (by decide))
        : Uses (Quiet vg.name) _).run_bind_reached_inside ran inside member
          (not_not.mpr persists)
    split at ran
    · obtain ⟨_, _, _, _, -, ran, -, -, member⟩ :=
        (quiet (Client.update_uses ..) (by decide)
          : Uses (Quiet vg.name) _).run_bind_reached_inside ran inside member
            (not_not.mpr persists)
      obtain ⟨rfl, -⟩ := Exec.run_pure_iff.mp ran
      cases member
    · exact reconcileDevices_ready persists inside tree listed ran member

theorem reconcile_ready
    (persists : persistsReady vg.name event.request = true)
    (live : vg.metadata.deletionTimestamp = none)
    (inside : events <:+: all)
    (ran : Exec (environment r.nodeName) (r.reconcile vg).run world events result after)
    (member : event ∈ events) :
    Ready r vg all ∧ PathsUsable r.nodeName vg all := by
  simp only [reconcile, live, Option.isSome_none, Bool.false_eq_true, if_false] at ran
  split at ran
  · obtain ⟨_, _, _, _, -, ran, -, -, member⟩ :=
      (quiet (Client.update_uses ..) (by decide)
        : Uses (Quiet vg.name) _).run_bind_reached_inside ran inside member
          (not_not.mpr persists)
    obtain ⟨rfl, -⟩ := Exec.run_pure_iff.mp ran
    cases member
  · exact reconcileLive_ready persists inside ran member

/-- When a reconciliation of a live volume group stores its ready state, the same
reconciliation has seen the volume group, usable devices under all mandatory paths, a
sound thin pool, its device class in the configuration of lvmd, and healthy RAID. -/
theorem ready_of_persisted
    {name : String}
    (step : ReconcileStep r name world events after)
    (found : world.api.find? .volumeGroup name = some vg)
    (live : vg.metadata.deletionTimestamp = none)
    (persisted : ∃ event ∈ events, persistsReady vg.name event.request = true ∧
      event.request.failure event.response = none) :
    Ready r vg events ∧ PathsUsable r.nodeName vg events := by
  obtain ⟨event, member, persists, -⟩ := persisted
  obtain ⟨first, rest, rfl, reads, continued⟩ := step.cases
  have late : event ∈ rest := by
    rcases List.mem_append.mp member with early | late
    · have touches := touchesKind_of_persistsReady persists
      have isRead := reads event early
      simp only [List.mem_cons, List.not_mem_nil, or_false] at isRead
      rcases isRead with same | same
      all_goals
        rw [same] at touches
        cases touches
    · exact late
  rcases continued with ⟨rfl, -⟩ | ⟨again, result, isFound, ran⟩
  · cases late
  · obtain rfl : again = vg := Option.some.inj (isFound.symm.trans found)
    exact reconcile_ready persists live (List.suffix_append ..).isInfix ran late

end Ready
end Reconciler

/-! ## An example -/

/-- A volume group on a device that is set up. -/
def servedVG : LVMVolumeGroup where
  metadata := { name := "vg1", finalizers := [getFinalizer "node"] }
  spec := { deviceSelector := some { paths := ["/dev/sdb"] } }

def servedHost : Host where
  blockDevices := [.mk "/dev/sdb" "/dev/sdb" "disk" "" "LVM2_member" false "" []]
  symlinks := fun path => if path = "/dev/sdb" then some "/dev/sdb" else none
  volumeGroups := [{ name := "vg1", tags := [defaultTag] }]
  physicalVolumes := [{ pvName := "/dev/sdb", vgName := "vg1" }]

/-- A reconciliation in which nothing fails. -/
def servedRun : List (Event sig World) × Except GoError Result × World :=
  (Reconciler.plain "node").runWith "vg1" (fun _ _ => {}) (nodeWorld servedVG servedHost)

/-- A run that stores `Ready` with all the evidence. -/
theorem ready_of_persisted_served :
    Reconciler.Ready (.plain "node") servedVG servedRun.1 ∧
      Reconciler.PathsUsable "node" servedVG servedRun.1 := by
  have persisted : servedRun.1.any (fun event =>
      persistsReady servedVG.name event.request &&
        (event.request.failure event.response).isNone) = true := by
    decide +kernel
  obtain ⟨event, member, holds⟩ := List.any_eq_true.mp persisted
  exact Reconciler.ready_of_persisted (Reconciler.runWith_step ..) rfl rfl
    ⟨event, member, by simpa using holds⟩

end Lvms
