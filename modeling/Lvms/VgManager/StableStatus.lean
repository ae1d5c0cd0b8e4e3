import Lvms.VgManager.Merging
import Lvms.VgManager.Resolving
import Lvms.VgManager.Status
import Mathlib.Data.String.Basic

/-!
# An unchanged host gives an unchanged status

The devices are judged by filters in the order of a map, entered into maps, and read from
them in their orders. The status sorts what it shows: the reasons of each excluded device
and the devices by their names. Nothing of the orders is left in it when the filters come
to the same verdicts and a name denotes one device.
-/

namespace Lvms

open Interaction

/-! ## Verdicts of the filters -/

/-- Every filter comes to the same verdict about a device whenever it is asked. -/
def Deterministic
    (node : String)
    (filters : GoMap (BlockDevice → Go Unit))
    (invariant : World → Prop)
    (assumes : Event sig World → Prop)
    (verdict : String → BlockDevice → Except GoError Unit) : Prop :=
  ∀ name check, filters.get? name = some check → ∀ device world, invariant world →
    wp (environment node) (.assuming assumes) (check device).run
      (fun result after => invariant after ∧ result = verdict name device) world

/-- The error of a verdict. -/
def refusal : Except GoError Unit → Option GoError
  | .error error => some error
  | .ok () => none

/-- The errors about a device, by filters in some order. -/
def refusals
    (filters : GoMap (BlockDevice → Go Unit))
    (verdict : String → BlockDevice → Except GoError Unit)
    (device : BlockDevice)
    (order : List String) : List GoError :=
  (order.filter filters.has).filterMap fun name => refusal (verdict name device)

section Refusals

variable {node : String} {filters : GoMap (BlockDevice → Go Unit)}
variable {invariant : World → Prop} {assumes : Event sig World → Prop}
variable {verdict : String → BlockDevice → Except GoError Unit}
variable {world after : World} {events : List (Event sig World)}
variable {verdicts : List FilteredBlockDevice}

/-- The errors do not depend on the order of the filters. -/
theorem filterErrors_refusals
    (deterministic : Deterministic node filters invariant assumes verdict)
    (device : BlockDevice)
    (order : List String)
    (holds : invariant world) :
    wp (environment node) (.assuming assumes) (filterErrors filters device order)
      (fun errors last => invariant last ∧
        errors = refusals filters verdict device order) world := by
  induction order generalizing world with
  | nil => exact ⟨holds, rfl⟩
  | cons name rest inductionHypothesis =>
      rw [filterErrors, refusals]
      cases found : filters.get? name with
      | none =>
          rw [List.filter_cons_of_neg (by simp [GoMap.has, found])]
          exact inductionHypothesis holds
      | some check =>
          rw [List.filter_cons_of_pos (by simp [GoMap.has, found]), wp.bind_iff]
          refine (deterministic name check found device world holds).mono ?_
          rintro result last ⟨kept, isVerdict⟩
          rw [List.filterMap_cons, ← isVerdict]
          cases result with
          | ok => exact inductionHypothesis kept
          | error error =>
              rw [wp.bind_iff]
              refine (inductionHypothesis kept).mono ?_
              rintro errors final ⟨keptAgain, rfl⟩
              exact ⟨keptAgain, rfl⟩

/-- Whatever the orders, the errors about a device are the same up to their order. -/
theorem Review.refusals_perm
    (deterministic : Deterministic node filters invariant assumes verdict)
    (reviewed : Review node filters world events verdicts after)
    (holds : invariant world)
    (assumed : ∀ event ∈ events, assumes event) :
    ∀ filtered ∈ verdicts,
      filtered.filterErrors.Perm (refusals filters verdict filtered.device filters.keys) := by
  induction reviewed with
  | nil => simp
  | cons permuted judged _ inductionHypothesis =>
      rw [List.forall_mem_append] at assumed
      obtain ⟨-, kept, isRefusals⟩ :=
        wp.sound (filterErrors_refusals deterministic _ _ holds) judged assumed.1
      refine List.forall_mem_cons.mpr ⟨?_, inductionHypothesis kept assumed.2⟩
      rw [isRefusals]
      exact (permuted.filter _).filterMap _

end Refusals

/-! ## Excluded devices -/

/-- What the status shows of an excluded device, unless it is excluded because it is set
up. -/
def reported (filtered : FilteredBlockDevice) : Option ExcludedDevice :=
  if filtered.filterErrors.any isExpectedDeviceErrorAfterSetup then none
  else some {
    name := filtered.device.name
    reasons := (filtered.filterErrors.map GoError.error).insertionSort
      (fun left right => left ≤ right) }

theorem excludedDevices_eq (devices : FilteredBlockDevices) :
    excludedDevices devices = (devices.excluded.filterMap reported).insertionSort
      fun left right => left.name ≤ right.name :=
  rfl

/-- The order of the errors about a device does not show. -/
theorem reported_congr
    {device : BlockDevice}
    {errors other : List GoError}
    (permuted : errors.Perm other) :
    reported ⟨device, errors⟩ = reported ⟨device, other⟩ := by
  have sorted : (errors.map GoError.error).insertionSort (fun left right => left ≤ right) =
      (other.map GoError.error).insertionSort (fun left right => left ≤ right) :=
    @insertionSort_eq_of_perm _ _ _ id _ _ (fun _ _ _ _ => id) (permuted.map _)
  dsimp only [reported]
  rw [permuted.any_eq, sorted]

theorem reported_name
    {filtered : FilteredBlockDevice}
    {shown : ExcludedDevice}
    (isShown : reported filtered = some shown) :
    shown.name = filtered.device.name := by
  unfold reported at isShown
  split at isShown
  · cases isShown
  · cases isShown
    rfl

/-- All occurrences of a kernel name are equal, and devices with different kernel names
have different names. -/
structure OneDevicePerName (devices : List BlockDevice) : Prop where
  equal : ∀ device ∈ allDevices devices, ∀ other ∈ allDevices devices,
    device.kname = other.kname → device = other
  different : ∀ device ∈ allDevices devices, ∀ other ∈ allDevices devices,
    device.kname ≠ other.kname → device.name ≠ other.name

section Excluded

variable {node : String} {filters : GoMap (BlockDevice → Go Unit)}
variable {invariant : World → Prop} {assumes : Event sig World → Prop}
variable {verdict : String → BlockDevice → Except GoError Unit}
variable {world after : World} {events : List (Event sig World)}
variable {devices : List BlockDevice} {result : FilteredBlockDevices}

/-- An excluded device is one of the forest, with the errors of its filters. -/
theorem excluded_refusals
    (deterministic : Deterministic node filters invariant assumes verdict)
    (holds : invariant world)
    (assumed : ∀ event ∈ events, assumes event)
    (ran : Exec (environment node) (filterDevices filters devices) world events result
      after) :
    (∀ filtered ∈ result.excluded, filtered.device ∈ allDevices devices ∧
      filtered.filterErrors.Perm (refusals filters verdict filtered.device filters.keys)) ∧
    (result.excluded.map FilteredBlockDevice.kname).Nodup ∧
    ∀ kname, kname ∈ result.excluded.map FilteredBlockDevice.kname ↔
      ∃ device ∈ allDevices devices, device.kname = kname ∧
        refusals filters verdict device filters.keys ≠ [] := by
  obtain ⟨judging, verdicts, inside, reviewed, judged, merges⟩ := filterDevices_review ran
  have errors := reviewed.refusals_perm deterministic holds fun event member =>
    assumed event (inside.subset member)
  have ofForest : ∀ filtered ∈ verdicts, filtered.device ∈ allDevices devices := by
    intro filtered member
    rw [← mem_allChildrenFirst_iff, ← judged]
    exact List.mem_map_of_mem member
  have isVerdict : ∀ filtered ∈ result.excluded, filtered ∈ verdicts := by
    intro filtered member
    have found := find?_key_of_mem merges.excludedOnce member
    rw [merges.excluded] at found
    exact List.mem_of_find?_eq_some found
  refine ⟨fun filtered member => ?_, merges.excludedOnce, fun kname => ?_⟩
  · have judgedHere := isVerdict filtered member
    exact ⟨ofForest filtered judgedHere, errors filtered judgedHere⟩
  · rw [merges.mem_excluded_iff]
    constructor
    · rintro ⟨filtered, member, sameName, fails⟩
      refine ⟨filtered.device, ofForest filtered member, sameName, fun none => fails ?_⟩
      have permuted := errors filtered member
      rw [none] at permuted
      exact permuted.eq_nil
    · rintro ⟨device, isDevice, sameName, fails⟩
      rw [← mem_allChildrenFirst_iff, ← judged] at isDevice
      obtain ⟨filtered, member, rfl⟩ := List.mem_map.mp isDevice
      refine ⟨filtered, member, sameName, fun none => fails ?_⟩
      have permuted := errors filtered member
      rw [none] at permuted
      exact permuted.nil_eq.symm

/-- The excluded devices are those of the forest that some filter refuses. -/
theorem mem_excluded_devices_iff
    (deterministic : Deterministic node filters invariant assumes verdict)
    (oneDevice : OneDevicePerName devices)
    (holds : invariant world)
    (assumed : ∀ event ∈ events, assumes event)
    (ran : Exec (environment node) (filterDevices filters devices) world events result
      after)
    (device : BlockDevice) :
    device ∈ result.excluded.map FilteredBlockDevice.device ↔
      device ∈ allDevices devices ∧ refusals filters verdict device filters.keys ≠ [] := by
  obtain ⟨entries, -, names⟩ := excluded_refusals deterministic holds assumed ran
  constructor
  · intro member
    obtain ⟨filtered, isExcluded, rfl⟩ := List.mem_map.mp member
    obtain ⟨other, isOther, sameName, fails⟩ :=
      (names filtered.kname).mp (List.mem_map_of_mem isExcluded)
    have isDevice := (entries filtered isExcluded).1
    have same := oneDevice.equal other isOther filtered.device isDevice sameName
    exact ⟨isDevice, same ▸ fails⟩
  · rintro ⟨isDevice, fails⟩
    obtain ⟨filtered, isExcluded, sameName⟩ :=
      List.mem_map.mp ((names device.kname).mpr ⟨device, isDevice, rfl, fails⟩)
    have same := oneDevice.equal filtered.device (entries filtered isExcluded).1 device
      isDevice sameName
    exact List.mem_map.mpr ⟨filtered, isExcluded, same⟩

/-- What is shown is decided by the excluded devices alone. -/
theorem filterMap_reported
    (deterministic : Deterministic node filters invariant assumes verdict)
    (holds : invariant world)
    (assumed : ∀ event ∈ events, assumes event)
    (ran : Exec (environment node) (filterDevices filters devices) world events result
      after) :
    result.excluded.filterMap reported =
      (result.excluded.map FilteredBlockDevice.device).filterMap fun device =>
        reported ⟨device, refusals filters verdict device filters.keys⟩ := by
  obtain ⟨entries, -, -⟩ := excluded_refusals deterministic holds assumed ran
  rw [List.filterMap_map]
  apply List.filterMap_congr
  intro filtered member
  exact reported_congr (entries filtered member).2

/-- Two runs on the same devices exclude the same ones. -/
theorem excluded_perm
    {world' after' : World}
    {events' : List (Event sig World)}
    {result' : FilteredBlockDevices}
    (deterministic : Deterministic node filters invariant assumes verdict)
    (oneDevice : OneDevicePerName devices)
    (holds : invariant world)
    (assumed : ∀ event ∈ events, assumes event)
    (ran : Exec (environment node) (filterDevices filters devices) world events result
      after)
    (holds' : invariant world')
    (assumed' : ∀ event ∈ events', assumes event)
    (ran' : Exec (environment node) (filterDevices filters devices) world' events' result'
      after') :
    (result.excluded.map FilteredBlockDevice.device).Perm
      (result'.excluded.map FilteredBlockDevice.device) := by
  have distinct {excluded : List FilteredBlockDevice}
      (once : (excluded.map FilteredBlockDevice.kname).Nodup) :
      (excluded.map FilteredBlockDevice.device).Nodup := by
    have names : excluded.map FilteredBlockDevice.kname =
        (excluded.map FilteredBlockDevice.device).map BlockDevice.kname := by
      rw [List.map_map]
      rfl
    rw [names] at once
    exact once.of_map
  obtain ⟨-, once, -⟩ := excluded_refusals deterministic holds assumed ran
  obtain ⟨-, once', -⟩ := excluded_refusals deterministic holds' assumed' ran'
  rw [List.perm_ext_iff_of_nodup (distinct once) (distinct once')]
  intro device
  rw [mem_excluded_devices_iff deterministic oneDevice holds assumed ran,
    mem_excluded_devices_iff deterministic oneDevice holds' assumed' ran']

/-- The status of an unchanged host is the same, whatever the orders of the maps. -/
theorem setDevices_unchanged
    {world' after' : World}
    {events' : List (Event sig World)}
    {result' : FilteredBlockDevices}
    (status : VGStatus)
    (vgs : List VolumeGroup)
    (deterministic : Deterministic node filters invariant assumes verdict)
    (oneDevice : OneDevicePerName devices)
    (holds : invariant world)
    (assumed : ∀ event ∈ events, assumes event)
    (ran : Exec (environment node) (filterDevices filters devices) world events result
      after)
    (holds' : invariant world')
    (assumed' : ∀ event ∈ events', assumes event)
    (ran' : Exec (environment node) (filterDevices filters devices) world' events' result'
      after') :
    setDevices status vgs result = setDevices status vgs result' := by
  have shown : excludedDevices result = excludedDevices result' := by
    rw [excludedDevices_eq, excludedDevices_eq,
      filterMap_reported deterministic holds assumed ran,
      filterMap_reported deterministic holds' assumed' ran']
    refine @insertionSort_eq_of_perm _ _ _ ExcludedDevice.name _ _ ?_
      ((excluded_perm deterministic oneDevice holds assumed ran holds' assumed' ran').filterMap _)
    intro left isLeft right isRight sameName
    obtain ⟨first, isFirst, shownFirst⟩ := List.mem_filterMap.mp isLeft
    obtain ⟨second, isSecond, shownSecond⟩ := List.mem_filterMap.mp isRight
    rw [mem_excluded_devices_iff deterministic oneDevice holds assumed ran] at isFirst isSecond
    have sameDevice : first.kname = second.kname := by
      by_contra otherwise
      apply oneDevice.different first isFirst.1 second isSecond.1 otherwise
      rw [← reported_name shownFirst, ← reported_name shownSecond, sameName]
    obtain rfl := oneDevice.equal first isFirst.1 second isSecond.1 sameDevice
    exact Option.some.inj (shownFirst.symm.trans shownSecond)
  unfold setDevices
  rw [shown]

end Excluded

/-! ## The default filters -/

/-- A program keeps an invariant and has one value in all worlds with it. -/
def Repeatable
    {α : Type}
    (node : String)
    (invariant : World → Prop)
    (assumes : Event sig World → Prop)
    (program : Program sig α) : Prop :=
  ∃ value, ∀ world, invariant world →
    wp (environment node) (.assuming assumes) program
      (fun result after => invariant after ∧ result = value) world

namespace Repeatable

variable {α β : Type} {node : String} {invariant : World → Prop}
variable {assumes : Event sig World → Prop}

theorem done (value : α) : Repeatable node invariant assumes (pure value) :=
  ⟨value, fun _ holds => ⟨holds, rfl⟩⟩

/-- Repeatable programs in sequence are repeatable. -/
theorem bind
    {program : Program sig α}
    {next : α → Program sig β}
    (repeatable : Repeatable node invariant assumes program)
    (continues : ∀ value, Repeatable node invariant assumes (next value)) :
    Repeatable node invariant assumes (program >>= next) := by
  obtain ⟨value, first⟩ := repeatable
  obtain ⟨result, second⟩ := continues value
  refine ⟨result, fun world holds => ?_⟩
  rw [wp.bind_iff]
  refine (first world holds).mono ?_
  rintro _ after ⟨kept, rfl⟩
  exact second after kept

theorem run_bind
    {program : Go α}
    {next : α → Go β}
    (repeatable : Repeatable node invariant assumes program.run)
    (continues : ∀ value, Repeatable node invariant assumes (next value).run) :
    Repeatable node invariant assumes (program >>= next).run := by
  refine repeatable.bind fun result => ?_
  cases result with
  | ok value => exact continues value
  | error error => exact done _

theorem run_mapError
    {program : Go α}
    {wrap : GoError → GoError}
    (repeatable : Repeatable node invariant assumes program.run) :
    Repeatable node invariant assumes (Fallible.mapError wrap program).run := by
  obtain ⟨value, holdsAlways⟩ := repeatable
  refine ⟨value.mapError wrap, fun world holds => ?_⟩
  rw [wp.run_mapError_iff]
  refine (holdsAlways world holds).mono ?_
  rintro _ after ⟨kept, rfl⟩
  exact ⟨kept, rfl⟩

theorem run_lift
    {program : Program sig α}
    (repeatable : Repeatable node invariant assumes program) :
    Repeatable node invariant assumes (liftM program : Go α).run := by
  obtain ⟨value, holdsAlways⟩ := repeatable
  refine ⟨.ok value, fun world holds => ?_⟩
  rw [wp.run_lift_iff]
  refine (holdsAlways world holds).mono ?_
  rintro _ after ⟨kept, rfl⟩
  exact ⟨kept, rfl⟩

end Repeatable

section DefaultFilters

variable {node : String} {resolver : String → Option String}

/-- On a host whose paths lead somewhere or nowhere, a path is always resolved in the same
way. -/
theorem resolve_repeatable (path : String) :
    Repeatable node (ResolverIs node resolver) (Honest node) (resolve path).run :=
  ⟨resolution resolver path, fun _ isResolver => resolve_honest path isResolver⟩

theorem resolvesTo_repeatable (kname : String) (paths : List DevicePath) :
    Repeatable node (ResolverIs node resolver) (Honest node) (resolvesTo kname paths) := by
  induction paths with
  | nil => exact .done _
  | cons path rest inductionHypothesis =>
      refine (resolve_repeatable path).bind fun resolved => ?_
      cases resolved <;> (dsimp only; split)
      · exact .done _
      · exact inductionHypothesis
      · exact .done _
      · exact inductionHypothesis

/-- The physical volume of a device is found again. -/
theorem findPV_repeatable (kname : String) (pvs : List PhysicalVolume) :
    Repeatable node (ResolverIs node resolver) (Honest node) (findPV kname pvs).run := by
  induction pvs with
  | nil => exact .done _
  | cons pv rest inductionHypothesis =>
      refine .run_bind (.run_mapError (resolve_repeatable _)) fun resolved => ?_
      split
      · exact .done _
      · exact inductionHypothesis

theorem partOfDeviceSelector_repeatable (options : FilterOptions) (device : BlockDevice) :
    Repeatable node (ResolverIs node resolver) (Honest node)
      (partOfDeviceSelector options device).run := by
  unfold partOfDeviceSelector
  split
  · exact .done _
  · refine .run_bind (.run_lift (resolvesTo_repeatable ..)) fun found => ?_
    split <;> exact .done _

theorem onlyValidFilesystemSignatures_repeatable
    (options : FilterOptions)
    (device : BlockDevice) :
    Repeatable node (ResolverIs node resolver) (Honest node)
      (onlyValidFilesystemSignatures options device).run := by
  dsimp only [onlyValidFilesystemSignatures]
  split
  · exact .done _
  split
  · refine .run_bind (findPV_repeatable ..) fun found => ?_
    cases found with
    | none => exact .done _
    | some pv =>
        dsimp only
        split
        · exact .done _
        split
        · exact .done _
        split
        · split <;> exact .done _
        · exact .done _
  · exact .done _

/-- The default filters come to the same verdicts as long as the paths of the host lead to
the same devices. -/
theorem defaultFilters_deterministic (options : FilterOptions) :
    ∃ verdict, Deterministic node (defaultFilters options) (ResolverIs node resolver)
      (Honest node) verdict := by
  have repeatable : ∀ name check, (name, check) ∈ defaultFilters options → ∀ device,
      Repeatable node (ResolverIs node resolver) (Honest node) (check device).run := by
    intro name check found device
    simp only [defaultFilters, List.mem_cons, Prod.mk.injEq, List.not_mem_nil,
      or_false] at found
    rcases found with ⟨rfl, rfl⟩ | ⟨rfl, rfl⟩ | ⟨rfl, rfl⟩ | ⟨rfl, rfl⟩ | ⟨rfl, rfl⟩ |
      ⟨rfl, rfl⟩ | ⟨rfl, rfl⟩
    · exact partOfDeviceSelector_repeatable options device
    · dsimp only [notReadOnly]
      split <;> exact .done _
    · dsimp only [notSuspended]
      split <;> exact .done _
    · dsimp only [noInvalidPartitionLabel]
      split <;> exact .done _
    · exact onlyValidFilesystemSignatures_repeatable options device
    · dsimp only [noChildren]
      split <;> exact .done _
    · dsimp only [usableDeviceType]
      split
      · split <;> exact .done _
      · split
        · exact .done _
        · split <;> exact .done _
  have each : ∀ name device, ∃ value, ∀ check, (defaultFilters options).get? name = some check →
      ∀ world, ResolverIs node resolver world →
        wp (environment node) (.assuming (Honest node)) (check device).run
          (fun result after => ResolverIs node resolver after ∧ result = value) world := by
    intro name device
    cases found : (defaultFilters options).get? name with
    | none => exact ⟨.ok (), by simp⟩
    | some check =>
        obtain ⟨value, holdsAlways⟩ := repeatable name check (GoMap.mem_of_get? found) device
        refine ⟨value, fun other isOther => ?_⟩
        cases isOther
        exact holdsAlways
  choose verdict isVerdict using each
  exact ⟨verdict, fun name check found device => isVerdict name device check found⟩

end DefaultFilters

/-- A run of the default filters on the disks of a multipath device, with the maps in an
order. -/
def orderedRun (order : List String → List String) :
    List (Event sig World) × FilteredBlockDevices × World :=
  Program.run (environment "node")
    (fun _ request => match request with
      | .mapOrder keys => { order := order keys }
      | _ => {})
    (filterDevices (defaultFilters multipathOptions) multipathDisks) multipathWorld

theorem orderedRun_honest (order : List String → List String) :
    ∀ event ∈ (orderedRun order).1, Honest "node" event := by
  refine Program.run_events _ _ _ (fun world request => ?_) _ _
  cases request with
  | mapOrder keys => trivial
  | _ => exact honest_of_calm world _

theorem multipathWorld_resolver :
    ResolverIs "node" (multipathWorld.host "node").symlinks multipathWorld :=
  ⟨fun _ => rfl, by simp [multipathWorld, World.empty, GoMap.get?]⟩

theorem multipathDisks_oneDevice : OneDevicePerName multipathDisks := by
  constructor <;>
    simp [multipathDisks, allDevices, BlockDevice.subtree, BlockDevice.kname, BlockDevice.name]

theorem setDevices_unchanged_reversed :
    setDevices { name := "vg1", status := .ready } [] (orderedRun id).2.1 =
      setDevices { name := "vg1", status := .ready } [] (orderedRun List.reverse).2.1 := by
  obtain ⟨verdict, deterministic⟩ := defaultFilters_deterministic multipathOptions
  exact setDevices_unchanged _ _ deterministic multipathDisks_oneDevice multipathWorld_resolver
    (orderedRun_honest id) (Program.run_exec ..) multipathWorld_resolver
    (orderedRun_honest List.reverse) (Program.run_exec ..)

end Lvms
