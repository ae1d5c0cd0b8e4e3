import Lvms.VgManager.Resolving

/-!
# Removing devices from a volume group

A physical volume that no path of the user leads to is removed from its volume group.
The paths and the volumes are compared by the devices that they denote, as far as the
symlink resolver can find that out. A device that is still listed is kept exactly if
the resolver gives evidence for it.
-/

namespace Lvms

open Interaction

/-! ## What is removed -/

/-- The call takes a device out of its volume group or removes its label. -/
def removesDevice (device : String) : Request → Prop
  | .command (.vgreduce _ removed) => removed = device
  | .command (.pvremove removed) => device ∈ removed
  | _ => False

/-- The paths that the user lists, mandatory or optional. -/
def listedPaths (vg : LVMVolumeGroup) : List DevicePath :=
  (vg.spec.deviceSelector.getD {}).allPaths

/-- A name is, or leads to, a device to which some path could be resolved. -/
def reachesListed
    (resolver : String → Option String)
    (vg : LVMVolumeGroup)
    (name : String) : Bool :=
  ((listedPaths vg).filterMap resolver).contains name ||
    (resolver name).any ((listedPaths vg).filterMap resolver).contains

/-- The physical volumes that no path seems to lead to. -/
def unreached
    (resolver : String → Option String)
    (vg : LVMVolumeGroup)
    (current : VolumeGroup) : List String :=
  (current.pvs.filter fun pv => !reachesListed resolver vg pv.pvName).map (·.pvName)

/-- The number of volumes that stay. -/
def remainingVolumes
    (resolver : String → Option String)
    (vg : LVMVolumeGroup)
    (current : VolumeGroup) : Nat :=
  current.pvs.length - (unreached resolver vg current).length

/-- Nothing keeps the vg-manager from removing devices. -/
structure RemovalAllowed
    (resolver : String → Option String)
    (vg : LVMVolumeGroup)
    (current : VolumeGroup) : Prop where
  present : current.isMissingDevices = false
  mandatory : ∀ path ∈ (vg.spec.deviceSelector.getD {}).paths, (resolver path).isSome
  remaining : 0 < remainingVolumes resolver vg current
  raid : ∀ config, vg.spec.raidConfig = some config →
    validateRAIDDeviceCount config (remainingVolumes resolver vg current) = .ok ()

section Removal

variable {node : String} {resolver : String → Option String} {world : World}
variable {vg : LVMVolumeGroup}

theorem resolveRequired_honest
    (paths : List DevicePath)
    (isResolver : ResolverIs node resolver world) :
    wp (environment node) (.assuming (Honest node)) (resolveRequired paths).run
      (fun result after => ResolverIs node resolver after ∧
        result.toOption = if ∀ path ∈ paths, (resolver path).isSome then
          some (paths.filterMap resolver) else none) world := by
  induction paths generalizing world with
  | nil => exact ⟨isResolver, by simp [Except.toOption]⟩
  | cons path rest inductionHypothesis =>
      simp only [resolveRequired, wp.run_bind_iff, wp.run_mapError_iff]
      refine (resolve_honest path isResolver).mono ?_
      rintro result after ⟨still, rfl⟩
      cases leads : resolver path with
      | none =>
          refine ⟨fun error _ => ⟨still, ?_⟩, ?_⟩
          · simp [leads, Except.toOption]
          · simp [resolution, leads, Except.mapError]
      | some target =>
          refine ⟨by simp [resolution, leads, Except.mapError], ?_⟩
          intro value isValue
          simp only [resolution, leads, Except.mapError, Except.ok.injEq] at isValue
          subst isValue
          refine (inductionHypothesis still).mono ?_
          rintro result last ⟨stillAgain, answered⟩
          refine ⟨fun error failed => ⟨stillAgain, ?_⟩, fun others resolved => ⟨stillAgain, ?_⟩⟩
          · rw [failed] at answered
            simp_all [Except.toOption]
          · rw [resolved] at answered
            simp_all [Except.toOption]

theorem resolveOptional_honest
    (paths : List DevicePath)
    (isResolver : ResolverIs node resolver world) :
    wp (environment node) (.assuming (Honest node)) (resolveOptional paths)
      (fun resolved after => ResolverIs node resolver after ∧
        resolved = paths.filterMap resolver) world := by
  induction paths generalizing world with
  | nil => exact ⟨isResolver, rfl⟩
  | cons path rest inductionHypothesis =>
      rw [resolveOptional, wp.bind_iff]
      refine (resolve_honest path isResolver).mono ?_
      rintro result after ⟨still, rfl⟩
      cases leads : resolver path with
      | none =>
          simp only [resolution, leads]
          refine (inductionHypothesis still).mono ?_
          rintro resolved last ⟨stillAgain, rfl⟩
          exact ⟨stillAgain, by rw [List.filterMap_cons_none leads]⟩
      | some target =>
          simp only [resolution, leads, wp.bind_iff]
          refine (inductionHypothesis still).mono ?_
          rintro resolved last ⟨stillAgain, rfl⟩
          exact ⟨stillAgain, by rw [List.filterMap_cons_some leads]⟩

/-- The mappings are what the resolver finds. -/
theorem buildDevicePathMappings_honest
    (isResolver : ResolverIs node resolver world) :
    wp (environment node) (.assuming (Honest node)) (buildDevicePathMappings vg).run
      (fun result after => ResolverIs node resolver after ∧
        result.toOption = if ∀ path ∈ (vg.spec.deviceSelector.getD {}).paths,
            (resolver path).isSome then
          some ((listedPaths vg).filterMap resolver) else none) world := by
  rw [buildDevicePathMappings]
  cases isSelector : vg.spec.deviceSelector with
  | none =>
      refine ⟨isResolver, ?_⟩
      simp [listedPaths, isSelector, DeviceSelector.allPaths, Except.toOption]
  | some selector =>
      simp only [wp.run_bind_iff, wp.run_lift_iff]
      refine (resolveRequired_honest selector.paths isResolver).mono ?_
      rintro result after ⟨still, answered⟩
      refine ⟨fun error failed => ⟨still, ?_⟩, fun required resolved => ?_⟩
      · rw [failed] at answered
        simp_all [Except.toOption]
      · refine (resolveOptional_honest selector.optionalPaths still).mono ?_
        rintro optional last ⟨stillAgain, rfl⟩
        refine ⟨by simp, ?_⟩
        rintro _ ⟨⟩
        refine ⟨stillAgain, ?_⟩
        rw [resolved] at answered
        simp_all [Except.toOption, listedPaths, DeviceSelector.allPaths]

/-- Unmatched is what no mapping reaches. -/
theorem unmatchedPVs_honest
    (mappings : List String)
    (pvs : List PhysicalVolume)
    (isResolver : ResolverIs node resolver world) :
    wp (environment node) (.assuming (Honest node))
      (Reconciler.unmatchedPVs mappings pvs)
      (fun names after => ResolverIs node resolver after ∧
        names = (pvs.filter fun pv => !(mappings.contains pv.pvName ||
          (resolver pv.pvName).any mappings.contains)).map (·.pvName)) world := by
  induction pvs generalizing world with
  | nil => exact ⟨isResolver, rfl⟩
  | cons pv rest inductionHypothesis =>
      rw [Reconciler.unmatchedPVs]
      split
      · rename_i direct
        refine (inductionHypothesis isResolver).mono ?_
        rintro names last ⟨still, rfl⟩
        refine ⟨still, ?_⟩
        rw [List.filter_cons_of_neg]
        rw [direct, Bool.true_or]
        exact Bool.false_ne_true
      · rename_i indirect
        rw [wp.bind_iff]
        refine (resolve_honest pv.pvName isResolver).mono ?_
        rintro result after ⟨still, rfl⟩
        rw [wp.bind_iff]
        refine (inductionHypothesis still).mono ?_
        rintro names last ⟨stillAgain, rfl⟩
        refine ⟨stillAgain, ?_⟩
        cases leads : resolver pv.pvName with
        | none => simp_all [resolution]
        | some target =>
            simp only [resolution, leads]
            by_cases there : mappings.contains target = true <;> simp_all

/-- Devices are only removed by calls that shrink. -/
theorem effect_of_removesDevice
    {device : String}
    {request : Request}
    (removes : removesDevice device request) :
    request.effect = .shrink := by
  unfold removesDevice at removes
  split at removes
  · rfl
  · rfl
  · exact removes.elim

/-- No event takes a device away. -/
def KeepsDevices (events : List (Event sig World)) : Prop :=
  ∀ event ∈ events, ∀ device, ¬ removesDevice device event.request

theorem KeepsDevices.append
    {first second : List (Event sig World)}
    (keeps : KeepsDevices first)
    (keepsToo : KeepsDevices second) :
    KeepsDevices (first ++ second) :=
  List.forall_mem_append.mpr ⟨keeps, keepsToo⟩

theorem keepsDevices_of_uses
    {α : Type}
    {effects : List Effect}
    {program : Program sig α}
    {events : List (Event sig World)}
    {value : α}
    {after : World}
    (ran : Exec (environment node) program world events value after)
    (uses : program.Uses (Within effects))
    (quiet : .shrink ∉ effects) :
    KeepsDevices events := by
  intro event member device removes
  have allowed : event.request.effect ∈ effects := uses.events_allowed ran event member
  rw [effect_of_removesDevice removes] at allowed
  exact quiet allowed

variable {r : Reconciler} {current : VolumeGroup} {events : List (Event sig World)}
variable {result : Except GoError Bool} {after : World}

/-- The unreached volumes are to be removed, and nothing else is. -/
def RemovesUnreached
    (r : Reconciler)
    (resolver : String → Option String)
    (vg : LVMVolumeGroup)
    (current : VolumeGroup)
    (events : List (Event sig World)) : Prop :=
  ∃ early during late, events = early ++ (during ++ late) ∧
    KeepsDevices early ∧ KeepsDevices late ∧
    ∃ start removed last, Exec (environment r.nodeName)
      (r.removeDevices vg (unreached resolver vg current)).run start during removed last

/-- The devices to remove are some, but not all, and for RAID enough of them stay. -/
structure MayRemove
    (vg : LVMVolumeGroup)
    (current : VolumeGroup)
    (names : List String) : Prop where
  some : names ≠ []
  remaining : names.length < current.pvs.length
  raid : ∀ config, vg.spec.raidConfig = .some config →
    validateRAIDDeviceCount config (current.pvs.length - names.length) = .ok ()

/-- The given devices are removed, and then nothing but a report follows. -/
def RemovesAndReports
    (r : Reconciler)
    (vg : LVMVolumeGroup)
    (names : List String)
    (world : World)
    (events : List (Event sig World))
    (after : World) : Prop :=
  ∃ during late removed, events = during ++ late ∧ KeepsDevices late ∧
    Exec (environment r.nodeName) (r.removeDevices vg names).run world during removed after

/-- The end of a run that removes devices. -/
theorem removeAndReport_exec
    {names : List String}
    {message : String}
    (ran : Exec (environment r.nodeName)
      (do r.removeDevices vg names
          r.normalEvent vg "DeviceRemoved" message
          return true : Go Bool).run world events result after) :
    RemovesAndReports r vg names world events after := by
  rcases Exec.run_bind_iff.mp ran with
    ⟨error, rfl, failed⟩ | ⟨done, during, between, late, removed, reports, rfl⟩
  · exact ⟨events, [], _, by simp, by simp [KeepsDevices], failed⟩
  · have uses : (do r.normalEvent vg "DeviceRemoved" message
                    return true : Go Bool).run.Uses (Within [.read, .report]) :=
      .run_bind (.run_lift (r.normalEvent_uses ..)) fun _ => trivial
    obtain rfl := (Exec.of_reading reports uses).1
    exact ⟨during, late, _, rfl, keepsDevices_of_uses reports uses (by decide), removed⟩

/-- How a run decides: the volume group is incomplete, or a mandatory path does not
resolve, or the volumes that no path leads to are removed if they may be. -/
theorem deleteRemovedDevices_cases
    (explicit : hasExplicitDevicePaths vg = true)
    (ran : Exec (environment r.nodeName) (r.deleteRemovedDevices current vg).run world
      events result after) :
    (current.isMissingDevices = true ∧ events = [] ∧ after = world) ∨
    (∃ error, Exec (environment r.nodeName) (buildDevicePathMappings vg).run world events
      (.error error) after) ∨
    (current.isMissingDevices = false ∧ ∃ mappings names first middle late between later,
      events = first ++ (middle ++ late) ∧
      Exec (environment r.nodeName) (buildDevicePathMappings vg).run world first
        (.ok mappings) between ∧
      Exec (environment r.nodeName) (Reconciler.unmatchedPVs mappings current.pvs) between
        middle names later ∧
      (¬ MayRemove vg current names ∧ late = [] ∧ after = later ∨
        MayRemove vg current names ∧ RemovesAndReports r vg names later late after)) := by
  dsimp only [Reconciler.deleteRemovedDevices] at ran
  simp only [explicit, Bool.not_true, Bool.false_eq_true, ↓reduceIte] at ran
  split at ran
  · rename_i missing
    rcases Exec.run_bind_iff.mp ran with
      ⟨error, rfl, thrown⟩ | ⟨_, _, _, _, thrown, -⟩
    · obtain ⟨rfl, -, rfl⟩ := Exec.run_throw_iff.mp thrown
      exact .inl ⟨missing, rfl, rfl⟩
    · exact absurd thrown Exec.run_throw_not_ok
  rename_i present
  right
  rcases Exec.run_bind_iff.mp ran with
    ⟨error, rfl, failed⟩ | ⟨mappings, first, between, second, mapped, unmatched, rfl⟩
  · exact .inl ⟨error, failed⟩
  right
  obtain ⟨names, middle, later, rest, sought, removes, rfl⟩ :=
    Exec.run_lift_bind_iff.mp unmatched
  refine ⟨by simpa using present, mappings, names, first, middle, rest, between, later, rfl,
    mapped, sought, ?_⟩
  split at removes
  · rename_i none
    obtain ⟨rfl, -, rfl⟩ := Exec.run_pure_iff.mp removes
    exact .inl ⟨fun may => may.some (List.isEmpty_iff.mp none), rfl, rfl⟩
  rename_i some
  split at removes
  · rename_i tooFew
    rcases Exec.run_bind_iff.mp removes with
      ⟨error, rfl, thrown⟩ | ⟨_, _, _, _, thrown, -⟩
    · obtain ⟨rfl, -, rfl⟩ := Exec.run_throw_iff.mp thrown
      refine .inl ⟨fun may => ?_, rfl, rfl⟩
      have remaining := may.remaining
      omega
    · exact absurd thrown Exec.run_throw_not_ok
  rename_i enough
  have may (raid : ∀ config, vg.spec.raidConfig = Option.some config →
      validateRAIDDeviceCount config (current.pvs.length - names.length) = .ok ()) :
      MayRemove vg current names :=
    ⟨fun empty => some (List.isEmpty_iff.mpr empty), by omega, raid⟩
  cases isRaid : vg.spec.raidConfig with
  | none =>
      simp only [isRaid] at removes
      exact .inr ⟨may (by simp [isRaid]), removeAndReport_exec removes⟩
  | some config =>
      simp only [isRaid] at removes
      rcases Exec.run_bind_iff.mp removes with
        ⟨error, rfl, failed⟩ | ⟨_, _, _, last, checked, reported, rfl⟩
      · obtain ⟨inner, isError, ran⟩ := Exec.run_mapError_iff.mp failed
        obtain ⟨rfl, rfl, rfl⟩ := Exec.pure_iff.mp ran
        refine .inl ⟨fun may => ?_, rfl, rfl⟩
        rw [may.raid config isRaid] at isError
        simp [Except.mapError] at isError
      · obtain ⟨rfl, valid, rfl⟩ := Exec.pure_iff.mp (Exec.run_mapError_ok_iff.mp checked)
        refine .inr ⟨may fun other same => ?_, removeAndReport_exec reported⟩
        obtain rfl := Option.some.inj (isRaid.symm.trans same)
        exact valid.symm

/-- A run removes the unreached volumes if it may, and otherwise nothing. -/
theorem deleteRemovedDevices_exec
    (isResolver : ResolverIs r.nodeName resolver world)
    (honest : ∀ event ∈ events, Honest r.nodeName event)
    (explicit : hasExplicitDevicePaths vg = true)
    (ran : Exec (environment r.nodeName) (r.deleteRemovedDevices current vg).run world
      events result after) :
    (¬ (RemovalAllowed resolver vg current ∧ unreached resolver vg current ≠ []) ∧
      KeepsDevices events) ∨
    (RemovalAllowed resolver vg current ∧ unreached resolver vg current ≠ [] ∧
      RemovesUnreached r resolver vg current events) := by
  rcases deleteRemovedDevices_cases explicit ran with
    ⟨missing, rfl, -⟩ | ⟨error, failed⟩ |
      ⟨present, mappings, names, first, middle, late, between, later, rfl, mapped, sought,
        removes⟩
  · refine .inl ⟨fun allowed => ?_, by simp [KeepsDevices]⟩
    simp [allowed.1.present] at missing
  · obtain ⟨-, -, answered⟩ :=
      wp.sound (buildDevicePathMappings_honest isResolver) failed honest
    refine .inl ⟨?_, keepsDevices_of_uses failed (buildDevicePathMappings_uses _) (by decide)⟩
    rintro ⟨allowed, -⟩
    rw [if_pos allowed.mandatory] at answered
    simp [Except.toOption] at answered
  rw [List.forall_mem_append, List.forall_mem_append] at honest
  obtain ⟨-, still, answered⟩ :=
    wp.sound (buildDevicePathMappings_honest isResolver) mapped honest.1
  obtain ⟨mandatory, rfl⟩ : (∀ path ∈ (vg.spec.deviceSelector.getD {}).paths,
      (resolver path).isSome) ∧ mappings = (listedPaths vg).filterMap resolver := by
    split at answered
    · rename_i mandatory
      exact ⟨mandatory, Option.some.inj answered⟩
    · simp [Except.toOption] at answered
  obtain rfl : names = unreached resolver vg current :=
    (wp.sound (unmatchedPVs_honest _ _ still) sought honest.2.1).2.2
  have keeps : KeepsDevices (first ++ middle) :=
    (keepsDevices_of_uses mapped (buildDevicePathMappings_uses _) (by decide)).append
      (keepsDevices_of_uses sought (Reconciler.unmatchedPVs_uses ..) (by decide))
  rw [← List.append_assoc]
  rcases removes with ⟨mayNot, rfl, -⟩ | ⟨may, during, rest, removed, rfl, keepsEnd, ran⟩
  · refine .inl ⟨fun allowed => mayNot ⟨allowed.2, ?_, allowed.1.raid⟩, by simpa using keeps⟩
    have remaining := allowed.1.remaining
    unfold remainingVolumes at remaining
    omega
  · refine .inr ⟨⟨present, mandatory, ?_, may.raid⟩, may.some, first ++ middle, during, rest,
      by simp, keeps, keepsEnd, later, removed, after, ran⟩
    have remaining := may.remaining
    unfold remainingVolumes
    omega

/-- Only the given devices are removed. -/
theorem removeDevices_removes (names : List String) :
    (r.removeDevices vg names).run.Uses fun request =>
      ∀ device, removesDevice device request → device ∈ names := by
  induction names with
  | nil => trivial
  | cons name rest inductionHypothesis =>
      have quiet {α : Type} {program : Program sig α}
          (uses : program.Uses (Within [.read, .report])) :
          program.Uses fun request =>
            ∀ device, removesDevice device request → device ∈ name :: rest :=
        uses.mono fun request allowed device removes => by
          rw [Within, effect_of_removesDevice removes] at allowed
          simp at allowed
      refine .run_bind (.run_attempt (.run_mapError ⟨?_, fun _ => trivial⟩)) fun reduced => ?_
      · rintro device rfl
        exact .head _
      cases reduced with
      | error error =>
          exact .run_bind (.run_lift (quiet (r.warningEvent_uses ..))) fun _ => trivial
      | ok =>
          refine .run_bind (.run_attempt (.run_mapError ⟨?_, fun _ => trivial⟩)) fun _ =>
            inductionHypothesis.mono fun _ allowed device removes =>
              .tail _ (allowed device removes)
          intro device removes
          exact List.mem_singleton.mp removes ▸ .head _

/-- `vgreduce` succeeds. -/
def Reduces : Event sig World → Prop
  | ⟨_, .command (.vgreduce _ _), response⟩ => response = .ok ()
  | _ => True

theorem reduces_of_calm
    (world : World)
    (request : Request) :
    Reduces ((environment node).event {} world request) := by
  unfold Reduces
  split
  · rename_i same
    cases same
    rfl
  · trivial

/-- When nothing fails every given device is removed. -/
theorem removeDevices_complete
    {names : List String}
    {result : Except GoError Unit}
    (ran : Exec (environment r.nodeName) (r.removeDevices vg names).run world events result
      after)
    (reduces : ∀ event ∈ events, Reduces event) :
    ∀ name ∈ names, ∃ event ∈ events, event.request = .command (.vgreduce vg.name name) := by
  induction names generalizing world events with
  | nil => simp
  | cons name rest inductionHypothesis =>
      obtain ⟨reduced, first, between, second, tried, removes, rfl⟩ :=
        Exec.run_attempt_bind_iff.mp ran
      rw [List.forall_mem_append] at reduces
      obtain ⟨inner, rfl, commanded⟩ := Exec.run_mapError_iff.mp tried
      obtain ⟨choice, rfl, isInner, -⟩ := exec_call_iff.mp commanded
      have reducedOk : inner = .ok () := isInner.trans (reduces.1 _ (.head _))
      subst reducedOk
      refine List.forall_mem_cons.mpr ⟨⟨_, .head _, rfl⟩, fun other isOther => ?_⟩
      obtain ⟨_, _, _, last, _, removesRest, rfl⟩ := Exec.run_attempt_bind_iff.mp removes
      rw [List.forall_mem_append] at reduces
      obtain ⟨event, member, isReduce⟩ :=
        inductionHypothesis removesRest reduces.2.2 other isOther
      exact ⟨event, by simp [member], isReduce⟩

/-! ## Evidence -/

/-- Every path denotes a device; for some paths that cannot be found out. -/
def partialResolver
    (denotes : String → String)
    (fails : String → Bool)
    (path : String) : Option String :=
  if fails path then none else some (denotes path)

/-- A name denotes the device of a path that the user lists. -/
def StillSelected
    (denotes : String → String)
    (vg : LVMVolumeGroup)
    (name : String) : Prop :=
  ∃ path ∈ listedPaths vg, denotes path = denotes name

/-- A listed path can be resolved, and it leads to the name or to where the name
leads. -/
def Evident
    (denotes : String → String)
    (fails : String → Bool)
    (vg : LVMVolumeGroup)
    (name : String) : Prop :=
  ∃ path ∈ listedPaths vg, fails path = false ∧
    (denotes path = name ∨ fails name = false ∧ denotes path = denotes name)

variable {denotes : String → String} {fails : String → Bool}

theorem reachesListed_iff
    {name : String} :
    reachesListed (partialResolver denotes fails) vg name = true ↔
      Evident denotes fails vg name := by
  have leads : ∀ target,
      ((listedPaths vg).filterMap (partialResolver denotes fails)).contains target = true ↔
        ∃ path ∈ listedPaths vg, fails path = false ∧ denotes path = target := by
    simp [partialResolver]
  simp only [reachesListed, Bool.or_eq_true, Option.any_eq_true, leads]
  constructor
  · rintro (⟨path, listed, resolves, same⟩ | ⟨target, isTarget, path, listed, resolves, same⟩)
    · exact ⟨path, listed, resolves, .inl same⟩
    · cases found : fails name with
      | true => simp [partialResolver, found] at isTarget
      | false =>
          simp only [partialResolver, found, Bool.false_eq_true, ↓reduceIte,
            Option.some.injEq] at isTarget
          exact ⟨path, listed, resolves, .inr ⟨found, same.trans isTarget.symm⟩⟩
  · rintro ⟨path, listed, resolves, same | ⟨found, same⟩⟩
    · exact .inl ⟨path, listed, resolves, same⟩
    · exact .inr ⟨denotes name, by simp [partialResolver, found], path, listed, resolves, same⟩

theorem mem_unreached_iff
    {device : String} :
    device ∈ unreached (partialResolver denotes fails) vg current ↔
      ∃ pv ∈ current.pvs, ¬ Evident denotes fails vg pv.pvName ∧ pv.pvName = device := by
  simp only [unreached, List.mem_map, List.mem_filter, Bool.not_eq_true',
    ← reachesListed_iff, Bool.not_eq_true, and_assoc]

/-- A listed path is explicit. -/
theorem explicit_of_listed
    {path : DevicePath}
    (listed : path ∈ listedPaths vg) :
    hasExplicitDevicePaths vg = true := by
  unfold listedPaths DeviceSelector.allPaths at listed
  unfold hasExplicitDevicePaths
  cases isSelector : vg.spec.deviceSelector with
  | none => simp [isSelector] at listed
  | some selector =>
      rw [isSelector, Option.getD_some, List.mem_append] at listed
      rcases listed with mandatory | optional
      · simp [List.ne_nil_of_mem mandatory]
      · simp [List.ne_nil_of_mem optional]

/-- Devices that are still selected are kept exactly if every volume on such a device
is evident, or no volume can be removed at all. -/
theorem selected_kept_iff_evident
    (isResolver : ResolverIs r.nodeName (partialResolver denotes fails) world) :
    (∀ events result after,
      Exec (environment r.nodeName) (r.deleteRemovedDevices current vg).run world events
        result after →
      (∀ event ∈ events, Honest r.nodeName event) →
      ∀ event ∈ events, ∀ device, removesDevice device event.request →
        ¬ StillSelected denotes vg device) ↔
    (RemovalAllowed (partialResolver denotes fails) vg current →
      ∀ pv ∈ current.pvs, StillSelected denotes vg pv.pvName →
        Evident denotes fails vg pv.pvName) := by
  constructor
  · intro kept allowed pv member selected
    by_contra hidden
    -- on a calm host the volume would be removed
    have unreachedHere := mem_unreached_iff.mpr ⟨pv, member, hidden, rfl⟩
    have honest := Program.run_events (environment r.nodeName) (fun _ _ => {})
      (Honest r.nodeName) honest_of_calm (r.deleteRemovedDevices current vg).run world
    have reduces := Program.run_events (environment r.nodeName) (fun _ _ => {})
      Reduces reduces_of_calm (r.deleteRemovedDevices current vg).run world
    have ran := Program.run_exec (environment r.nodeName) (fun _ _ => {})
      (r.deleteRemovedDevices current vg).run world
    obtain ⟨path, listed, -⟩ := id selected
    rcases deleteRemovedDevices_exec isResolver honest (explicit_of_listed listed) ran with
      ⟨notAllowed, -⟩ | ⟨-, -, early, during, late, split, -, -, start, removed, last, removes⟩
    · exact notAllowed ⟨allowed, List.ne_nil_of_mem unreachedHere⟩
    · rw [split] at reduces
      obtain ⟨event, isEvent, isReduce⟩ := removeDevices_complete removes
        (fun event inside => reduces event (by simp [inside])) pv.pvName unreachedHere
      refine kept _ _ _ ran honest event ?_ pv.pvName ?_ selected
      · rw [split]
        simp [isEvent]
      · rw [isReduce]
        rfl
  · rintro evident events result after ran honest event member device removes
      ⟨path, listed, same⟩
    rcases deleteRemovedDevices_exec isResolver honest (explicit_of_listed listed) ran with
      ⟨-, keeps⟩ | ⟨allowed, -, early, during, late, rfl, keepsEarly, keepsLate, start,
        removed, last, removing⟩
    · exact keeps event member device removes
    · have inside : event ∈ during := by
        rcases List.mem_append.mp member with first | others
        · exact absurd removes (keepsEarly event first device)
        · refine (List.mem_append.mp others).resolve_right fun afterwards => ?_
          exact keepsLate event afterwards device removes
      have planned := (removeDevices_removes _).events_allowed removing event inside device
        removes
      obtain ⟨pv, isVolume, hidden, rfl⟩ := mem_unreached_iff.mp planned
      exact hidden (evident allowed pv isVolume ⟨path, listed, same⟩)

end Removal

/-- A link to the second disk, and names of disks. -/
def linkDenotes (path : String) : String :=
  if path = "/dev/disk/by-id/b" then "/dev/sdb" else path

/-- The link cannot be followed. -/
def linkFails (path : String) : Bool :=
  path == "/dev/disk/by-id/b"

/-- A volume group on two disks, the second one optional and named by its link. -/
def linkedGroup : LVMVolumeGroup where
  metadata := { name := "vg1" }
  spec := { deviceSelector := some {
    paths := ["/dev/sda"], optionalPaths := ["/dev/disk/by-id/b"] } }

/-- What LVM reports about the volume group. -/
def linkedVolumes : VolumeGroup where
  name := "vg1"
  pvs := [{ pvName := "/dev/sda", vgName := "vg1" },
    { pvName := "/dev/sdb", vgName := "vg1" }]

/-- A host with these paths. -/
def linkedWorld : World :=
  { World.empty with host := fun _ => { symlinks := partialResolver linkDenotes linkFails } }

theorem linkedWorld_resolver :
    ResolverIs "node" (partialResolver linkDenotes linkFails) linkedWorld :=
  ⟨fun _ => rfl, by simp [linkedWorld, World.empty, GoMap.get?]⟩

theorem selected_kept_iff_evident_linked :
    (∀ events result after,
      Exec (environment "node")
        ((Reconciler.plain "node").deleteRemovedDevices linkedVolumes linkedGroup).run
        linkedWorld events result after →
      (∀ event ∈ events, Honest "node" event) →
      ∀ event ∈ events, ∀ device, removesDevice device event.request →
        ¬ StillSelected linkDenotes linkedGroup device) ↔
    (RemovalAllowed (partialResolver linkDenotes linkFails) linkedGroup linkedVolumes →
      ∀ pv ∈ linkedVolumes.pvs, StillSelected linkDenotes linkedGroup pv.pvName →
        Evident linkDenotes linkFails linkedGroup pv.pvName) :=
  selected_kept_iff_evident (r := .plain "node") linkedWorld_resolver

/-- The event takes a device out of the volume group. -/
def reducesVG1 (device : String) (event : Event sig World) : Bool :=
  match event.request with
  | .command command => command == .vgreduce "vg1" device
  | _ => false

/-- The second disk is removed because its link cannot be followed, although it is
still listed. -/
theorem selected_device_removed :
    ∃ events result after,
      Exec (environment "node")
        ((Reconciler.plain "node").deleteRemovedDevices linkedVolumes linkedGroup).run
        linkedWorld events result after ∧
      (∀ event ∈ events, Honest "node" event) ∧
      (∃ event ∈ events, event.request = .command (.vgreduce "vg1" "/dev/sdb")) ∧
      StillSelected linkDenotes linkedGroup "/dev/sdb" := by
  refine ⟨_, _, _, Program.run_exec (environment "node") (fun _ _ => {}) _ _,
    Program.run_events _ _ _ honest_of_calm _ _, ?_, "/dev/disk/by-id/b", by decide, by decide⟩
  have reduced : ((Program.run (environment "node") (fun _ _ => {})
      ((Reconciler.plain "node").deleteRemovedDevices linkedVolumes linkedGroup).run
      linkedWorld).1.any (reducesVG1 "/dev/sdb")) = true := by
    decide +kernel
  obtain ⟨event, member, isReduce⟩ := List.any_eq_true.mp reduced
  refine ⟨event, member, ?_⟩
  rw [reducesVG1] at isReduce
  split at isReduce
  · rename_i command isCommand
    rw [isCommand, eq_of_beq isReduce]
  · cases isReduce

end Lvms
