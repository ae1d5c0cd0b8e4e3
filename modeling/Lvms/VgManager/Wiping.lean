import Lvms.VgManager.Filtering

/-!
# What wiping leaves behind

The symlink resolver and the loops of `wipeDevices`, as long as every path keeps
leading to the same place and every device that is to be wiped is wiped. If
`wipeDevices` then reports that it has wiped nothing, it has changed nothing,
and no path of the selector leads to a device of the host.
-/

namespace Lvms

open Interaction

/-- The names of the devices of several trees. -/
def allNames (devices : List BlockDevice) : List String :=
  (allDevices devices).map BlockDevice.kname

/-- Where paths lead on a host, as far as they are of interest, and that devices
can be wiped. -/
structure Dependable
    (node : String)
    (assumes : Event sig World → Prop)
    (host : Host)
    (asked : String → Prop)
    (links : String → Option String) : Prop where
  answers : ∀ choice world path, world.host node = host → asked path →
    assumes ((environment node).event choice world (.query (.evalSymlinks path))) →
    (host.answer choice (.evalSymlinks path)).toOption = links path
  wipes : ∀ choice world device,
    assumes ((environment node).event choice world (.command (.wipefs device))) →
    ((world.host node).execute choice (.wipefs device)).1 = .ok ()

/-- The host is as given, and what has been resolved is still right. -/
structure Current
    (node : String)
    (host : Host)
    (asked : String → Prop)
    (links : String → Option String)
    (world : World) : Prop where
  host : world.host node = host
  resolved : ∀ path target, asked path →
    (world.memory node).resolved.get? path = some target →
    links path = some target

section

variable {node : String} {assumes : Event sig World → Prop} {world : World}
variable {host : Host} {asked : String → Prop} {links : String → Option String}

/-! ## The symlink resolver -/

/-- The resolver answers as the links say. -/
theorem resolve_wp (dependable : Dependable node assumes host asked links) :
    Resolves node assumes (Current node host asked links)
      (fun path answer => asked path → answer = links path) := by
  rintro path world ⟨sameHost, right⟩
  simp only [resolve, wp.run_bind_iff, wp.run_lift_iff]
  refine wp_call_iff.mpr fun _ _ => ⟨by simp, ?_⟩
  rintro _ ⟨⟩
  simp only [World.respond]
  cases cached : (world.memory node).resolved.get? path with
  | some target =>
      exact ⟨⟨sameHost, right⟩, fun isAsked => (right path target isAsked cached).symm⟩
  | none =>
      simp only [wp.run_bind_iff, wp.run_lift_iff]
      refine wp_query_iff.mpr fun choice assumed => ?_
      rw [sameHost]
      have answers := fun isAsked =>
        dependable.answers choice world path sameHost isAsked assumed
      cases answered : host.answer choice (.evalSymlinks path) with
      | error error =>
          rw [answered] at answers
          exact ⟨fun _ _ => ⟨⟨sameHost, right⟩, answers⟩, by simp⟩
      | ok target =>
          rw [answered] at answers
          refine ⟨by simp, ?_⟩
          rintro _ ⟨⟩
          refine wp_call_iff.mpr fun _ _ => ⟨by simp, fun _ _ => ⟨⟨sameHost, ?_⟩, answers⟩⟩
          intro other found isAsked isCached
          simp only [World.respond, World.setMemory_memory] at isCached
          by_cases same : other = path
          · subst same
            rw [GoMap.get?_set_self] at isCached
            exact (answers isAsked).symm.trans isCached
          · rw [GoMap.get?_set_other _ _ same] at isCached
            exact right other found isAsked isCached

/-! ## One device -/

/-- Removing a device-mapper reference does not change what the host reports. -/
theorem dmsetupRemove_wp (device : String) :
    wp (environment node) (.assuming assumes) (dmsetupRemove device).run
      (fun _ after => after = world) world := by
  dsimp only [dmsetupRemove]
  split
  · exact rfl
  · rw [wp.run_bind_iff, wp.run_attempt_iff]
    refine wp_command_cases (fun _ text _ _ => ⟨by simp, ?_⟩) fun _ => ⟨by simp, ?_⟩ <;>
      rintro _ ⟨⟩
    · dsimp only
      split <;> exact World.setHost_self ..
    · exact World.setHost_self ..

mutual

theorem removeMapperReference_wp :
    (device : BlockDevice) → (world : World) →
    wp (environment node) (.assuming assumes) (removeMapperReference device)
      (fun _ after => after = world) world
  | .mk _ _ _ _ _ _ _ children, world => by
      rw [removeMapperReference, wp.bind_iff]
      refine (removeMapperReferences_wp children world).mono ?_
      rintro _ _ rfl
      split
      · exact rfl
      · rw [wp.bind_iff]
        exact dmsetupRemove_wp _

theorem removeMapperReferences_wp :
    (devices : List BlockDevice) → (world : World) →
    wp (environment node) (.assuming assumes)
      (removeMapperReferences devices) (fun _ after => after = world) world
  | [], _ => rfl
  | device :: rest, world => by
      rw [removeMapperReferences, wp.bind_iff]
      refine (removeMapperReference_wp device world).mono ?_
      rintro _ after rfl
      exact removeMapperReferences_wp rest after

end

/-- A device with a name is wiped. -/
theorem wipe_wp
    (dependable : Dependable node assumes host asked links)
    {post : Except GoError Unit → World → Prop}
    {device : String}
    (unnamed : device = "" → ∀ error, post (.error error) world)
    (wiped : device ≠ "" → ∀ after, post (.ok ()) after) :
    wp (environment node) (.assuming assumes) (wipe device).run post world := by
  dsimp only [wipe]
  split
  · rename_i empty
    exact unnamed empty _
  · rename_i named
    rw [wp.run_mapError_iff, wp_command_iff]
    intro choice assumed
    rw [dependable.wipes choice world device assumed]
    exact wiped named _

mutual

/-- Either the device was found and wiped, or the world is the same and the device
was not found; only an empty name can fail. -/
theorem wipeIfNamed_wp
    (dependable : Dependable node assumes host asked links)
    (deviceName : String) :
    (device : BlockDevice) → (world : World) →
    wp (environment node) (.assuming assumes) (wipeIfNamed deviceName device).run
      (fun result after => (∀ error, result = .error error → deviceName = "") ∧
        ((∃ stop, result = .ok (true, stop) ∧ deviceName ≠ "") ∨ after = world ∧
          ∀ value, result = .ok value → value = (false, false) ∧
            deviceName ∉ device.subtree.map BlockDevice.kname)) world
  | .mk _ kname _ _ _ _ _ children, world => by
      rw [wipeIfNamed]
      split
      · rename_i same
        simp only [wp.run_bind_iff, wp.run_lift_iff]
        refine (removeMapperReferences_wp children world).mono ?_
        rintro _ _ rfl
        refine ⟨by simp, fun _ _ => wipe_wp dependable (fun empty error => ?_) ?_⟩
        · exact ⟨fun _ _ => ⟨fun _ _ => same ▸ empty, .inr ⟨rfl, by simp⟩⟩, by simp⟩
        · exact fun named after =>
            ⟨by simp, fun _ _ => ⟨by simp, .inl ⟨true, rfl, same ▸ named⟩⟩⟩
      · rename_i different
        rw [wp.run_bind_iff]
        refine (wipeDevice_wp dependable deviceName children world).mono ?_
        rintro result after ⟨fails, wiped⟩
        refine ⟨fun error failed => ⟨fun _ _ => fails error failed, ?_⟩,
          fun value succeeded => ⟨by simp, ?_⟩⟩
        · obtain ⟨unchanged, _⟩ := wiped.resolve_left (by simp [failed])
          exact .inr ⟨unchanged, by simp⟩
        · rcases wiped with ⟨isWiped, named⟩ | ⟨unchanged, missed⟩
          · obtain rfl := Except.ok.inj (succeeded.symm.trans isWiped)
            exact .inl ⟨false, rfl, named⟩
          · obtain ⟨rfl, absent⟩ := missed value succeeded
            refine .inr ⟨unchanged, ?_⟩
            rintro _ ⟨⟩
            refine ⟨rfl, ?_⟩
            rw [BlockDevice.subtree, List.map_cons, List.mem_cons]
            exact fun found => found.elim (fun same => different same.symm) absent

theorem wipeDevice_wp
    (dependable : Dependable node assumes host asked links)
    (deviceName : String) :
    (devices : List BlockDevice) → (world : World) →
    wp (environment node) (.assuming assumes) (wipeDevice deviceName devices).run
      (fun result after => (∀ error, result = .error error → deviceName = "") ∧
        ((result = .ok true ∧ deviceName ≠ "") ∨ after = world ∧
          ∀ value, result = .ok value → value = false ∧
            deviceName ∉ allNames devices)) world
  | [], _ => ⟨by simp, .inr ⟨rfl, by simp [allNames, allDevices]⟩⟩
  | device :: rest, world => by
      rw [wipeDevice, wp.run_bind_iff]
      refine (wipeIfNamed_wp dependable deviceName device world).mono ?_
      rintro result after ⟨fails, wiped⟩
      refine ⟨fun error failed => ⟨fun _ _ => fails error failed, ?_⟩, ?_⟩
      · obtain ⟨unchanged, _⟩ := wiped.resolve_left (by simp [failed])
        exact .inr ⟨unchanged, by simp⟩
      rintro ⟨flag, stop⟩ succeeded
      dsimp only
      split
      · rename_i isStop
        refine ⟨by simp, ?_⟩
        rcases wiped with ⟨_, isWiped, named⟩ | ⟨_, missed⟩
        · cases succeeded.symm.trans isWiped
          exact .inl ⟨rfl, named⟩
        · cases (missed _ succeeded).1
          cases isStop
      · rw [wp.run_bind_iff]
        refine (wipeDevice_wp dependable deviceName rest after).mono ?_
        rintro later last ⟨laterFails, laterWiped⟩
        refine ⟨fun error failed => ⟨fun _ _ => laterFails error failed, ?_⟩,
          fun value laterSucceeded => ⟨by simp, ?_⟩⟩
        · rcases wiped with ⟨_, _, named⟩ | ⟨unchanged, _⟩
          · exact absurd (laterFails error failed) named
          · obtain ⟨same, _⟩ := laterWiped.resolve_left (by simp [failed])
            exact .inr ⟨same.trans unchanged, by simp⟩
        · rcases wiped with ⟨_, isWiped, named⟩ | ⟨unchanged, missed⟩
          · cases succeeded.symm.trans isWiped
            exact .inl ⟨by simp, named⟩
          · obtain ⟨isFalse, absent⟩ := missed _ succeeded
            cases isFalse
            rcases laterWiped with ⟨isWiped, named⟩ | ⟨same, laterMissed⟩
            · cases laterSucceeded.symm.trans isWiped
              exact .inl ⟨rfl, named⟩
            · obtain ⟨rfl, laterAbsent⟩ := laterMissed _ laterSucceeded
              refine .inr ⟨same.trans unchanged, ?_⟩
              rintro _ ⟨⟩
              refine ⟨rfl, ?_⟩
              rw [allNames, allDevices, List.map_append, List.mem_append]
              exact fun found => found.elim absent laterAbsent

end

/-! ## The paths of a selector -/

/-- The path leads to no device with a name. -/
def Unlinked
    (links : String → Option String)
    (devices : List BlockDevice)
    (path : String) : Prop :=
  (links path).getD "" ≠ "" → (links path).getD "" ∉ allNames devices

/-- If the mandatory paths lead to no device, nothing has changed. -/
theorem wipePaths_wp
    (dependable : Dependable node assumes host asked links)
    (devices : List BlockDevice)
    (paths : List DevicePath)
    (areAsked : ∀ path ∈ paths, asked path)
    (current : Current node host asked links world) :
    wp (environment node) (.assuming assumes) (wipePaths devices paths).run
      (fun result after => result = .ok false → Current node host asked links after ∧
        ∀ path ∈ paths, Unlinked links devices path) world := by
  induction paths generalizing world with
  | nil => exact fun _ => ⟨current, by simp⟩
  | cons path rest inductionHypothesis =>
      rw [List.forall_mem_cons] at areAsked
      simp only [wipePaths, wp.run_bind_iff, wp.run_mapError_iff]
      refine (resolve_wp dependable path world current).mono ?_
      rintro resolved after ⟨stillCurrent, answers⟩
      refine ⟨by simp, fun target isTarget => ?_⟩
      rw [Except.mapError_eq_ok_iff] at isTarget
      subst isTarget
      refine (wipeDevice_wp dependable target devices after).mono ?_
      rintro result last ⟨_, wiped⟩
      refine ⟨by simp, fun flag succeeded => ?_⟩
      rw [Except.mapError_eq_ok_iff] at succeeded
      rcases wiped with ⟨isWiped, _⟩ | ⟨rfl, missed⟩
      · cases succeeded.symm.trans isWiped
        refine (wp_frame (wipePaths_uses ..)).mono ?_
        exact fun _ _ _ => ⟨by simp, by simp⟩
      · obtain ⟨rfl, absent⟩ := missed flag succeeded
        refine (inductionHypothesis areAsked.2 stillCurrent).mono ?_
        rintro later final holds
        refine ⟨by simp, ?_⟩
        rintro value rfl isFalse
        obtain ⟨finalCurrent, unlinked⟩ := holds (by simpa using isFalse)
        refine ⟨finalCurrent, List.forall_mem_cons.mpr ⟨fun _ => ?_, unlinked⟩⟩
        rw [← answers areAsked.1]
        exact absent

/-- If the optional paths lead to no device, nothing has changed. -/
theorem wipeOptionalPaths_wp
    (dependable : Dependable node assumes host asked links)
    (devices : List BlockDevice)
    (paths : List DevicePath)
    (areAsked : ∀ path ∈ paths, asked path)
    (current : Current node host asked links world) :
    wp (environment node) (.assuming assumes) (wipeOptionalPaths devices paths)
      (fun flag after => flag = false → Current node host asked links after ∧
        ∀ path ∈ paths, Unlinked links devices path) world := by
  induction paths generalizing world with
  | nil => exact fun _ => ⟨current, by simp⟩
  | cons path rest inductionHypothesis =>
      rw [List.forall_mem_cons] at areAsked
      rw [wipeOptionalPaths_cons, wp.bind_iff]
      refine (resolve_wp dependable path world current).mono ?_
      rintro resolved after ⟨stillCurrent, answers⟩
      rw [wp.bind_iff]
      refine (wipeDevice_wp dependable _ devices after).mono ?_
      rintro result last ⟨fails, wiped⟩
      rw [wp.bind_iff]
      rcases wiped with ⟨rfl, _⟩ | ⟨rfl, missed⟩
      · refine (wp_frame (wipeOptionalPaths_uses ..)).mono ?_
        simp [Except.toOption]
      · refine (inductionHypothesis areAsked.2 stillCurrent).mono ?_
        rintro later final holds
        simp only [wp.pure_iff, Bool.or_eq_false_iff]
        rintro ⟨isFalse, _⟩
        obtain ⟨finalCurrent, unlinked⟩ := holds isFalse
        refine ⟨finalCurrent, List.forall_mem_cons.mpr ⟨?_, unlinked⟩⟩
        rw [Unlinked, ← answers areAsked.1]
        intro named
        cases result with
        | ok value => exact (missed value rfl).2
        | error error => exact absurd (fails error rfl) named

/-- If no device was wiped, nothing has changed, and no path leads to a device. -/
theorem wipeDevices_wp
    {vg : LVMVolumeGroup}
    (dependable : Dependable node assumes host asked links)
    (nodeName : String)
    (devices : List BlockDevice)
    (areAsked : ∀ selector, vg.spec.deviceSelector = some selector →
      ∀ path ∈ selector.allPaths, asked path)
    (current : Current node host asked links world) :
    wp (environment node) (.assuming assumes) (wipeDevices nodeName vg devices).run
      (fun result after => result = .ok none → Current node host asked links after ∧
        (shouldWipeDevicesOnVolumeGroup nodeName vg = true →
          ∀ selector, vg.spec.deviceSelector = some selector →
            ∀ path ∈ selector.allPaths, Unlinked links devices path)) world := by
  dsimp only [wipeDevices]
  split
  · rename_i spared
    exact fun _ => ⟨current, by simp_all⟩
  · cases isSelector : vg.spec.deviceSelector with
    | none => simp_all [shouldWipeDevicesOnVolumeGroup]
    | some selector =>
        have asked := areAsked selector isSelector
        rw [DeviceSelector.allPaths, List.forall_mem_append] at asked
        rw [wp.run_bind_iff, Option.getD_some]
        refine (wipePaths_wp dependable devices _ asked.1 current).mono ?_
        rintro mandatory after unwiped
        refine ⟨by simp, fun wiped succeeded => ?_⟩
        subst succeeded
        simp only [wp.run_bind_iff, wp.run_lift_iff]
        cases wiped with
        | true =>
            refine (wp_frame (wipeOptionalPaths_uses ..)).mono ?_
            rintro _ last _
            refine ⟨by simp, fun _ _ => ?_⟩
            simp only [Bool.true_or, if_true, wp.run_bind_iff, wp.run_lift_iff]
            exact wp_call_iff.mpr fun _ _ => ⟨by simp, by simp⟩
        | false =>
            obtain ⟨stillCurrent, unlinked⟩ := unwiped rfl
            refine (wipeOptionalPaths_wp dependable devices _ asked.2
              stillCurrent).mono ?_
            rintro optional last holds
            refine ⟨by simp, ?_⟩
            rintro _ ⟨⟩
            simp only [Bool.false_or]
            split
            · simp only [wp.run_bind_iff, wp.run_lift_iff]
              exact wp_call_iff.mpr fun _ _ => ⟨by simp, by simp⟩
            · rename_i spared
              intro _
              obtain ⟨finalCurrent, unlinkedOptional⟩ := holds (by simpa using spared)
              refine ⟨finalCurrent, ?_⟩
              rintro _ _ ⟨⟩
              exact List.forall_mem_append.mpr ⟨unlinked, unlinkedOptional⟩

end
end Lvms
