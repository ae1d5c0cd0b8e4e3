import Lvms.VgManager.Footprint

/-!
# Which devices pass the filters

A volume group may use a block device that passes every filter. The filters ask
where paths lead, so what they accept is stated relative to the answers the
symlink resolver can give. `filterDevices` visits the devices in the order of a
tree and the filters in the order of a map; whatever these orders are, every
device it makes available is acceptable.
-/

namespace Lvms

open Interaction

/-! ## The devices of a tree -/

mutual

/-- A block device and all devices on top of it. -/
def BlockDevice.subtree : BlockDevice → List BlockDevice
  | .mk name kname type state fsType readOnly partLabel children =>
      .mk name kname type state fsType readOnly partLabel children ::
        allDevices children

/-- The devices of several trees. -/
def allDevices : List BlockDevice → List BlockDevice
  | [] => []
  | device :: rest => device.subtree ++ allDevices rest

end

/-! ## Values of a map -/

namespace GoMap

variable {α : Type} {entries : GoMap α} {key : String} {value : α}
variable {entry : String × α}

theorem mem_set_cases
    (member : entry ∈ entries.set key value) :
    entry = (key, value) ∨ entry ∈ entries := by
  induction entries with
  | nil => simpa [set] using member
  | cons first rest inductionHypothesis =>
      obtain ⟨other, old⟩ := first
      rw [set] at member
      split at member
      · exact (List.mem_cons.mp member).imp_right (.tail _)
      · rcases List.mem_cons.mp member with rfl | later
        · exact .inr (.head _)
        · exact (inductionHypothesis later).imp_right (.tail _)

theorem mem_set
    (member : entry ∈ entries.set key value) :
    entry.2 = value ∨ entry ∈ entries :=
  (mem_set_cases member).imp_left fun same => by rw [same]

theorem mem_keys_of_has (there : entries.has key = true) : key ∈ entries.keys := by
  obtain ⟨value, found⟩ := Option.isSome_iff_exists.mp there
  exact List.mem_map_of_mem (mem_of_get? found)

theorem mem_insertNew
    (member : entry ∈ insertNew entries key value) :
    entry.2 = value ∨ entry ∈ entries := by
  rw [insertNew] at member
  split at member
  · exact .inr member
  · exact mem_set member

end GoMap

/-! ## Loops over the filters and the devices -/

section Loops

variable {node : String} {assumes : Event sig World → Prop}
variable {invariant : World → Prop} {good : BlockDevice → Prop}
variable {filters : GoMap (BlockDevice → Go Unit)}
variable {world : World} {state : FilterState}

/-- A range over a map visits its keys in some order. -/
theorem wp_mapOrder
    {keys : List String}
    {post : List String → World → Prop}
    (holds : ∀ order, order.Perm keys → post order world) :
    wp (environment node) (.assuming assumes) (mapOrder keys) post world := by
  rw [mapOrder, wp_call_iff]
  intro choice _
  simp only [World.respond]
  split
  · rename_i permuted
    exact holds _ (List.isPerm_iff.mp permuted)
  · exact holds _ (.refl _)

/-- A range over a map visits its keys in some order and changes nothing. -/
theorem mapOrder_perm
    {after : World}
    {events : List (Event sig World)}
    {keys order : List String}
    (ran : Exec (environment node) (mapOrder keys) world events order after) :
    order.Perm keys ∧ after = world := by
  obtain ⟨choice, -, rfl, rfl⟩ := exec_call_iff.mp ran
  refine ⟨?_, rfl⟩
  simp only [World.respond]
  split
  · rename_i permuted
    exact List.isPerm_iff.mp permuted
  · exact .refl _

/-- A filter keeps the invariant and passes only devices with a property. -/
def Checks
    (node : String)
    (assumes : Event sig World → Prop)
    (invariant : World → Prop)
    (check : BlockDevice → Go Unit)
    (passes : BlockDevice → Prop) : Prop :=
  ∀ device world, invariant world →
    wp (environment node) (.assuming assumes) (check device).run
      (fun result after => invariant after ∧ (result = .ok () → passes device)) world

/-- A device without errors passes every filter that was tried. -/
theorem filterErrors_wp
    {passes : String → BlockDevice → Prop}
    (checks : ∀ name check, filters.get? name = some check →
      Checks node assumes invariant check (passes name))
    (device : BlockDevice)
    (names : List String)
    (holds : invariant world) :
    wp (environment node) (.assuming assumes) (filterErrors filters device names)
      (fun errors after => invariant after ∧ (errors = [] →
        ∀ name ∈ names, filters.has name = true → passes name device)) world := by
  induction names generalizing world with
  | nil => exact ⟨holds, by simp⟩
  | cons name rest inductionHypothesis =>
      rw [filterErrors]
      cases found : filters.get? name with
      | none =>
          refine (inductionHypothesis holds).mono ?_
          rintro errors after ⟨kept, passed⟩
          refine ⟨kept, fun none => ?_⟩
          simpa [GoMap.has, found] using passed none
      | some check =>
          rw [wp.bind_iff]
          refine (checks name check found device world holds).mono ?_
          rintro result after ⟨kept, passedFirst⟩
          cases result with
          | ok =>
              refine (inductionHypothesis kept).mono ?_
              rintro errors last ⟨keptAgain, passed⟩
              refine ⟨keptAgain, fun none => ?_⟩
              exact List.forall_mem_cons.mpr ⟨fun _ => passedFirst rfl, passed none⟩
          | error error =>
              rw [wp.bind_iff]
              refine (inductionHypothesis kept).mono ?_
              rintro errors last ⟨keptAgain, _⟩
              exact ⟨keptAgain, by simp⟩

/-- The devices that a state of the loop makes available have a property. -/
def FilterState.AllGood (good : BlockDevice → Prop) (state : FilterState) : Prop :=
  ∀ entry ∈ state.available, good entry.2

theorem FilterState.AllGood.merge
    {result : FilteredBlockDevices}
    (stateGood : state.AllGood good)
    (resultGood : ∀ device ∈ result.available, good device) :
    (state.merge result).AllGood good := by
  have all : ∀ (devices : List BlockDevice) (entries : GoMap BlockDevice),
      (∀ device ∈ devices, good device) → (∀ entry ∈ entries, good entry.2) →
      ∀ entry ∈ devices.foldl
        (fun entries device => insertNew entries device.kname device) entries,
        good entry.2 := by
    intro devices
    induction devices with
    | nil => exact fun entries _ entriesGood => entriesGood
    | cons device rest inductionHypothesis =>
        intro entries devicesGood entriesGood
        rw [List.forall_mem_cons] at devicesGood
        refine inductionHypothesis _ devicesGood.2 fun entry member => ?_
        rcases GoMap.mem_insertNew member with same | old
        · exact same ▸ devicesGood.1
        · exact entriesGood entry old
  exact all _ _ resultGood stateGood

theorem FilterState.finish_wp
    (stateGood : state.AllGood good)
    (holds : invariant world) :
    wp (environment node) (.assuming assumes) state.finish
      (fun result after => invariant after ∧
        ∀ device ∈ result.available, good device) world := by
  simp only [FilterState.finish, mapValues, wp.bind_iff]
  refine wp_mapOrder fun _ _ => ?_
  simp only [wp.pure_iff, wp.bind_iff]
  refine wp_mapOrder fun order _ => ⟨holds, ?_⟩
  intro device member
  obtain ⟨key, _, found⟩ := List.mem_filterMap.mp member
  exact stateGood _ (GoMap.mem_of_get? found)

/-- The filters, in whatever order, pass only good devices. -/
def Judges
    (node : String)
    (assumes : Event sig World → Prop)
    (invariant : World → Prop)
    (filters : GoMap (BlockDevice → Go Unit))
    (good : BlockDevice → Prop)
    (device : BlockDevice) : Prop :=
  ∀ order, order.Perm filters.keys → ∀ world, invariant world →
    wp (environment node) (.assuming assumes) (filterErrors filters device order)
      (fun errors after => invariant after ∧ (errors = [] → good device)) world

/-- A device is available only when it is good. -/
theorem classify_wp
    {device : BlockDevice}
    (judges : Judges node assumes invariant filters good device)
    (stateGood : state.AllGood good)
    (holds : invariant world) :
    wp (environment node) (.assuming assumes) (classify filters device state)
      (fun result after => invariant after ∧ result.AllGood good) world := by
  simp only [classify, wp.bind_iff]
  refine wp_mapOrder fun order permuted => ?_
  rw [wp.bind_iff]
  refine (judges order permuted world holds).mono ?_
  rintro errors after ⟨kept, passed⟩
  split
  · rename_i empty
    refine ⟨kept, fun entry member => ?_⟩
    rcases GoMap.mem_set member with same | old
    · exact same ▸ passed (List.isEmpty_iff.mp empty)
    · exact stateGood entry old
  · exact ⟨kept, stateGood⟩

mutual

theorem filterDevice_wp
    {state : FilterState}
    {world : World}
    (stateGood : state.AllGood good)
    (holds : invariant world) :
    (device : BlockDevice) →
    (∀ inner ∈ device.subtree, Judges node assumes invariant filters good inner) →
    wp (environment node) (.assuming assumes) (filterDevice filters state device)
      (fun result after => invariant after ∧ result.AllGood good) world
  | .mk _ _ _ _ _ _ _ children, judges => by
      rw [BlockDevice.subtree, List.forall_mem_cons] at judges
      rw [filterDevice]
      dsimp only
      split
      · exact classify_wp judges.1 stateGood holds
      · simp only [wp.bind_iff]
        refine (filterLoop_wp (by simp [FilterState.AllGood]) holds children
          judges.2).mono ?_
        rintro inner after ⟨kept, innerGood⟩
        rw [wp.bind_iff]
        refine (FilterState.finish_wp innerGood kept).mono ?_
        rintro result last ⟨keptAgain, resultGood⟩
        exact classify_wp judges.1 (stateGood.merge resultGood) keptAgain

/-- All available devices of a list are good. -/
theorem filterLoop_wp
    {state : FilterState}
    {world : World}
    (stateGood : state.AllGood good)
    (holds : invariant world) :
    (devices : List BlockDevice) →
    (∀ device ∈ allDevices devices,
      Judges node assumes invariant filters good device) →
    wp (environment node) (.assuming assumes) (filterLoop filters state devices)
      (fun result after => invariant after ∧ result.AllGood good) world
  | [], _ => ⟨holds, stateGood⟩
  | device :: rest, judges => by
      rw [allDevices, List.forall_mem_append] at judges
      rw [filterLoop, wp.bind_iff]
      refine (filterDevice_wp stateGood holds device judges.1).mono ?_
      rintro next after ⟨kept, nextGood⟩
      exact filterLoop_wp nextGood kept rest judges.2

end

/-- The available devices are good. -/
theorem filterDevices_wp
    {devices : List BlockDevice}
    (judges : ∀ device ∈ allDevices devices,
      Judges node assumes invariant filters good device)
    (holds : invariant world) :
    wp (environment node) (.assuming assumes) (filterDevices filters devices)
      (fun result after => invariant after ∧
        ∀ device ∈ result.available, good device) world := by
  rw [filterDevices, wp.bind_iff]
  refine (filterLoop_wp (by simp [FilterState.AllGood]) holds devices judges).mono ?_
  rintro state after ⟨kept, stateGood⟩
  exact FilterState.finish_wp stateGood kept

end Loops

/-! ## What the filters accept -/

/-- `view path answer`: the resolver can answer `answer` for `path`, where `none`
is a failure. -/
abbrev PathView := String → Option String → Prop

/-- A path of the selector leads to the device; a failure counts as the empty
name. -/
def Selected
    (view : PathView)
    (vg : LVMVolumeGroup)
    (device : BlockDevice) : Prop :=
  ∀ selector, vg.spec.deviceSelector = some selector →
    ∃ path ∈ selector.allPaths, ∃ answer, view path answer ∧
      answer.getD "" = device.kname

/-- The device has no signature, or one of LVM for which no physical volume is
known, or for one that is in no volume group and has space left. -/
def FreeSignature
    (view : PathView)
    (pvs : List PhysicalVolume)
    (device : BlockDevice) : Prop :=
  device.fsType = "" ∨ device.fsType = "LVM2_member" ∧
    ((∀ pv ∈ pvs, ∃ target, view pv.pvName (some target) ∧ target ≠ device.kname) ∨
      ∃ pv ∈ pvs, view pv.pvName (some device.kname) ∧ pv.vgName = "" ∧
        pv.pvFree ≠ "0G")

/-- The device has a type that can be used. -/
def UsableType (bdi : GoMap Bool) (device : BlockDevice) : Prop :=
  device.type ≠ "rom" ∧ device.type ≠ "lvm" ∧
    (device.type = "loop" → bdi.get? device.kname = some true)

/-- What the filters ask of a device. -/
structure Acceptable
    (view : PathView)
    (options : FilterOptions)
    (device : BlockDevice) : Prop where
  selected : Selected view options.vg device
  writable : device.readOnly = false
  running : device.state ≠ "suspended"
  partition : ∀ label ∈ ["bios", "boot", "reserved"],
    stringsContains (stringsToLower device.partLabel) label = false
  signature : FreeSignature view options.pvs device
  leaf : device.hasChildren = false
  usable : UsableType options.bdi device

section Filters

variable {node : String} {assumes : Event sig World → Prop}
variable {invariant : World → Prop} {view : PathView} {options : FilterOptions}

/-- The resolver keeps the invariant and answers as the view says. -/
def Resolves
    (node : String)
    (assumes : Event sig World → Prop)
    (invariant : World → Prop)
    (view : PathView) : Prop :=
  ∀ path world, invariant world →
    wp (environment node) (.assuming assumes) (resolve path).run
      (fun result after => invariant after ∧ view path result.toOption) world

/-- When it is found, a path leads to the device. -/
theorem resolvesTo_wp
    (resolves : Resolves node assumes invariant view)
    (kname : String)
    (paths : List DevicePath)
    {world : World}
    (holds : invariant world) :
    wp (environment node) (.assuming assumes) (resolvesTo kname paths)
      (fun found after => invariant after ∧ (found = true →
        ∃ path ∈ paths, ∃ answer, view path answer ∧ answer.getD "" = kname))
      world := by
  induction paths generalizing world with
  | nil => exact ⟨holds, by simp⟩
  | cons path rest inductionHypothesis =>
      rw [resolvesTo, wp.bind_iff]
      refine (resolves path world holds).mono ?_
      rintro result after ⟨kept, answered⟩
      have step (resolved : String) (lands : result.toOption.getD "" = resolved) :
          wp (environment node) (.assuming assumes)
            (if resolved = kname then pure true else resolvesTo kname rest)
            (fun found after => invariant after ∧ (found = true →
              ∃ path' ∈ path :: rest, ∃ answer, view path' answer ∧
                answer.getD "" = kname)) after := by
        split
        · rename_i same
          exact ⟨kept, fun _ => ⟨path, .head _, _, answered, lands.trans same⟩⟩
        · refine (inductionHypothesis kept).mono ?_
          rintro found last ⟨keptAgain, passed⟩
          refine ⟨keptAgain, fun isFound => ?_⟩
          obtain ⟨other, member, leads⟩ := passed isFound
          exact ⟨other, .tail _ member, leads⟩
      cases result <;> exact step _ rfl

/-- What passes is selected. -/
theorem partOfDeviceSelector_checks
    (resolves : Resolves node assumes invariant view) :
    Checks node assumes invariant (partOfDeviceSelector options)
      (Selected view options.vg) := by
  intro device world holds
  rw [partOfDeviceSelector]
  cases isSelector : options.vg.spec.deviceSelector with
  | none => exact ⟨holds, by simp [Selected, isSelector]⟩
  | some selector =>
      simp only [wp.run_bind_iff, wp.run_lift_iff]
      refine (resolvesTo_wp resolves _ _ holds).mono ?_
      rintro found after ⟨kept, passed⟩
      refine ⟨by simp, ?_⟩
      rintro _ ⟨⟩
      split
      · rename_i isFound
        refine ⟨kept, fun _ other isOther => ?_⟩
        obtain rfl := Option.some.inj (isSelector.symm.trans isOther)
        exact passed isFound
      · exact ⟨kept, by simp⟩

/-- A search that ends has resolved the physical volumes up to its result. -/
theorem findPV_wp
    (resolves : Resolves node assumes invariant view)
    (kname : String)
    (pvs : List PhysicalVolume)
    {world : World}
    (holds : invariant world) :
    wp (environment node) (.assuming assumes) (findPV kname pvs).run
      (fun result after => invariant after ∧
        (result = .ok none → ∀ pv ∈ pvs, ∃ target,
          view pv.pvName (some target) ∧ target ≠ kname) ∧
        ∀ pv, result = .ok (some pv) → pv ∈ pvs ∧ view pv.pvName (some kname))
      world := by
  induction pvs generalizing world with
  | nil => exact ⟨holds, by simp, by simp⟩
  | cons pv rest inductionHypothesis =>
      simp only [findPV, wp.run_bind_iff, wp.run_mapError_iff]
      refine (resolves pv.pvName world holds).mono ?_
      rintro result after ⟨kept, answered⟩
      cases result with
      | error error => exact ⟨by simp [kept, Except.mapError], by simp [Except.mapError]⟩
      | ok target =>
          refine ⟨by simp [Except.mapError], ?_⟩
          rintro _ ⟨⟩
          split
          · rename_i same
            subst same
            refine ⟨kept, by simp, ?_⟩
            rintro _ ⟨⟩
            exact ⟨.head _, answered⟩
          · rename_i different
            refine (inductionHypothesis kept).mono ?_
            rintro result last ⟨keptAgain, missed, found⟩
            refine ⟨keptAgain, fun none => ?_, fun other isFound => ?_⟩
            · exact List.forall_mem_cons.mpr
                ⟨⟨target, answered, different⟩, missed none⟩
            · exact ⟨.tail _ (found other isFound).1, (found other isFound).2⟩

theorem onlyValidFilesystemSignatures_checks
    (resolves : Resolves node assumes invariant view) :
    Checks node assumes invariant (onlyValidFilesystemSignatures options)
      (FreeSignature view options.pvs) := by
  intro device world holds
  dsimp only [onlyValidFilesystemSignatures]
  split
  · rename_i unsigned
    exact ⟨holds, fun _ => .inl unsigned⟩
  · split
    · rename_i isMember
      rw [wp.run_bind_iff]
      refine (findPV_wp resolves _ _ holds).mono ?_
      rintro result after ⟨kept, missed, found⟩
      refine ⟨fun error failed => ⟨kept, by simp⟩, fun search isResult => ?_⟩
      cases search with
      | none => exact ⟨kept, fun _ => .inr ⟨isMember, .inl (missed isResult)⟩⟩
      | some pv =>
          obtain ⟨member, leads⟩ := found pv isResult
          dsimp only
          split
          · exact ⟨kept, by simp⟩
          · split
            · exact ⟨kept, by simp⟩
            · rename_i isFree
              split
              · split
                · exact ⟨kept, by simp⟩
                · rename_i space
                  exact ⟨kept, fun _ => .inr ⟨isMember, .inr
                    ⟨pv, member, leads, not_not.mp isFree, space⟩⟩⟩
              · exact ⟨kept, by simp⟩
    · exact ⟨holds, by simp⟩

/-- What passes has a usable type. -/
theorem usableDeviceType_checks :
    Checks node assumes invariant (usableDeviceType options)
      (UsableType options.bdi) := by
  intro device world holds
  dsimp only [usableDeviceType]
  split
  · rename_i isLoop
    split
    · exact ⟨holds, by simp⟩
    · rename_i usable
      refine ⟨holds, fun _ => ⟨by simp [isLoop], by simp [isLoop], fun _ => ?_⟩⟩
      cases known : options.bdi.get? device.kname <;> simp_all
  · rename_i notLoop
    split
    · exact ⟨holds, by simp⟩
    · rename_i notRom
      split
      · exact ⟨holds, by simp⟩
      · rename_i notLvm
        exact ⟨holds, fun _ => ⟨notRom, notLvm, fun isLoop => absurd isLoop notLoop⟩⟩

/-- What each of the default filters asks, under its name. -/
def verdicts (view : PathView) (options : FilterOptions) :
    GoMap (BlockDevice → Prop) :=
  [("partOfDeviceSelector", Selected view options.vg),
    ("notReadOnly", fun device => device.readOnly = false),
    ("notSuspended", fun device => device.state ≠ "suspended"),
    ("noInvalidPartitionLabel", fun device =>
      ∀ label ∈ ["bios", "boot", "reserved"],
        stringsContains (stringsToLower device.partLabel) label = false),
    ("onlyValidFilesystemSignatures", FreeSignature view options.pvs),
    ("noChildren", fun device => device.hasChildren = false),
    ("usableDeviceType", UsableType options.bdi)]

/-- A default filter passes what it asks for. -/
theorem defaultFilters_checks
    (resolves : Resolves node assumes invariant view)
    {name : String}
    {check : BlockDevice → Go Unit}
    (found : (name, check) ∈ defaultFilters options) :
    Checks node assumes invariant check fun device =>
      ∀ verdict, (verdicts view options).get? name = some verdict →
        verdict device := by
  simp only [defaultFilters, List.mem_cons, Prod.mk.injEq, List.not_mem_nil,
    or_false] at found
  intro device world holds
  rcases found with ⟨rfl, rfl⟩ | ⟨rfl, rfl⟩ | ⟨rfl, rfl⟩ | ⟨rfl, rfl⟩ | ⟨rfl, rfl⟩ |
    ⟨rfl, rfl⟩ | ⟨rfl, rfl⟩ <;>
    simp only [verdicts, GoMap.get?, List.lookup_cons, String.reduceBEq,
      Option.some.injEq, forall_eq']
  · exact partOfDeviceSelector_checks resolves device world holds
  · dsimp only [notReadOnly]
    split <;> simp_all
  · dsimp only [notSuspended]
    split <;> simp_all
  · dsimp only [noInvalidPartitionLabel]
    split <;> simp_all
  · exact onlyValidFilesystemSignatures_checks resolves device world holds
  · dsimp only [noChildren]
    split <;> simp_all
  · exact usableDeviceType_checks device world holds

/-- A device that passes the default filters is acceptable. -/
theorem defaultFilters_judges
    (resolves : Resolves node assumes invariant view)
    (device : BlockDevice) :
    Judges node assumes invariant (defaultFilters options) (Acceptable view options)
      device := by
  intro order permuted world holds
  refine (filterErrors_wp (fun name check found => defaultFilters_checks resolves
    (GoMap.mem_of_get? found)) device order holds).mono ?_
  rintro errors after ⟨kept, passed⟩
  refine ⟨kept, fun noErrors => ?_⟩
  have asked (name : String) (there : (defaultFilters options).has name = true) :=
    passed noErrors name (permuted.mem_iff.mpr (GoMap.mem_keys_of_has there)) there
  exact {
    selected := asked "partOfDeviceSelector" rfl _ rfl
    writable := asked "notReadOnly" rfl _ rfl
    running := asked "notSuspended" rfl _ rfl
    partition := asked "noInvalidPartitionLabel" rfl _ rfl
    signature := asked "onlyValidFilesystemSignatures" rfl _ rfl
    leaf := asked "noChildren" rfl _ rfl
    usable := asked "usableDeviceType" rfl _ rfl }

/-- Every available device of the host is acceptable. -/
theorem filterDevices_acceptable
    {devices : List BlockDevice}
    {world : World}
    (resolves : Resolves node assumes invariant view)
    (holds : invariant world) :
    wp (environment node) (.assuming assumes)
      (filterDevices (defaultFilters options) devices)
      (fun result after => invariant after ∧
        ∀ device ∈ result.available, device ∈ allDevices devices ∧
          Acceptable view options device) world := by
  refine filterDevices_wp (fun device member order permuted world holds => ?_) holds
  refine (defaultFilters_judges resolves device order permuted world holds).mono ?_
  exact fun _ _ judged => ⟨judged.1, fun noErrors => ⟨member, judged.2 noErrors⟩⟩

end Filters

end Lvms
