import Lvms.VgManager.Filtering
import Lvms.Interaction.Keyed

/-!
# What filtering makes of repeated devices

A device can occur several times in the report of `lsblk`, once below each of the
devices it is made of. `filterDevices` judges every occurrence and merges the
verdicts by the name that the kernel gives the device. A run is described by the
list of these verdicts, in the order in which they are entered: the children of a
device come before the device.
-/

namespace Lvms

open Interaction

/-! ## Maps with unique keys -/

namespace GoMap

variable {α : Type} {entries : GoMap α} {key other : String} {value : α}

theorem has_iff_mem_keys : entries.has key = true ↔ key ∈ entries.keys := by
  refine ⟨mem_keys_of_has, fun member => ?_⟩
  induction entries with
  | nil => simp [keys] at member
  | cons entry rest inductionHypothesis =>
      obtain ⟨first, old⟩ := entry
      simp only [keys, List.map_cons, List.mem_cons] at member
      by_cases same : key = first
      · simp [has, get?, same]
      · have later : GoMap.has rest key = true :=
          inductionHypothesis (member.resolve_left same)
        have unequal : (key == first) = false := beq_eq_false_iff_ne.mpr same
        simpa [has, get?, List.lookup_cons, unequal] using later

/-- Setting keeps the order of the keys. -/
theorem keys_set :
    (entries.set key value).keys =
      if key ∈ entries.keys then entries.keys else entries.keys ++ [key] := by
  induction entries with
  | nil => simp [set, keys]
  | cons entry rest inductionHypothesis =>
      obtain ⟨first, old⟩ := entry
      rw [set]
      by_cases same : first = key
      · simp [keys, same]
      · simp only [keys] at inductionHypothesis
        simp only [keys, beq_iff_eq, same, ↓reduceIte, List.map_cons, List.mem_cons,
          inductionHypothesis, Ne.symm same, false_or]
        by_cases there : key ∈ rest.map Prod.fst <;> simp [there]

theorem mem_keys_set :
    other ∈ (entries.set key value).keys ↔ other = key ∨ other ∈ entries.keys := by
  rw [keys_set]
  split
  · rename_i member
    exact ⟨.inr, fun holds => holds.elim (fun same => same ▸ member) id⟩
  · rw [List.mem_append, List.mem_singleton, or_comm]

theorem nodup_keys_set
    (unique : entries.keys.Nodup) :
    (entries.set key value).keys.Nodup := by
  rw [keys_set]
  split
  · exact unique
  · rename_i fresh
    simpa [List.nodup_append] using
      ⟨unique, fun first member => fun same => fresh (same ▸ member)⟩

/-- A value that is there is not replaced. -/
theorem get?_insertNew :
    (insertNew entries key value).get? other =
      (entries.get? other).or (if key = other then some value else none) := by
  rw [insertNew]
  by_cases same : key = other
  · subst same
    cases found : entries.get? key with
    | some old => simp [has, found]
    | none => simp [has, found, get?_set_self]
  · rw [if_neg same, Option.or_none]
    split
    · rfl
    · exact get?_set_other value entries (Ne.symm same)

end GoMap

/-! ## Maps by the name of a device -/

section Keyed

variable {α : Type}

/-- A map in which every value stands once, under the name that it has. -/
structure GoMap.Keyed (name : α → String) (entries : GoMap α) : Prop where
  unique : entries.keys.Nodup
  named : ∀ entry ∈ entries, name entry.2 = entry.1

variable {name : α → String} {entries : GoMap α}

theorem GoMap.Keyed.empty : GoMap.Keyed name [] :=
  ⟨List.nodup_nil, by simp⟩

theorem GoMap.Keyed.named_of_get?
    (keyed : entries.Keyed name)
    {key : String}
    {value : α}
    (found : entries.get? key = some value) :
    name value = key :=
  keyed.named _ (mem_of_get? found)

/-- Values entered under their names keep the map keyed. -/
theorem GoMap.Keyed.set
    (keyed : entries.Keyed name)
    (value : α) :
    (entries.set (name value) value).Keyed name where
  unique := nodup_keys_set keyed.unique
  named := by
    intro entry member
    rcases mem_set_cases member with rfl | old
    · rfl
    · exact keyed.named entry old

theorem GoMap.Keyed.insertNew
    (keyed : entries.Keyed name)
    (value : α) :
    (Lvms.insertNew entries (name value) value).Keyed name := by
  rw [Lvms.insertNew]
  split
  · exact keyed
  · exact keyed.set value

/-- Entering a list of values keeps what is there and adds the first value of each
new name. -/
theorem GoMap.get?_foldl_insertNew
    (values : List α)
    (entries : GoMap α)
    (key : String) :
    (values.foldl (fun entries value => Lvms.insertNew entries (name value) value)
      entries).get? key =
      (entries.get? key).or (values.find? fun value => name value == key) := by
  induction values generalizing entries with
  | nil => simp
  | cons value rest inductionHypothesis =>
      rw [List.foldl_cons, inductionHypothesis, get?_insertNew, Option.or_assoc,
        List.find?_cons]
      by_cases same : name value = key
      · simp [same]
      · simp [same, beq_eq_false_iff_ne.mpr same]

theorem GoMap.Keyed.foldl_insertNew
    (values : List α)
    (keyed : entries.Keyed name) :
    (values.foldl (fun entries value => Lvms.insertNew entries (name value) value)
      entries).Keyed name := by
  induction values generalizing entries with
  | nil => exact keyed
  | cons value rest inductionHypothesis => exact inductionHypothesis (keyed.insertNew value)

end Keyed

/-! ## Verdicts -/

mutual

/-- A device after all devices on top of it, as its verdict is entered after
theirs. -/
def BlockDevice.childrenFirst : BlockDevice → List BlockDevice
  | .mk name kname type state fsType readOnly partLabel children =>
      allChildrenFirst children ++
        [.mk name kname type state fsType readOnly partLabel children]

/-- The devices of several trees, each after the devices on top of it. -/
def allChildrenFirst : List BlockDevice → List BlockDevice
  | [] => []
  | device :: rest => device.childrenFirst ++ allChildrenFirst rest

end

mutual

/-- The order of the visits is another order of the subtree. -/
theorem childrenFirst_perm :
    (device : BlockDevice) → device.childrenFirst.Perm device.subtree
  | .mk _ _ _ _ _ _ _ children => by
      rw [BlockDevice.childrenFirst, BlockDevice.subtree]
      exact (List.perm_append_singleton _ _).trans ((allChildrenFirst_perm children).cons _)

/-- Both orders have the same devices, each as often. -/
theorem allChildrenFirst_perm :
    (devices : List BlockDevice) → (allChildrenFirst devices).Perm (allDevices devices)
  | [] => .nil
  | device :: rest => by
      rw [allChildrenFirst, allDevices]
      exact (childrenFirst_perm device).append (allChildrenFirst_perm rest)

end

theorem mem_allChildrenFirst_iff
    {inner : BlockDevice}
    (devices : List BlockDevice) :
    inner ∈ allChildrenFirst devices ↔ inner ∈ allDevices devices :=
  (allChildrenFirst_perm devices).mem_iff

/-- The kernel name of a judged device. -/
abbrev FilteredBlockDevice.kname (filtered : FilteredBlockDevice) : String :=
  filtered.device.kname

/-- Devices are judged one after another: each by all filters, in some order. -/
inductive Review (node : String) (filters : GoMap (BlockDevice → Go Unit)) :
    World → List (Event sig World) → List FilteredBlockDevice → World → Prop
  | nil (world : World) : Review node filters world [] [] world
  | cons
      {world middle after : World}
      {events later : List (Event sig World)}
      {device : BlockDevice}
      {errors : List GoError}
      {verdicts : List FilteredBlockDevice}
      {order : List String}
      (permuted : order.Perm filters.keys)
      (judged : Exec (environment node) (filterErrors filters device order) world events
        errors middle)
      (rest : Review node filters middle later verdicts after) :
      Review node filters world (events ++ later) (⟨device, errors⟩ :: verdicts) after

/-- Two reviews in sequence are a review. -/
theorem Review.append
    {node : String}
    {filters : GoMap (BlockDevice → Go Unit)}
    {world middle after : World}
    {events later : List (Event sig World)}
    {first second : List FilteredBlockDevice}
    (reviewed : Review node filters world events first middle)
    (reviewedToo : Review node filters middle later second after) :
    Review node filters world (events ++ later) (first ++ second) after := by
  induction reviewed with
  | nil => exact reviewedToo
  | cons permuted judged _ inductionHypothesis =>
      rw [List.append_assoc]
      exact .cons permuted judged (inductionHypothesis reviewedToo)

/-- The first verdict with errors about a name. -/
def firstFailure (kname : String) (verdicts : List FilteredBlockDevice) :
    Option FilteredBlockDevice :=
  verdicts.find? fun verdict =>
    verdict.kname == kname && !verdict.filterErrors.isEmpty

/-- Some occurrence of a name has passed. -/
def SomePasses (kname : String) (verdicts : List FilteredBlockDevice) : Prop :=
  ∃ verdict ∈ verdicts, verdict.kname = kname ∧ verdict.filterErrors = []

/-- How verdicts change the maps: a name is available once an occurrence has passed,
and the first verdict with errors about a name is the one that is kept. -/
structure FilterState.Enters
    (before : FilterState)
    (verdicts : List FilteredBlockDevice)
    (after : FilterState) : Prop where
  available : ∀ kname, after.available.has kname = true ↔
    before.available.has kname = true ∨ SomePasses kname verdicts
  excluded : ∀ kname, after.excluded.get? kname =
    (before.excluded.get? kname).or (firstFailure kname verdicts)

/-- Both maps have their values under their names. -/
structure FilterState.Keyed (state : FilterState) : Prop where
  available : state.available.Keyed BlockDevice.kname
  excluded : state.excluded.Keyed FilteredBlockDevice.kname

section Entering

variable {node : String} {filters : GoMap (BlockDevice → Go Unit)}
variable {world middle after : World} {events : List (Event sig World)}
variable {state next result : FilterState}
variable {first second verdicts : List FilteredBlockDevice}

/-- A name passes when it passes in one of the parts. -/
theorem somePasses_append {kname : String} :
    SomePasses kname (first ++ second) ↔
      SomePasses kname first ∨ SomePasses kname second := by
  simp only [SomePasses, List.mem_append, or_and_right, exists_or]

theorem somePasses_singleton {kname : String} {verdict : FilteredBlockDevice} :
    SomePasses kname [verdict] ↔ verdict.kname = kname ∧ verdict.filterErrors = [] := by
  simp [SomePasses]

/-- The first failure of the first part counts. -/
theorem firstFailure_append {kname : String} :
    firstFailure kname (first ++ second) =
      (firstFailure kname first).or (firstFailure kname second) :=
  List.find?_append

theorem FilterState.Enters.nil : state.Enters [] state where
  available := by simp [SomePasses]
  excluded := by simp [firstFailure]

/-- Verdicts can be entered part by part. -/
theorem FilterState.Enters.append
    (enters : state.Enters first next)
    (entersToo : next.Enters second result) :
    state.Enters (first ++ second) result where
  available := by
    intro kname
    rw [entersToo.available, enters.available, somePasses_append, or_assoc]
  excluded := by
    intro kname
    rw [entersToo.excluded, enters.excluded, firstFailure_append, Option.or_assoc]

/-- Available is what some verdict lets pass. -/
theorem FilterState.Enters.available_of_empty
    (enters : FilterState.Enters {} verdicts result)
    (kname : String) :
    result.available.has kname = true ↔ SomePasses kname verdicts := by
  rw [enters.available]
  simp [GoMap.has, GoMap.get?]

/-- Excluded is the first failure. -/
theorem FilterState.Enters.excluded_of_empty
    (enters : FilterState.Enters {} verdicts result)
    (kname : String) :
    result.excluded.get? kname = firstFailure kname verdicts := by
  rw [enters.excluded]
  simp [GoMap.get?]

theorem FilterState.Keyed.empty : FilterState.Keyed {} :=
  ⟨.empty, .empty⟩

/-- The verdict about one device is entered. -/
theorem classify_enters
    {device : BlockDevice}
    (keyed : state.Keyed)
    (ran : Exec (environment node) (classify filters device state) world events result
      after) :
    result.Keyed ∧ ∃ order judging errors,
      order.Perm filters.keys ∧ judging.Sublist events ∧
      Exec (environment node) (filterErrors filters device order) world judging errors
        after ∧
      state.Enters [⟨device, errors⟩] result := by
  obtain ⟨_, order, _, _, ordered, judges, rfl⟩ := Exec.bind_iff.mp ran
  obtain ⟨permuted, rfl⟩ := mapOrder_perm ordered
  obtain ⟨judging, errors, _, _, judged, returned, rfl⟩ := Exec.bind_iff.mp judges
  split at returned
  · rename_i empty
    obtain ⟨rfl, rfl, rfl⟩ := Exec.pure_iff.mp returned
    refine ⟨⟨keyed.available.set device, keyed.excluded⟩, order, judging, errors, permuted,
      by simp, judged, ⟨fun kname => ?_, fun kname => ?_⟩⟩
    · rw [GoMap.has_iff_mem_keys, GoMap.mem_keys_set, ← GoMap.has_iff_mem_keys,
        somePasses_singleton, List.isEmpty_iff.mp empty, or_comm, eq_comm (a := kname)]
      simp [FilteredBlockDevice.kname]
    · simp [firstFailure, empty]
  · rename_i failed
    obtain ⟨rfl, rfl, rfl⟩ := Exec.pure_iff.mp returned
    refine ⟨⟨keyed.available, keyed.excluded.insertNew ⟨device, errors⟩⟩, order, judging,
      errors, permuted, by simp, judged, ⟨fun kname => ?_, fun kname => ?_⟩⟩
    · rw [somePasses_singleton]
      simp [List.isEmpty_iff.not.mp failed]
    · rw [GoMap.get?_insertNew]
      by_cases same : device.kname = kname
      · simp [firstFailure, same, failed]
      · simp [firstFailure, same, beq_eq_false_iff_ne.mpr same]

/-- The values of a map by name are its entries, in some order. -/
theorem mapValues_keyed
    {α : Type}
    {name : α → String}
    {entries : GoMap α}
    {values : List α}
    (keyed : entries.Keyed name)
    (ran : Exec (environment node) (mapValues entries) world events values after) :
    after = world ∧ (values.map name).Perm entries.keys ∧
      ∀ key, (values.find? fun value => name value == key) = entries.get? key := by
  obtain ⟨_, order, _, _, ordered, returned, rfl⟩ := Exec.bind_iff.mp ran
  obtain ⟨permuted, rfl⟩ := mapOrder_perm ordered
  obtain ⟨-, rfl, rfl⟩ := Exec.pure_iff.mp returned
  have listed : ∀ keys : List String, (∀ key ∈ keys, entries.has key = true) →
      (keys.filterMap entries.get?).map name = keys ∧
      ∀ key, ((keys.filterMap entries.get?).find? fun value => name value == key) =
        if key ∈ keys then entries.get? key else none := by
    intro keys
    induction keys with
    | nil => simp
    | cons first rest inductionHypothesis =>
        intro present
        rw [List.forall_mem_cons] at present
        obtain ⟨value, found⟩ := Option.isSome_iff_exists.mp present.1
        obtain ⟨names, finds⟩ := inductionHypothesis present.2
        have named := keyed.named_of_get? found
        rw [List.filterMap_cons_some found]
        refine ⟨by rw [List.map_cons, names, named], fun key => ?_⟩
        by_cases same : first = key
        · subst same
          simp [named, found]
        · simp [named, beq_eq_false_iff_ne.mpr same, finds, Ne.symm same]
  obtain ⟨names, finds⟩ := listed order fun key member =>
    GoMap.has_iff_mem_keys.mpr (permuted.mem_iff.mp member)
  refine ⟨rfl, names.symm ▸ permuted, fun key => ?_⟩
  rw [finds]
  split
  · rfl
  · rename_i absent
    have missing := mt GoMap.has_iff_mem_keys.mp (mt permuted.mem_iff.mpr absent)
    rw [GoMap.has, Option.not_isSome_iff_eq_none] at missing
    exact missing.symm

/-- What a result says about the maps it is made from. -/
structure FilterState.Lists (state : FilterState) (result : FilteredBlockDevices) :
    Prop where
  available : (result.available.map BlockDevice.kname).Perm state.available.keys
  excluded : (result.excluded.map FilteredBlockDevice.kname).Perm state.excluded.keys
  found : ∀ kname, (result.excluded.find? fun filtered => filtered.kname == kname) =
    state.excluded.get? kname

/-- The result lists what the state has. -/
theorem FilterState.finish_lists
    {listed : FilteredBlockDevices}
    (keyed : state.Keyed)
    (ran : Exec (environment node) state.finish world events listed after) :
    after = world ∧ state.Lists listed := by
  obtain ⟨_, excluded, _, _, excludes, offers, rfl⟩ := Exec.bind_iff.mp ran
  obtain ⟨_, available, _, _, offered, returned, rfl⟩ := Exec.bind_iff.mp offers
  obtain ⟨-, rfl, rfl⟩ := Exec.pure_iff.mp returned
  obtain ⟨rfl, excludedKeys, found⟩ := mapValues_keyed keyed.excluded excludes
  obtain ⟨rfl, availableKeys, -⟩ := mapValues_keyed keyed.available offered
  exact ⟨rfl, availableKeys, excludedKeys, found⟩

theorem FilterState.Keyed.merge
    (keyed : state.Keyed)
    (listed : FilteredBlockDevices) :
    (state.merge listed).Keyed :=
  ⟨keyed.available.foldl_insertNew _, keyed.excluded.foldl_insertNew _⟩

/-- Merging the result for the children enters their verdicts. -/
theorem FilterState.merge_enters
    {listed : FilteredBlockDevices}
    (inner : FilterState.Enters {} verdicts next)
    (lists : next.Lists listed) :
    state.Enters verdicts (state.merge listed) where
  available := by
    intro kname
    have passed : (listed.available.find? fun device => device.kname == kname).isSome =
        true ↔ SomePasses kname verdicts := by
      rw [List.find?_isSome, ← inner.available_of_empty, GoMap.has_iff_mem_keys,
        ← lists.available.mem_iff]
      simp
    rw [GoMap.has, merge, GoMap.get?_foldl_insertNew, Option.isSome_or, Bool.or_eq_true,
      passed, GoMap.has]
  excluded := by
    intro kname
    rw [merge, GoMap.get?_foldl_insertNew, lists.found, inner.excluded_of_empty]

mutual

/-- The verdicts about a tree are entered one after another. -/
theorem filterDevice_enters
    {world after : World}
    {events : List (Event sig World)}
    {state result : FilterState}
    (keyed : state.Keyed) :
    (device : BlockDevice) →
    Exec (environment node) (filterDevice filters state device) world events result
      after →
    result.Keyed ∧ ∃ judging verdicts, judging.Sublist events ∧
      Review node filters world judging verdicts after ∧
      verdicts.map FilteredBlockDevice.device = device.childrenFirst ∧
      state.Enters verdicts result
  | .mk name kname type state fsType readOnly partLabel children, ran => by
      rw [filterDevice] at ran
      dsimp only at ran
      split at ran
      · rename_i leaf
        obtain ⟨resultKeyed, order, judging, errors, permuted, inside, judged, enters⟩ :=
          classify_enters keyed ran
        refine ⟨resultKeyed, judging ++ [], _, by simpa using inside,
          .cons permuted judged (.nil _), ?_, enters⟩
        simp [BlockDevice.childrenFirst, List.isEmpty_iff.mp leaf, allChildrenFirst]
      · obtain ⟨early, inner, _, _, loops, finishes, rfl⟩ := Exec.bind_iff.mp ran
        obtain ⟨_, listed, _, late, finished, classified, rfl⟩ := Exec.bind_iff.mp finishes
        obtain ⟨innerKeyed, first, verdicts, insideFirst, reviewed, devices, enters⟩ :=
          filterLoop_enters .empty children loops
        obtain ⟨rfl, lists⟩ := FilterState.finish_lists innerKeyed finished
        obtain ⟨resultKeyed, order, judging, errors, permuted, inside, judged, entersOwn⟩ :=
          classify_enters (keyed.merge listed) classified
        refine ⟨resultKeyed, first ++ (judging ++ []), _, ?_,
          reviewed.append (.cons permuted judged (.nil _)), ?_,
          (FilterState.merge_enters enters lists).append entersOwn⟩
        · rw [List.append_nil]
          exact insideFirst.append (inside.trans (List.sublist_append_right ..))
        · simp [BlockDevice.childrenFirst, devices]

/-- The loop enters a verdict on every device, children first. -/
theorem filterLoop_enters
    {world after : World}
    {events : List (Event sig World)}
    {state result : FilterState}
    (keyed : state.Keyed) :
    (devices : List BlockDevice) →
    Exec (environment node) (filterLoop filters state devices) world events result
      after →
    result.Keyed ∧ ∃ judging verdicts, judging.Sublist events ∧
      Review node filters world judging verdicts after ∧
      verdicts.map FilteredBlockDevice.device = allChildrenFirst devices ∧
      state.Enters verdicts result
  | [], ran => by
      rw [filterLoop] at ran
      obtain ⟨rfl, rfl, rfl⟩ := Exec.pure_iff.mp ran
      exact ⟨keyed, [], [], .refl _, .nil _, rfl, .nil⟩
  | device :: rest, ran => by
      rw [filterLoop] at ran
      obtain ⟨_, next, _, _, filtered, loops, rfl⟩ := Exec.bind_iff.mp ran
      obtain ⟨nextKeyed, first, verdicts, insideFirst, reviewed, isDevice, enters⟩ :=
        filterDevice_enters keyed device filtered
      obtain ⟨resultKeyed, second, others, insideRest, reviewedRest, areRest, entersRest⟩ :=
        filterLoop_enters nextKeyed rest loops
      refine ⟨resultKeyed, first ++ second, verdicts ++ others,
        insideFirst.append insideRest, reviewed.append reviewedRest, ?_,
        enters.append entersRest⟩
      rw [List.map_append, isDevice, areRest, allChildrenFirst]

end

end Entering

/-- What a result says about the verdicts it is made from. -/
structure FilteredBlockDevices.Merges
    (verdicts : List FilteredBlockDevice)
    (result : FilteredBlockDevices) : Prop where
  available : ∀ kname, kname ∈ result.available.map BlockDevice.kname ↔
    SomePasses kname verdicts
  availableOnce : (result.available.map BlockDevice.kname).Nodup
  excluded : ∀ kname, (result.excluded.find? fun filtered => filtered.kname == kname) =
    firstFailure kname verdicts
  excludedOnce : (result.excluded.map FilteredBlockDevice.kname).Nodup

section Results

variable {node : String} {filters : GoMap (BlockDevice → Go Unit)}
variable {world after : World} {events : List (Event sig World)}
variable {devices : List BlockDevice} {result : FilteredBlockDevices}
variable {verdicts : List FilteredBlockDevice}

/-- A run judges every occurrence of a device once and merges the verdicts. -/
theorem filterDevices_review
    (ran : Exec (environment node) (filterDevices filters devices) world events result
      after) :
    ∃ judging verdicts, judging.Sublist events ∧
      Review node filters world judging verdicts after ∧
      verdicts.map FilteredBlockDevice.device = allChildrenFirst devices ∧
      result.Merges verdicts := by
  obtain ⟨early, state, _, _, loops, finishes, rfl⟩ := Exec.bind_iff.mp ran
  obtain ⟨keyed, judging, verdicts, inside, reviewed, judged, enters⟩ :=
    filterLoop_enters .empty devices loops
  obtain ⟨rfl, lists⟩ := FilterState.finish_lists keyed finishes
  refine ⟨judging, verdicts, inside.trans (List.sublist_append_left ..), reviewed, judged,
    ⟨fun kname => ?_, lists.available.nodup_iff.mpr keyed.available.unique,
      fun kname => ?_, lists.excluded.nodup_iff.mpr keyed.excluded.unique⟩⟩
  · rw [lists.available.mem_iff, ← GoMap.has_iff_mem_keys, enters.available_of_empty]
  · rw [lists.found, enters.excluded_of_empty]

/-- A name is excluded when an occurrence fails. -/
theorem FilteredBlockDevices.Merges.mem_excluded_iff
    (merges : result.Merges verdicts)
    (kname : String) :
    kname ∈ result.excluded.map FilteredBlockDevice.kname ↔
      ∃ verdict ∈ verdicts, verdict.kname = kname ∧ verdict.filterErrors ≠ [] := by
  have found : kname ∈ result.excluded.map FilteredBlockDevice.kname ↔
      (result.excluded.find? fun filtered => filtered.kname == kname).isSome = true := by
    simp [List.find?_isSome]
  rw [found, merges.excluded, firstFailure, List.find?_isSome]
  simp [List.isEmpty_eq_false_iff]

/-- The conservative reading of verdicts: a device can be used when all its
occurrences pass, and otherwise every error counts. -/
structure Conservative
    (verdicts : List FilteredBlockDevice)
    (result : FilteredBlockDevices) : Prop where
  available : ∀ kname, kname ∈ result.available.map BlockDevice.kname ↔
    (∃ verdict ∈ verdicts, verdict.kname = kname) ∧
      ∀ verdict ∈ verdicts, verdict.kname = kname → verdict.filterErrors = []
  excluded : ∀ kname, kname ∈ result.excluded.map FilteredBlockDevice.kname ↔
    ∃ verdict ∈ verdicts, verdict.kname = kname ∧ verdict.filterErrors ≠ []
  errors : ∀ filtered ∈ result.excluded, ∀ verdict ∈ verdicts,
    verdict.kname = filtered.kname → verdict.filterErrors ⊆ filtered.filterErrors

/-- The occurrences of a name all pass or all fail, and the first one that fails has
the errors of the others. -/
structure Uniform (verdicts : List FilteredBlockDevice) : Prop where
  agree : ∀ verdict ∈ verdicts, ∀ other ∈ verdicts, verdict.kname = other.kname →
    verdict.filterErrors = [] → other.filterErrors = []
  covered : ∀ verdict ∈ verdicts, ∀ first,
    firstFailure verdict.kname verdicts = some first →
    verdict.filterErrors ⊆ first.filterErrors

/-- The merged result is conservative exactly for uniform verdicts. -/
theorem FilteredBlockDevices.Merges.conservative_iff
    (merges : result.Merges verdicts) :
    Conservative verdicts result ↔ Uniform verdicts := by
  constructor
  · intro conservative
    constructor
    · intro verdict member other isOther same passes
      have offered := (merges.available other.kname).mpr ⟨verdict, member, same, passes⟩
      exact ((conservative.available _).mp offered).2 other isOther rfl
    · intro verdict member first isFirst
      rw [← merges.excluded, find?_key_eq_some_iff merges.excludedOnce] at isFirst
      exact conservative.errors first isFirst.1 verdict member isFirst.2.symm
  · intro uniform
    refine ⟨fun kname => ?_, merges.mem_excluded_iff, ?_⟩
    · rw [merges.available]
      constructor
      · rintro ⟨verdict, member, rfl, passes⟩
        exact ⟨⟨verdict, member, rfl⟩, fun other isOther same =>
          uniform.agree verdict member other isOther same.symm passes⟩
      · rintro ⟨⟨verdict, member, rfl⟩, pass⟩
        exact ⟨verdict, member, rfl, pass verdict member rfl⟩
    · intro filtered member verdict isVerdict same
      have kept := find?_key_of_mem merges.excludedOnce member
      rw [merges.excluded, ← same] at kept
      exact uniform.covered verdict isVerdict filtered kept

/-- In every run the result is conservative exactly if the verdicts of the run about
each device are uniform. -/
theorem filterDevices_conservative_iff
    (ran : Exec (environment node) (filterDevices filters devices) world events result
      after) :
    ∃ judging verdicts, judging.Sublist events ∧
      Review node filters world judging verdicts after ∧
      verdicts.map FilteredBlockDevice.device = allChildrenFirst devices ∧
      (Conservative verdicts result ↔ Uniform verdicts) := by
  obtain ⟨judging, verdicts, inside, reviewed, judged, merges⟩ := filterDevices_review ran
  exact ⟨judging, verdicts, inside, reviewed, judged, merges.conservative_iff⟩

/-- The disks below a multipath device, each with the device on top. -/
def multipathDisks : List BlockDevice :=
  let mapper : BlockDevice := .mk "/dev/mapper/a" "/dev/dm-0" "mpath" "" "" false "" []
  [.mk "/dev/sda" "/dev/sda" "disk" "" "mpath_member" false "" [mapper],
    .mk "/dev/sdb" "/dev/sdb" "disk" "" "mpath_member" false "" [mapper]]

/-- A volume group on a multipath device and another disk. -/
def multipathOptions : FilterOptions where
  vg := { metadata := { name := "vg1" }
          spec := { deviceSelector := some { paths := ["/dev/mapper/a", "/dev/sdc"] } } }
  bdi := []
  pvs := []

/-- A host on which the multipath device has a link and other paths are devices. -/
def multipathWorld : World :=
  { World.empty with host := fun _ => { symlinks := fun
      | "/dev/mapper/a" => some "/dev/dm-0"
      | path => some path } }

/-- A run on the disks of a multipath device whose link cannot be followed at the
first attempt, before any other path is resolved. -/
def multipathRun : List (Event sig World) × FilteredBlockDevices × World :=
  Program.run (environment "node")
    (fun world request => match request with
      | .query (.evalSymlinks "/dev/mapper/a") =>
          if (world.memory "node").resolved.isEmpty then { failure := some "lstat" } else {}
      | _ => {})
    (filterDevices (defaultFilters multipathOptions) multipathDisks) multipathWorld

theorem filterDevices_conservative_iff_multipath :
    ∃ judging verdicts, judging.Sublist multipathRun.1 ∧
      Review "node" (defaultFilters multipathOptions) multipathWorld judging verdicts
        multipathRun.2.2 ∧
      verdicts.map FilteredBlockDevice.device = allChildrenFirst multipathDisks ∧
      (Conservative verdicts multipathRun.2.1 ↔ Uniform verdicts) :=
  filterDevices_conservative_iff (Program.run_exec ..)

/-- A device of which one occurrence fails and one passes is available and excluded at
the same time. -/
theorem available_and_excluded :
    ∃ world events result after,
      Exec (environment "node")
        (filterDevices (defaultFilters multipathOptions) multipathDisks) world events
        result after ∧
      "/dev/dm-0" ∈ result.available.map BlockDevice.kname ∧
      "/dev/dm-0" ∈ result.excluded.map FilteredBlockDevice.kname ∧
      ∀ verdicts, ¬ Conservative verdicts result := by
  have offered : "/dev/dm-0" ∈ multipathRun.2.1.available.map BlockDevice.kname := by
    decide +kernel
  have excluded : "/dev/dm-0" ∈ multipathRun.2.1.excluded.map FilteredBlockDevice.kname := by
    decide +kernel
  refine ⟨_, multipathRun.1, multipathRun.2.1, multipathRun.2.2, Program.run_exec .., offered,
    excluded, fun verdicts conservative => ?_⟩
  obtain ⟨verdict, member, same, fails⟩ := (conservative.excluded _).mp excluded
  exact fails (((conservative.available _).mp offered).2 verdict member same)

/-! ## Complete and unique results -/

/-- Every device is available or excluded, no name stands twice in one of the lists,
and nothing else is listed. -/
structure Complete (devices : List BlockDevice) (result : FilteredBlockDevices) :
    Prop where
  every : ∀ device ∈ allDevices devices,
    device.kname ∈ result.available.map BlockDevice.kname ∨
      device.kname ∈ result.excluded.map FilteredBlockDevice.kname
  availableOnce : (result.available.map BlockDevice.kname).Nodup
  excludedOnce : (result.excluded.map FilteredBlockDevice.kname).Nodup
  availableInside : ∀ kname ∈ result.available.map BlockDevice.kname,
    kname ∈ (allDevices devices).map BlockDevice.kname
  excludedInside : ∀ kname ∈ result.excluded.map FilteredBlockDevice.kname,
    kname ∈ (allDevices devices).map BlockDevice.kname

/-- A merge of verdicts on all devices is complete. -/
theorem FilteredBlockDevices.Merges.complete
    (merges : result.Merges verdicts)
    (judged : verdicts.map FilteredBlockDevice.device = allChildrenFirst devices) :
    Complete devices result := by
  have isDevice : ∀ verdict ∈ verdicts, verdict.device ∈ allDevices devices := by
    intro verdict member
    rw [← mem_allChildrenFirst_iff, ← judged]
    exact List.mem_map_of_mem member
  refine ⟨?_, merges.availableOnce, merges.excludedOnce, ?_, ?_⟩
  · intro device member
    rw [← mem_allChildrenFirst_iff, ← judged] at member
    obtain ⟨verdict, isVerdict, rfl⟩ := List.mem_map.mp member
    rw [merges.available, merges.mem_excluded_iff]
    by_cases passes : verdict.filterErrors = []
    · exact .inl ⟨verdict, isVerdict, rfl, passes⟩
    · exact .inr ⟨verdict, isVerdict, rfl, passes⟩
  · intro kname member
    obtain ⟨verdict, isVerdict, rfl, -⟩ := (merges.available kname).mp member
    exact List.mem_map_of_mem (isDevice verdict isVerdict)
  · intro kname member
    obtain ⟨verdict, isVerdict, rfl, -⟩ := (merges.mem_excluded_iff kname).mp member
    exact List.mem_map_of_mem (isDevice verdict isVerdict)

end Results

/-- The same trees with siblings in another order, at any level. -/
inductive Reordered : List BlockDevice → List BlockDevice → Prop
  | nil : Reordered [] []
  | cons
      {name kname type state fsType : String}
      {readOnly : Bool}
      {partLabel : String}
      {children children' rest rest' : List BlockDevice}
      (inside : Reordered children children')
      (others : Reordered rest rest') :
      Reordered (.mk name kname type state fsType readOnly partLabel children :: rest)
        (.mk name kname type state fsType readOnly partLabel children' :: rest')
  | swap (first second : BlockDevice) (rest : List BlockDevice) :
      Reordered (first :: second :: rest) (second :: first :: rest)
  | trans
      {first second third : List BlockDevice}
      (before : Reordered first second)
      (after : Reordered second third) :
      Reordered first third

/-- What is said of a device whatever the order of the devices on top of it. -/
def OrderFree (holds : BlockDevice → Prop) : Prop :=
  ∀ device device', Reordered [device] [device'] → (holds device ↔ holds device')

/-- Trees in another order have the same devices, as far as the order does not
matter. -/
theorem Reordered.exists_iff
    {holds : BlockDevice → Prop}
    {devices devices' : List BlockDevice}
    (free : OrderFree holds)
    (reordered : Reordered devices devices') :
    (∃ device ∈ allDevices devices, holds device) ↔
      ∃ device ∈ allDevices devices', holds device := by
  induction reordered with
  | nil => exact .rfl
  | cons inside others insideHypothesis othersHypothesis =>
      simp only [allDevices, BlockDevice.subtree, List.mem_append, List.mem_cons, or_and_right,
        exists_or, exists_eq_left, insideHypothesis, othersHypothesis,
        free _ _ (.cons inside .nil)]
  | swap first second rest =>
      simp only [allDevices, List.mem_append, or_and_right, exists_or]
      exact or_left_comm
  | trans _ _ beforeHypothesis afterHypothesis =>
      exact beforeHypothesis.trans afterHypothesis

/-- A column of `lsblk` does not depend on the devices on top. -/
theorem Reordered.column_eq
    {α : Type}
    {column : BlockDevice → α}
    {device device' : BlockDevice}
    (alone : ∀ name kname type state fsType readOnly partLabel children children',
      column (.mk name kname type state fsType readOnly partLabel children) =
        column (.mk name kname type state fsType readOnly partLabel children'))
    (reordered : Reordered [device] [device']) :
    column device = column device' := by
  have perm : ∀ devices devices', Reordered devices devices' →
      (devices.map column).Perm (devices'.map column) := by
    intro devices devices' reordered
    induction reordered with
    | nil => exact .nil
    | @cons name kname type state fsType readOnly partLabel children children' rest rest'
        inside others insideHypothesis othersHypothesis =>
        simp only [List.map_cons]
        rw [alone name kname type state fsType readOnly partLabel children children']
        exact othersHypothesis.cons _
    | swap first second rest => exact .swap ..
    | trans _ _ beforeHypothesis afterHypothesis =>
        exact beforeHypothesis.trans afterHypothesis
  exact List.singleton_perm_singleton.mp (perm _ _ reordered)

theorem OrderFree.and_kname
    {holds : BlockDevice → Prop}
    (free : OrderFree holds)
    (kname : String) :
    OrderFree fun device => device.kname = kname ∧ holds device := by
  intro device device' reordered
  have same : device.kname = device'.kname :=
    reordered.column_eq fun _ _ _ _ _ _ _ _ _ => rfl
  simp only [same, free device device' reordered]

theorem OrderFree.not
    {holds : BlockDevice → Prop}
    (free : OrderFree holds) :
    OrderFree fun device => ¬ holds device :=
  fun device device' reordered => not_congr (free device device' reordered)

/-- In the situations that an invariant and an assumption on the calls describe,
whether a device passes the filters is a matter of the device. -/
def Decisive
    (node : String)
    (filters : GoMap (BlockDevice → Go Unit))
    (invariant : World → Prop)
    (assumes : Event sig World → Prop)
    (passes : BlockDevice → Prop) : Prop :=
  ∀ ⦃device order world events errors after⦄, order.Perm filters.keys →
    invariant world → (∀ event ∈ events, assumes event) →
    Exec (environment node) (filterErrors filters device order) world events errors after →
    invariant after ∧ (errors = [] ↔ passes device)

section Orders

variable {node : String} {filters : GoMap (BlockDevice → Go Unit)}
variable {invariant : World → Prop} {assumes : Event sig World → Prop}
variable {passes : BlockDevice → Prop}
variable {world after : World} {events : List (Event sig World)}
variable {devices : List BlockDevice} {result : FilteredBlockDevices}
variable {verdicts : List FilteredBlockDevice}

/-- The verdicts are what the filters always decide. -/
theorem Review.decided
    (decisive : Decisive node filters invariant assumes passes)
    (reviewed : Review node filters world events verdicts after)
    (holds : invariant world)
    (assumed : ∀ event ∈ events, assumes event) :
    ∀ verdict ∈ verdicts, verdict.filterErrors = [] ↔ passes verdict.device := by
  induction reviewed with
  | nil => simp
  | cons permuted judged _ inductionHypothesis =>
      rw [List.forall_mem_append] at assumed
      obtain ⟨kept, decided⟩ := decisive permuted holds assumed.1 judged
      exact List.forall_mem_cons.mpr ⟨decided, inductionHypothesis kept assumed.2⟩

/-- With decisive filters a name is listed as available when an occurrence passes, and
as excluded when one does not. -/
theorem filterDevices_decided
    (decisive : Decisive node filters invariant assumes passes)
    (holds : invariant world)
    (assumed : ∀ event ∈ events, assumes event)
    (ran : Exec (environment node) (filterDevices filters devices) world events result
      after)
    (kname : String) :
    (kname ∈ result.available.map BlockDevice.kname ↔
      ∃ device ∈ allDevices devices, device.kname = kname ∧ passes device) ∧
    (kname ∈ result.excluded.map FilteredBlockDevice.kname ↔
      ∃ device ∈ allDevices devices, device.kname = kname ∧ ¬ passes device) := by
  obtain ⟨judging, verdicts, inside, reviewed, judged, merges⟩ := filterDevices_review ran
  have decided := reviewed.decided decisive holds fun event member =>
    assumed event (inside.subset member)
  have occurs (good : BlockDevice → Prop) :
      (∃ verdict ∈ verdicts, good verdict.device) ↔
        ∃ device ∈ allDevices devices, good device := by
    simp only [← mem_allChildrenFirst_iff, ← judged, List.mem_map, exists_exists_and_eq_and]
  rw [merges.available, merges.mem_excluded_iff, SomePasses,
    ← occurs fun device => device.kname = kname ∧ passes device,
    ← occurs fun device => device.kname = kname ∧ ¬ passes device]
  constructor
  · exact exists_congr fun verdict => and_congr_right fun member =>
      and_congr_right fun _ => decided verdict member
  · exact exists_congr fun verdict => and_congr_right fun member =>
      and_congr_right fun _ => not_congr (decided verdict member)

/-- Filtering loses no device and lists none twice, and which names it lists does not
depend on the order of siblings if the filters do not look at it. -/
theorem filterDevices_complete
    (ran : Exec (environment node) (filterDevices filters devices) world events result
      after) :
    Complete devices result ∧
    ∀ {invariant : World → Prop} {assumes : Event sig World → Prop}
      {passes : BlockDevice → Prop},
      Decisive node filters invariant assumes passes → OrderFree passes →
      invariant world → (∀ event ∈ events, assumes event) →
      ∀ {devices' world' events' result' after'}, Reordered devices devices' →
        Exec (environment node) (filterDevices filters devices') world' events' result'
          after' →
        invariant world' → (∀ event ∈ events', assumes event) →
        ∀ kname,
          (kname ∈ result.available.map BlockDevice.kname ↔
            kname ∈ result'.available.map BlockDevice.kname) ∧
          (kname ∈ result.excluded.map FilteredBlockDevice.kname ↔
            kname ∈ result'.excluded.map FilteredBlockDevice.kname) := by
  constructor
  · obtain ⟨_, verdicts, -, -, judged, merges⟩ := filterDevices_review ran
    exact merges.complete judged
  · intro invariant assumes passes decisive free holds assumed devices' world' events'
      result' after' reordered ran' holds' assumed' kname
    have first := filterDevices_decided decisive holds assumed ran kname
    have second := filterDevices_decided decisive holds' assumed' ran' kname
    constructor
    · rw [first.1, second.1, reordered.exists_iff (free.and_kname kname)]
    · rw [first.2, second.2, reordered.exists_iff (free.not.and_kname kname)]

/-- The single filter that asks for a writable device. -/
def writableOnly : GoMap (BlockDevice → Go Unit) :=
  [("notReadOnly", notReadOnly)]

/-- This filter decides by the read-only flag alone. -/
theorem writableOnly_decisive :
    Decisive node writableOnly (fun _ => True) (fun _ => True)
      fun device => device.readOnly = false := by
  intro device order world events errors after permuted _ _ ran
  obtain rfl : order = ["notReadOnly"] := List.perm_singleton.mp permuted
  refine ⟨trivial, ?_⟩
  rw [filterErrors, show writableOnly.get? "notReadOnly" = some notReadOnly from rfl] at ran
  dsimp only [notReadOnly] at ran
  split at ran
  · rename_i isReadOnly
    obtain ⟨_, result, _, _, thrown, ran, -⟩ := Exec.bind_iff.mp ran
    obtain ⟨-, rfl, -⟩ := Exec.run_throw_iff.mp thrown
    obtain ⟨_, none, _, _, -, returned, -⟩ := Exec.bind_iff.mp ran
    obtain ⟨-, rfl, -⟩ := Exec.pure_iff.mp returned
    simp [isReadOnly]
  · rename_i writable
    obtain ⟨_, result, _, _, passed, ran, -⟩ := Exec.bind_iff.mp ran
    obtain ⟨-, rfl, -⟩ := Exec.run_pure_iff.mp passed
    obtain ⟨-, rfl, -⟩ := Exec.pure_iff.mp ran
    simp [Bool.not_eq_true _ ▸ writable]

/-- Filtering by writability alone, on a fresh host. -/
def writableRun (devices : List BlockDevice) :
    List (Event sig World) × FilteredBlockDevices × World :=
  Program.run (environment "node") (fun _ _ => {}) (filterDevices writableOnly devices)
    World.empty

theorem filterDevices_complete_swapped :
    Complete multipathDisks (writableRun multipathDisks).2.1 ∧
    ("/dev/dm-0" ∈ (writableRun multipathDisks).2.1.available.map BlockDevice.kname ↔
      "/dev/dm-0" ∈
        (writableRun multipathDisks.reverse).2.1.available.map BlockDevice.kname) := by
  have orderFree : OrderFree fun device => device.readOnly = false := by
    intro device device' reordered
    have same : device.readOnly = device'.readOnly :=
      reordered.column_eq fun _ _ _ _ _ _ _ _ _ => rfl
    simp only [same]
  have ran (devices : List BlockDevice) :
      Exec (environment "node") (filterDevices writableOnly devices) World.empty
        (writableRun devices).1 (writableRun devices).2.1 (writableRun devices).2.2 :=
    Program.run_exec ..
  obtain ⟨complete, same⟩ := filterDevices_complete (ran multipathDisks)
  refine ⟨complete, (same writableOnly_decisive orderFree trivial (by simp)
    (.swap _ _ _) (ran multipathDisks.reverse) trivial (by simp) _).1⟩

end Orders

end Lvms
