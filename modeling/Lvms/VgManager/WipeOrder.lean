import Lvms.VgManager.Merging
import Lvms.VgManager.Wipe
import Lvms.Outcomes

/-!
# The order of a wipe

Before a device is wiped the device-mapper references of the devices on top of it are
removed, those of inner devices first. A name can occur at several places of the forest of
devices: in every list of siblings the search ends at the first occurrence, so a wipe is a
sequence of blocks, one for each occurrence that is reached.
-/

namespace Lvms

open Interaction

variable {calls : List Request} {occurrences : List BlockDevice}

/-! ## Children first -/

mutual

/-- A device comes directly after the devices on top of it. -/
theorem childrenFirst_suffix {inner : BlockDevice} {before later : List BlockDevice} :
    (device : BlockDevice) → device.childrenFirst = before ++ inner :: later →
      allChildrenFirst inner.children <:+ before
  | .mk name kname type state fsType readOnly partLabel children => by
      intro split
      rw [BlockDevice.childrenFirst] at split
      rcases List.append_eq_append_iff.mp split with
        ⟨between, isBefore, isLast⟩ | ⟨between, isFirst, isRest⟩
      · cases between with
        | nil =>
            obtain ⟨rfl, -⟩ := List.cons.inj isLast
            rw [isBefore, List.append_nil]
            exact List.suffix_rfl
        | cons first others => simp at isLast
      · cases between with
        | nil =>
            obtain ⟨rfl, -⟩ := List.cons.inj isRest
            rw [List.append_nil] at isFirst
            rw [← isFirst]
            exact List.suffix_rfl
        | cons first others =>
            obtain ⟨rfl, -⟩ := List.cons.inj isRest
            exact allChildrenFirst_suffix children isFirst

/-- The children come right before their device. -/
theorem allChildrenFirst_suffix {inner : BlockDevice} {before later : List BlockDevice} :
    (devices : List BlockDevice) → allChildrenFirst devices = before ++ inner :: later →
      allChildrenFirst inner.children <:+ before
  | [] => by simp [allChildrenFirst]
  | device :: rest => by
      intro split
      rw [allChildrenFirst] at split
      rcases List.append_eq_append_iff.mp split with
        ⟨between, rfl, isRest⟩ | ⟨between, isFirst, isRest⟩
      · exact (allChildrenFirst_suffix rest isRest).trans (List.suffix_append _ _)
      · cases between with
        | nil =>
            rw [List.append_nil] at isFirst
            rw [← isFirst]
            have none : allChildrenFirst rest = [] ++ inner :: later := isRest.symm
            exact (allChildrenFirst_suffix rest none).trans (List.nil_suffix)
        | cons first others =>
            obtain ⟨rfl, -⟩ := List.cons.inj isRest
            exact childrenFirst_suffix device isFirst

end

/-! ## Blocks -/

/-- The device has a device-mapper reference. -/
def BlockDevice.isReferenced (device : BlockDevice) : Bool :=
  device.type != "part"

/-- The command of a removal; the empty name is refused before. -/
def removal (device : BlockDevice) : List Request :=
  if device.kname = "" then [] else [.command (.dmsetupRemove device.kname)]

/-- Every device comes after the devices with references on top of it. -/
def InnerFirst (removed : List BlockDevice) : Prop :=
  ∀ before device later, removed = before ++ device :: later →
    ((allDevices device.children).filter BlockDevice.isReferenced).Subperm before

/-- The calls for one occurrence of a name: one removal for each device with a reference on
top of it, inner devices first, and the wipe. -/
def IsBlock (deviceName : String) (device : BlockDevice) (calls : List Request) : Prop :=
  ∃ removed : List BlockDevice,
    removed.Perm ((allDevices device.children).filter BlockDevice.isReferenced) ∧
    InnerFirst removed ∧
    calls = removed.flatMap removal ++ [.command (.wipefs deviceName)]

/-- The removals in the order in which they are made. -/
def removals (devices : List BlockDevice) : List Request :=
  ((allChildrenFirst devices).filter BlockDevice.isReferenced).flatMap removal

theorem innerFirst_allChildrenFirst (devices : List BlockDevice) :
    InnerFirst ((allChildrenFirst devices).filter BlockDevice.isReferenced) := by
  intro before device later split
  obtain ⟨first, second, isOrder, rfl, isSecond⟩ := List.filter_eq_append_iff.mp split
  obtain ⟨outside, rest, rfl, unreferenced, -, -⟩ := List.filter_eq_cons_iff.mp isSecond
  rw [← List.append_assoc] at isOrder
  have directly := (allChildrenFirst_suffix devices isOrder).filter BlockDevice.isReferenced
  have none : outside.filter BlockDevice.isReferenced = [] :=
    List.filter_eq_nil_iff.mpr unreferenced
  rw [List.filter_append, none, List.append_nil] at directly
  exact ((allChildrenFirst_perm device.children).filter _).symm.subperm.trans
    directly.sublist.subperm

theorem isBlock_removals (deviceName : String) (device : BlockDevice) :
    IsBlock deviceName device
      (removals device.children ++ [.command (.wipefs deviceName)]) :=
  ⟨_, (allChildrenFirst_perm device.children).filter _,
    innerFirst_allChildrenFirst device.children, rfl⟩

/-! ## The calls of a run -/

variable {node deviceName : String} {world after : World}
variable {events : List (Event sig World)}

theorem dmsetupRemove_calls
    (device : BlockDevice)
    {result : Except GoError Unit}
    (ran : Exec (environment node) (dmsetupRemove device.kname).run world events result
      after) :
    events.map (·.request) = removal device := by
  rw [dmsetupRemove] at ran
  rw [removal]
  split at ran
  · rename_i unnamed
    rw [if_pos unnamed]
    obtain ⟨rfl, -, -⟩ := Exec.run_throw_bind_iff.mp ran
    rfl
  · rename_i named
    rw [if_neg named]
    obtain ⟨answer, first, between, second, removing, rest, rfl⟩ :=
      Exec.run_attempt_bind_iff.mp ran
    obtain ⟨choice, rfl, -, -⟩ := exec_call_iff.mp removing
    have silent : second = [] := by
      cases answer with
      | ok done => exact (Exec.run_pure_iff.mp rest).1
      | error error =>
          dsimp only at rest
          split at rest
          · exact (Exec.run_throw_bind_iff.mp rest).1
          · exact (Exec.run_throw_iff.mp rest).1
    rw [silent]
    rfl

mutual

theorem removeMapperReference_calls :
    (device : BlockDevice) → {world after : World} → {events : List (Event sig World)} →
    Exec (environment node) (removeMapperReference device) world events () after →
      events.map (·.request) =
        (device.childrenFirst.filter BlockDevice.isReferenced).flatMap removal
  | .mk name kname type state fsType readOnly partLabel children => by
      intro ran
      rw [removeMapperReference] at ran
      obtain ⟨first, _, between, second, inner, outer, rfl⟩ := Exec.bind_iff.mp ran
      rw [List.map_append, removeMapperReferences_calls children inner,
        BlockDevice.childrenFirst, List.filter_append, List.flatMap_append]
      refine congrArg (removals children ++ ·) ?_
      by_cases isPart : type = "part"
      · rw [if_pos isPart] at outer
        obtain ⟨rfl, -, -⟩ := Exec.pure_iff.mp outer
        simp [BlockDevice.isReferenced, BlockDevice.type, isPart]
      · rw [if_neg isPart] at outer
        obtain ⟨removing, answer, later, last, removes, returns, rfl⟩ :=
          Exec.bind_iff.mp outer
        obtain ⟨rfl, -, -⟩ := Exec.pure_iff.mp returns
        have referenced : BlockDevice.isReferenced
            (.mk name kname type state fsType readOnly partLabel children) = true :=
          bne_iff_ne.mpr isPart
        rw [List.append_nil, dmsetupRemove_calls
          (.mk name kname type state fsType readOnly partLabel children) removes,
          List.filter_cons_of_pos referenced, List.filter_nil, List.flatMap_singleton]

/-- The calls that remove the references of a list. -/
theorem removeMapperReferences_calls :
    (devices : List BlockDevice) → {world after : World} →
    {events : List (Event sig World)} →
    Exec (environment node) (removeMapperReferences devices) world events () after →
      events.map (·.request) = removals devices
  | [] => by
      intro ran
      obtain ⟨rfl, -, -⟩ := Exec.pure_iff.mp ran
      rfl
  | device :: rest => by
      intro ran
      rw [removeMapperReferences] at ran
      obtain ⟨first, _, between, second, head, tail, rfl⟩ := Exec.bind_iff.mp ran
      rw [List.map_append, removeMapperReference_calls device head,
        removeMapperReferences_calls rest tail, removals, removals, allChildrenFirst,
        List.filter_append, List.flatMap_append]

end

/-- A wipe is one call. -/
theorem wipe_calls
    {result : Except GoError Unit}
    (named : deviceName ≠ "")
    (ran : Exec (environment node) (wipe deviceName).run world events result after) :
    ∃ event, events = [event] ∧ event.request = .command (.wipefs deviceName) ∧
      (event.request.failure event.response = none → result = .ok ()) := by
  rw [wipe, if_neg named] at ran
  obtain ⟨answer, rfl, wiping⟩ := Exec.run_mapError_iff.mp ran
  obtain ⟨choice, rfl, isAnswer, -⟩ := exec_call_iff.mp wiping
  refine ⟨_, rfl, rfl, fun succeeded => ?_⟩
  change errorOf (World.respond node choice world (.command (.wipefs deviceName))).1 = none
    at succeeded
  rw [← isAnswer] at succeeded
  cases answer with
  | ok done => rfl
  | error error => cases succeeded

/-! ## The search -/

/-- A wipe is a sequence of blocks, each for an occurrence of the name at another place of
the forest; there is one if the name occurs. -/
structure Blocks
    (deviceName : String)
    (devices : List BlockDevice)
    (calls : List Request)
    (occurrences : List BlockDevice) : Prop where
  places : occurrences.Sublist devices
  named : ∀ device ∈ occurrences, device.kname = deviceName
  calls : calls = occurrences.flatMap fun device =>
    removals device.children ++ [.command (.wipefs deviceName)]
  reached : (∃ device ∈ devices, device.kname = deviceName) → occurrences ≠ []

/-- No wipe of the device fails. -/
def WipesSucceed (deviceName : String) (events : List (Event sig World)) : Prop :=
  ∀ event ∈ events, event.request = .command (.wipefs deviceName) →
    event.request.failure event.response = none

theorem WipesSucceed.append
    {first second : List (Event sig World)}
    (succeed : WipesSucceed deviceName (first ++ second)) :
    WipesSucceed deviceName first ∧ WipesSucceed deviceName second :=
  List.forall_mem_append.mp succeed

theorem Blocks.single
    {device : BlockDevice}
    {rest : List BlockDevice}
    (named : device.kname = deviceName) :
    Blocks deviceName (device :: rest)
      (removals device.children ++ [.command (.wipefs deviceName)]) [device] where
  places := (List.nil_sublist _).cons_cons _
  named := by simpa using named
  calls := by simp
  reached := by simp

theorem Blocks.cons
    {device : BlockDevice}
    {devices : List BlockDevice}
    (blocks : Blocks deviceName devices calls occurrences)
    (different : device.kname ≠ deviceName) :
    Blocks deviceName (device :: devices) calls occurrences where
  places := blocks.places.cons _
  named := blocks.named
  calls := blocks.calls
  reached := by
    rw [List.exists_mem_cons_iff, or_iff_right different]
    exact blocks.reached

/-- Once the name is found, the siblings that follow do not matter. -/
theorem Blocks.of_found
    {devices : List BlockDevice}
    (blocks : Blocks deviceName devices calls occurrences)
    (found : ∃ device ∈ devices, device.kname = deviceName)
    (rest : List BlockDevice) :
    Blocks deviceName (devices ++ rest) calls occurrences where
  places := blocks.places.trans (List.sublist_append_left _ _)
  named := blocks.named
  calls := blocks.calls
  reached _ := blocks.reached found

/-- Blocks of two lists are blocks of both. -/
theorem Blocks.append
    {first second : List BlockDevice}
    {later : List Request}
    {others : List BlockDevice}
    (blocks : Blocks deviceName first calls occurrences)
    (laterBlocks : Blocks deviceName second later others) :
    Blocks deviceName (first ++ second) (calls ++ later) (occurrences ++ others) where
  places := blocks.places.append laterBlocks.places
  named := List.forall_mem_append.mpr ⟨blocks.named, laterBlocks.named⟩
  calls := by rw [List.flatMap_append, ← blocks.calls, ← laterBlocks.calls]
  reached := by
    rintro ⟨device, member, isNamed⟩ none
    obtain ⟨noFirst, noSecond⟩ := List.append_eq_nil_iff.mp none
    rcases List.mem_append.mp member with isFirst | isSecond
    · exact blocks.reached ⟨device, isFirst, isNamed⟩ noFirst
    · exact laterBlocks.reached ⟨device, isSecond, isNamed⟩ noSecond

mutual

theorem wipeIfNamed_blocks :
    (device : BlockDevice) → {world after : World} → {events : List (Event sig World)} →
    {result : Except GoError (Bool × Bool)} →
    Exec (environment node) (wipeIfNamed deviceName device).run world events result after →
    (deviceName = "" → ∀ inner ∈ device.subtree, inner.kname ≠ "") →
    WipesSucceed deviceName events →
    ∃ occurrences, Blocks deviceName device.subtree (events.map (·.request)) occurrences ∧
      result = .ok (!occurrences.isEmpty, decide (device.kname = deviceName))
  | .mk name kname type state fsType readOnly partLabel children => by
      intro ran unnamed succeed
      rw [wipeIfNamed] at ran
      rw [BlockDevice.subtree] at unnamed ⊢
      by_cases isNamed : kname = deviceName
      · rw [if_pos isNamed] at ran
        subst isNamed
        have named : kname ≠ "" := fun empty => unnamed empty _ (.head _) empty
        obtain ⟨_, removing, between, rest, removes, wipes, rfl⟩ :=
          Exec.run_lift_bind_iff.mp ran
        obtain ⟨_, succeedRest⟩ := succeed.append
        rcases Exec.run_bind_iff.mp wipes with
          ⟨error, rfl, failed⟩ | ⟨_, wiping, later, last, wiped, returns, rfl⟩
        · obtain ⟨event, rfl, isWipe, fine⟩ := wipe_calls named failed
          cases fine (succeedRest event (.head _) isWipe)
        · obtain ⟨rfl, rfl, -⟩ := Exec.run_pure_iff.mp returns
          obtain ⟨event, rfl, isWipe, -⟩ := wipe_calls named wiped
          refine ⟨[.mk name kname type state fsType readOnly partLabel children], ?_, ?_⟩
          · rw [List.map_append, removeMapperReferences_calls children removes,
              List.append_nil, List.map_singleton, isWipe]
            exact .single rfl
          · simp [BlockDevice.kname]
      · rw [if_neg isNamed] at ran
        obtain ⟨inner, rfl, search⟩ := Exec.run_bind_pure_iff.mp ran
        obtain ⟨occurrences, blocks, rfl⟩ := wipeDevice_blocks children search
          (fun empty device member => unnamed empty device (.tail _ member)) succeed
        refine ⟨occurrences, blocks.cons isNamed, ?_⟩
        simp [Except.map, BlockDevice.kname, isNamed]

/-- The calls are the blocks of the devices with the name. -/
theorem wipeDevice_blocks :
    (devices : List BlockDevice) → {world after : World} →
    {events : List (Event sig World)} → {result : Except GoError Bool} →
    Exec (environment node) (wipeDevice deviceName devices).run world events result after →
    (deviceName = "" → ∀ device ∈ allDevices devices, device.kname ≠ "") →
    WipesSucceed deviceName events →
    ∃ occurrences, Blocks deviceName (allDevices devices) (events.map (·.request))
        occurrences ∧
      result = .ok !occurrences.isEmpty
  | [] => by
      intro ran _ _
      obtain ⟨rfl, rfl, -⟩ := Exec.run_pure_iff.mp ran
      exact ⟨[], ⟨.slnil, by simp, rfl, by simp [allDevices]⟩, rfl⟩
  | device :: rest => by
      intro ran unnamed succeed
      rw [wipeDevice] at ran
      rw [allDevices] at unnamed ⊢
      rcases Exec.run_bind_iff.mp ran with
        ⟨error, rfl, failed⟩ | ⟨answer, first, between, second, head, tail, rfl⟩
      · obtain ⟨_, -, isOk⟩ := wipeIfNamed_blocks device failed
          (fun empty inner member => unnamed empty inner (List.mem_append_left _ member))
          succeed
        cases isOk
      · obtain ⟨succeedFirst, succeedRest⟩ := succeed.append
        obtain ⟨occurrences, blocks, isOk⟩ := wipeIfNamed_blocks device head
          (fun empty inner member => unnamed empty inner (List.mem_append_left _ member))
          succeedFirst
        obtain rfl := Except.ok.inj isOk
        dsimp only at tail
        by_cases isNamed : device.kname = deviceName
        · rw [if_pos (decide_eq_true isNamed)] at tail
          obtain ⟨rfl, rfl, -⟩ := Exec.run_pure_iff.mp tail
          rw [List.append_nil]
          have root : device ∈ device.subtree := by
            cases device
            exact .head _
          exact ⟨occurrences, blocks.of_found ⟨device, root, isNamed⟩ _, rfl⟩
        · rw [if_neg (by simpa using isNamed)] at tail
          obtain ⟨inner, rfl, search⟩ := Exec.run_bind_pure_iff.mp tail
          obtain ⟨others, laterBlocks, rfl⟩ := wipeDevice_blocks rest search
            (fun empty other member => unnamed empty other (List.mem_append_right _ member))
            succeedRest
          rw [List.map_append]
          refine ⟨occurrences ++ others, blocks.append laterBlocks, ?_⟩
          cases occurrences <;> simp [Except.map]

end

/-- Every wipe succeeds: the name is not the empty one, which is refused before a command is
issued, unless it does not occur, and no command of a wipe fails. -/
structure WipesEach
    (deviceName : String)
    (devices : List BlockDevice)
    (events : List (Event sig World)) : Prop where
  accepted : deviceName = "" → ∀ device ∈ allDevices devices, device.kname ≠ ""
  succeed : WipesSucceed deviceName events

/-- The calls of a wipe are a sequence of blocks, each of them for an occurrence of the name
at another place of the forest: one removal for each device on top of it that is not a
partition, inner devices first, and then the wipe. There is a block, and the wipe reports
that it wiped, exactly if the name occurs. -/
theorem wipeDevice_order
    (node deviceName : String)
    (devices : List BlockDevice)
    {world after : World}
    {events : List (Event sig World)}
    {result : Except GoError Bool}
    (ran : Exec (environment node) (wipeDevice deviceName devices).run world events result
      after)
    (wipes : WipesEach deviceName devices events) :
    ∃ blocks : List (BlockDevice × List Request),
      events.map (·.request) = blocks.flatMap (·.2) ∧
      (blocks.map (·.1)).Sublist (allDevices devices) ∧
      (∀ block ∈ blocks, block.1.kname = deviceName ∧
        IsBlock deviceName block.1 block.2) ∧
      (blocks ≠ [] ↔ ∃ device ∈ allDevices devices, device.kname = deviceName) ∧
      ∃ wiped, result = .ok wiped ∧ (wiped = true ↔ blocks ≠ []) := by
  obtain ⟨occurrences, blocks, rfl⟩ :=
    wipeDevice_blocks devices ran wipes.accepted wipes.succeed
  have places : (occurrences.map fun device =>
      (device, removals device.children ++ [.command (.wipefs deviceName)])).map (·.1) =
        occurrences := by
    simp [Function.comp_def]
  refine ⟨_, ?_, places ▸ blocks.places, ?_, ?_, _, rfl, ?_⟩
  · rw [blocks.calls, List.flatMap_map]
  · intro block member
    obtain ⟨device, isOccurrence, rfl⟩ := List.mem_map.mp member
    exact ⟨blocks.named device isOccurrence, isBlock_removals deviceName device⟩
  · rw [ne_eq, List.map_eq_nil_iff]
    refine ⟨fun some => ?_, blocks.reached⟩
    obtain ⟨device, member⟩ := List.exists_mem_of_ne_nil _ some
    exact ⟨device, blocks.places.subset member, blocks.named device member⟩
  · simp

/-- A name that occurs twice: under another disk, with a mapped device on top of it, and as a
disk whose partition carries a mapped device. -/
def nestedDisks : List BlockDevice :=
  [.mk "sdb" "sdb" "disk" "running" "" false ""
      [.mk "sda" "sda" "mpath" "running" "" false ""
        [.mk "data" "dm-0" "lvm" "running" "" false "" []]],
    .mk "sda" "sda" "disk" "running" "" false ""
      [.mk "sda1" "sda1" "part" "running" "" false ""
        [.mk "root" "dm-1" "crypt" "running" "" false "" []]]]

/-- The wipe of both places. -/
def wipeNested : List (Event sig World) × Except GoError Bool × World :=
  Program.run (environment "node") (fun _ _ => {}) (wipeDevice "sda" nestedDisks).run
    World.empty

theorem wipeNested_succeeds : WipesEach "sda" nestedDisks wipeNested.1 where
  accepted empty := absurd empty (by decide)
  succeed event member _ := by
    have fine : (wipeNested.1.all fun event =>
        (event.request.failure event.response).isNone) = true := by
      decide +kernel
    exact Option.isNone_iff_eq_none.mp (List.all_eq_true.mp fine event member)

theorem wipeDevice_order_nested :
    ∃ blocks : List (BlockDevice × List Request),
      wipeNested.1.map (·.request) = blocks.flatMap (·.2) ∧
      (blocks.map (·.1)).Sublist (allDevices nestedDisks) ∧
      (∀ block ∈ blocks, block.1.kname = "sda" ∧ IsBlock "sda" block.1 block.2) ∧
      blocks ≠ [] := by
  obtain ⟨blocks, calls, places, named, occurs, -⟩ :=
    wipeDevice_order "node" "sda" nestedDisks (Program.run_exec ..) wipeNested_succeeds
  refine ⟨blocks, calls, places, named, occurs.mpr ?_⟩
  simp [nestedDisks, allDevices, BlockDevice.subtree, BlockDevice.kname]

end Lvms
