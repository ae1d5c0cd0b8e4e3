import Lvms.Interaction.Table
import Lvms.VgManager.Evidence
import Mathlib.Data.List.DropRight

/-!
# The configuration of lvmd as a table

The configuration file of lvmd has one device class for each volume group. A volume group
adds its device class when it is set up for the first time, patches it in place later and
cuts it out when it is deleted; the file is removed with the last device class. As long as
loading returns what is stored, the file is a table of the volume groups that were set up
and not deleted.
-/

namespace Lvms

open Interaction

/-! ## Calls of the configurator that succeed -/

namespace Lvmd

variable {file : FileConfig} {node : String} {world after : World}
variable {events : List (Event sig World)}

theorem FileConfig.load_ok
    {loaded : Option Config}
    (ran : Exec (environment node) file.load.run world events (.ok loaded) after) :
    after = world ∧ stored node world = loaded.map .config := by
  have loads : wp (environment node) (.assuming fun _ => True) file.load.run
      (fun result after => after = world ∧
        ∀ config, result = .ok config → stored node world = config.map .config)
      world :=
    FileConfig.load_wp
  obtain ⟨-, unchanged, isStored⟩ := loads.sound ran (by simp [Contract.assuming])
  exact ⟨unchanged, isStored loaded rfl⟩

namespace CachedFileConfig

/-- `Load` returns what is stored, and caches it. -/
theorem load_ok
    {loaded : Option Config}
    (coherent : Coherent node world)
    (ran : Exec (environment node) (load file).run world events (.ok loaded) after) :
    stored node world = loaded.map .config ∧ stored node after = loaded.map .config ∧
      cached node after = loaded := by
  obtain ⟨answer, first, between, second, asks, continues, rfl⟩ :=
    Exec.run_lift_bind_iff.mp ran
  obtain ⟨choice, -, isAnswer, unchanged⟩ := exec_call_iff.mp asks
  obtain rfl : world = between := unchanged.symm
  cases answer with
  | some config =>
      have isCached : cached node world = some config := isAnswer.symm
      obtain ⟨-, isLoaded, rfl⟩ := Exec.run_pure_iff.mp continues
      obtain rfl := Except.ok.inj isLoaded
      rw [deepCopyConfig_eq]
      exact ⟨coherent config isCached, coherent config isCached, isCached⟩
  | none =>
      obtain ⟨found, _, _, _, loads, caches, -⟩ := Exec.run_bind_ok_iff.mp continues
      obtain ⟨rfl, isStored⟩ := FileConfig.load_ok loads
      obtain ⟨_, _, _, _, keeps, returns, -⟩ := Exec.run_lift_bind_iff.mp caches
      obtain ⟨_, -, -, rfl⟩ := exec_call_iff.mp keeps
      obtain ⟨-, isLoaded, rfl⟩ := Exec.run_pure_iff.mp returns
      have same : loaded = found := by
        rw [Except.ok.inj isLoaded]
        cases found <;> simp
      rw [same]
      exact ⟨isStored, isStored, by simp [cached, World.respond]⟩

/-- `Save` leaves its argument in the file. -/
theorem save_ok
    {config : Config}
    (coherent : Coherent node world)
    (ran : Exec (environment node) (save file config).run world events (.ok ()) after) :
    stored node after = some (.config config) := by
  obtain ⟨answer, first, between, second, asks, continues, rfl⟩ :=
    Exec.run_lift_bind_iff.mp ran
  obtain ⟨choice, -, isCached, unchanged⟩ := exec_call_iff.mp asks
  obtain rfl : world = between := unchanged.symm
  split at continues
  · rename_i same
    obtain ⟨-, -, rfl⟩ := Exec.run_pure_iff.mp continues
    exact coherent config (isCached.symm.trans same)
  · obtain ⟨_, _, _, _, -, saves, -⟩ := Exec.run_lift_bind_iff.mp continues
    obtain ⟨choice, -, isAnswer, rfl⟩ :=
      exec_call_iff.mp (Exec.run_mapError_ok_iff.mp saves)
    cases failure : choice.failure with
    | none => simp [World.respond, Host.execute, failure, Host.apply, stored]
    | some text => simp [World.respond, Host.execute, failure] at isAnswer

/-- `Delete` removes the file. -/
theorem delete_ok
    (ran : Exec (environment node) (delete file).run world events (.ok ()) after) :
    stored node after = none := by
  obtain ⟨choice, -, isAnswer, rfl⟩ := exec_call_iff.mp (Exec.run_mapError_ok_iff.mp ran)
  cases failure : choice.failure with
  | some text => simp [World.respond, Host.execute, failure] at isAnswer
  | none =>
      cases inFile : (world.host node).lvmdFile with
      | some content => simp [World.respond, Host.execute, failure, Host.apply, inFile, stored]
      | none => simp [World.respond, Host.execute, failure, Host.apply, inFile] at isAnswer

end CachedFileConfig

/-- The device classes of a configuration, if there is one. -/
def classes (config : Option Config) : List DeviceClass :=
  (config.getD {}).deviceClasses

end Lvmd

/-! ## Calls of the vg-manager -/

/-- A volume group sets up or removes its device class. -/
inductive ConfigCall
  | apply (vg : LVMVolumeGroup) (vgs : List VolumeGroup) (devices : FilteredBlockDevices)
  | delete (vg : LVMVolumeGroup)

namespace ConfigCall

/-- The volume group of a call. -/
def vg : ConfigCall → LVMVolumeGroup
  | apply vg _ _ | delete vg => vg

/-- The call sets up a device class. -/
def isApply : ConfigCall → Bool
  | apply _ _ _ => true
  | delete _ => false

/-- The code of a call. -/
def program (r : Reconciler) : ConfigCall → Go Unit
  | apply vg vgs devices => r.applyLVMDConfig vg vgs devices
  | delete vg => r.processDelete vg

/-- What a call makes of the configuration it loads. -/
def change : ConfigCall → Option Lvmd.Config → Except GoError (Option Lvmd.Config)
  | apply vg _ _, loaded => (Reconciler.withDeviceClass vg (loaded.getD {})).map some
  | delete vg, loaded => .ok ((loaded.map (Reconciler.withoutDeviceClass vg.name)).filter
      fun remaining => !remaining.deviceClasses.isEmpty)

end ConfigCall

namespace Reconciler

variable {r : Reconciler} {vg : LVMVolumeGroup} {world after : World}
variable {events : List (Event sig World)}

/-- What is stored after the device class was applied. -/
theorem applyLVMDConfig_stores
    {vgs : List VolumeGroup}
    {devices : FilteredBlockDevices}
    (coherent : Lvmd.CachedFileConfig.Coherent r.nodeName world)
    (ran : Exec (environment r.nodeName) (r.applyLVMDConfig vg vgs devices).run world events
      (.ok ()) after) :
    ∃ (loaded : Option Lvmd.Config) (new : Lvmd.Config),
      Lvmd.stored r.nodeName world = loaded.map .config ∧
      withDeviceClass vg (loaded.getD {}) = .ok new ∧
      Lvmd.stored r.nodeName after = some (.config new) := by
  obtain ⟨loaded, new, between, _, _, -, loads, computed, changed⟩ :=
    applyLVMDConfig_cases ran
  obtain ⟨isStored, stillStored, isCached⟩ := Lvmd.CachedFileConfig.load_ok coherent loads
  refine ⟨loaded, new, isStored, computed, ?_⟩
  rcases changed with ⟨rfl, rfl⟩ | ⟨_, -, saves⟩
  · exact stillStored
  · refine Lvmd.CachedFileConfig.save_ok (fun config isConfig => ?_) saves
    rw [stillStored, ← isCached, isConfig]
    rfl

/-- What is stored after a device class was removed. -/
theorem storeRemaining_stores
    {remaining : Option Lvmd.Config}
    (coherent : Lvmd.CachedFileConfig.Coherent r.nodeName world)
    (missing : remaining = none → Lvmd.stored r.nodeName world = none)
    (ran : Exec (environment r.nodeName) (r.storeRemaining vg remaining).run world events
      (.ok ()) after) :
    Lvmd.stored r.nodeName after =
      (remaining.filter fun config => !config.deviceClasses.isEmpty).map .config := by
  cases remaining with
  | none =>
      obtain ⟨-, -, rfl⟩ := Exec.run_pure_iff.mp ran
      exact missing rfl
  | some config =>
      dsimp only [storeRemaining] at ran
      split at ran
      · rename_i last
        obtain ⟨_, _, _, _, deletes, announces, -⟩ := Exec.run_bind_ok_iff.mp ran
        rw [normalEvent_unchanged announces, Lvmd.CachedFileConfig.delete_ok
          (Exec.run_mapError_ok_iff.mp deletes), Option.filter_some_neg (by simp [last])]
        rfl
      · rename_i others
        obtain ⟨_, _, _, _, saves, announces, -⟩ := Exec.run_bind_ok_iff.mp ran
        rw [normalEvent_unchanged announces, Lvmd.CachedFileConfig.save_ok coherent
          (Exec.run_mapError_ok_iff.mp saves), Option.filter_some_pos (by simp [others])]
        rfl

/-- What is stored after a cleanup. -/
theorem processDelete_stores
    (coherent : Lvmd.CachedFileConfig.Coherent r.nodeName world)
    (ran : Exec (environment r.nodeName) (r.processDelete vg).run world events (.ok ())
      after) :
    ∃ loaded : Option Lvmd.Config,
      Lvmd.stored r.nodeName world = loaded.map .config ∧
      Lvmd.stored r.nodeName after =
        ((loaded.map (withoutDeviceClass vg.name)).filter fun remaining =>
          !remaining.deviceClasses.isEmpty).map .config := by
  obtain ⟨loaded, _, opened, _, loads, ran, -⟩ := Exec.run_bind_ok_iff.mp ran
  obtain ⟨isStored, stillStored, isCached⟩ :=
    Lvmd.CachedFileConfig.load_ok coherent (Exec.run_mapError_ok_iff.mp loads)
  obtain ⟨_, _, cleaned, _, cleans, ran, -⟩ := Exec.run_bind_ok_iff.mp ran
  obtain ⟨_, _, saved, _, stores, releases, -⟩ := Exec.run_bind_ok_iff.mp ran
  have cleaning := Exec.frame cleans (r.cleanUpDisks_uses vg)
  have sameFile : Lvmd.stored r.nodeName cleaned = loaded.map .config :=
    (cleaning.lvmdFile (by decide) r.nodeName).trans stillStored
  have sameCache : Lvmd.cached r.nodeName cleaned = loaded :=
    (cleaning.config (by decide) r.nodeName).trans isCached
  have released : Lvmd.stored r.nodeName after = Lvmd.stored r.nodeName saved :=
    (Exec.frame releases (r.releaseVolumeGroup_uses vg)).lvmdFile (by decide) r.nodeName
  refine ⟨loaded, isStored, released.trans (storeRemaining_stores ?_ ?_ stores)⟩
  · intro config isConfig
    rw [sameFile, ← sameCache, isConfig]
    rfl
  · intro none
    rw [sameFile, Option.map_eq_none_iff.mp none]
    rfl

end Reconciler

/-- A call that succeeds changes what is stored. -/
theorem ConfigCall.stores
    {r : Reconciler}
    {call : ConfigCall}
    {world after : World}
    {events : List (Event sig World)}
    (coherent : Lvmd.CachedFileConfig.Coherent r.nodeName world)
    (ran : Exec (environment r.nodeName) (call.program r).run world events (.ok ()) after) :
    ∃ loaded changed, Lvmd.stored r.nodeName world = Option.map .config loaded ∧
      call.change loaded = .ok changed ∧
      Lvmd.stored r.nodeName after = Option.map .config changed := by
  cases call with
  | apply vg vgs devices =>
      obtain ⟨loaded, new, isStored, computed, stores⟩ :=
        Reconciler.applyLVMDConfig_stores coherent ran
      exact ⟨loaded, some new, isStored, by rw [change, computed]; rfl, stores⟩
  | delete vg =>
      obtain ⟨loaded, isStored, stores⟩ := Reconciler.processDelete_stores coherent ran
      exact ⟨loaded, _, isStored, rfl, stores⟩

/-! ## The rows of the table -/

namespace Reconciler

variable {vg : LVMVolumeGroup} {row : Lvmd.DeviceClass} {first last : List Lvmd.DeviceClass}

/-- Without an entry there is nothing to refresh. -/
theorem refreshDeviceClasses_of_absent
    (absent : ∀ other ∈ first, other.name ≠ vg.name) :
    refreshDeviceClasses vg first = .ok none := by
  induction first with
  | nil => rfl
  | cons other rest inductionHypothesis =>
      obtain ⟨different, absentRest⟩ := List.forall_mem_cons.mp absent
      rw [refreshDeviceClasses, if_neg different, inductionHypothesis absentRest]
      rfl

/-- Only the first entry with the name is refreshed. -/
theorem refreshDeviceClasses_of_split
    (outside : ∀ other ∈ first, other.name ≠ vg.name)
    (named : row.name = vg.name) :
    refreshDeviceClasses vg (first ++ row :: last) =
      (refreshDeviceClass vg row).map fun new => some (first ++ new :: last) := by
  induction first with
  | nil =>
      rw [List.nil_append, refreshDeviceClasses, if_pos named]
      cases refreshDeviceClass vg row <;> rfl
  | cons other rest inductionHypothesis =>
      obtain ⟨different, outsideRest⟩ := List.forall_mem_cons.mp outside
      rw [List.cons_append, refreshDeviceClasses, if_neg different,
        inductionHypothesis outsideRest]
      cases refreshDeviceClass vg row <;> rfl

/-- The device class of a volume group after it has been set up. -/
def applied (vg : LVMVolumeGroup) : Option Lvmd.DeviceClass → Option Lvmd.DeviceClass
  | none => some (newDeviceClass vg)
  | some old => (refreshDeviceClass vg old).toOption

/-- The row of the volume group is added at the end or patched in place. -/
theorem withDeviceClass_writesRow
    {old new : Lvmd.Config}
    {row : Option Lvmd.DeviceClass}
    (computed : withDeviceClass vg old = .ok new)
    (one : old.deviceClasses.filter (·.name == vg.name) = row.toList) :
    WritesRow Lvmd.DeviceClass.name vg.name (applied vg row) old.deviceClasses
      new.deviceClasses := by
  obtain ⟨first, last, split, outsideFirst, outsideLast, isRow⟩ := exists_split one
  obtain ⟨found, refreshed, isNew⟩ := Except.bind_eq_ok_iff.mp computed
  cases row with
  | none =>
      have absent : ∀ other ∈ old.deviceClasses, other.name ≠ vg.name := by
        rw [split, Option.toList_none, List.append_nil]
        exact List.forall_mem_append.mpr ⟨outsideFirst, outsideLast⟩
      rw [refreshDeviceClasses_of_absent absent] at refreshed
      obtain rfl := Except.ok.inj refreshed
      obtain rfl := Except.ok.inj isNew
      have named : (newDeviceClass vg).name = vg.name := (newDeviceClass_keeps vg).1
      have added : WritesRow Lvmd.DeviceClass.name (newDeviceClass vg).name
          (some (newDeviceClass vg)) old.deviceClasses
          (old.deviceClasses ++ [newDeviceClass vg]) :=
        writesRow_append (newDeviceClass vg) (named ▸ absent)
      rwa [named] at added
  | some element =>
      have named : element.name = vg.name := isRow element rfl
      rw [split, Option.toList_some, List.append_assoc, List.singleton_append,
        refreshDeviceClasses_of_split outsideFirst named] at refreshed
      cases patched : refreshDeviceClass vg element with
      | error error => simp [patched, Except.map] at refreshed
      | ok update =>
          rw [patched] at refreshed
          obtain rfl := Except.ok.inj refreshed
          obtain rfl := Except.ok.inj isNew
          have sameName : update.name = vg.name :=
            (refreshDeviceClass_keeps patched).1.trans named
          have written : WritesRow Lvmd.DeviceClass.name vg.name (some update)
              (first ++ [element] ++ last) (first ++ [update] ++ last) :=
            .of_split (some element) (some update) outsideFirst outsideLast isRow
              (by simpa using sameName)
          rw [List.append_assoc first [update], List.singleton_append] at written
          rw [applied, patched, split]
          exact written

end Reconciler

namespace ConfigCall

/-- What a call makes of the device class of its volume group. -/
def write : ConfigCall → Option Lvmd.DeviceClass → Option Lvmd.DeviceClass
  | apply vg _ _, row => Reconciler.applied vg row
  | delete _, _ => none

variable {call : ConfigCall} {loaded changed : Option Lvmd.Config}

/-- The device classes that a deletion leaves, with or without a file. -/
theorem classes_remaining (name : String) :
    Lvmd.classes ((loaded.map (Reconciler.withoutDeviceClass name)).filter fun remaining =>
        !remaining.deviceClasses.isEmpty) =
      (Lvmd.classes loaded).eraseP (·.name == name) := by
  cases loaded with
  | none => rfl
  | some config =>
      rw [Option.map_some, Option.filter_some]
      split
      · rfl
      · rename_i none
        have last : (Reconciler.withoutDeviceClass name config).deviceClasses = [] := by
          simpa using none
        exact last.symm

/-- A call writes the row of its volume group. -/
theorem writes
    {row : Option Lvmd.DeviceClass}
    (changes : call.change loaded = .ok changed)
    (one : (Lvmd.classes loaded).filter (·.name == call.vg.name) = row.toList) :
    WritesRow Lvmd.DeviceClass.name call.vg.name (call.write row) (Lvmd.classes loaded)
      (Lvmd.classes changed) := by
  cases call with
  | apply vg vgs devices =>
      rw [change] at changes
      cases computed : Reconciler.withDeviceClass vg (loaded.getD {}) with
      | error error => simp [computed, Except.map] at changes
      | ok new =>
          rw [computed] at changes
          obtain rfl := Except.ok.inj changes
          exact Reconciler.withDeviceClass_writesRow computed one
  | delete vg =>
      obtain rfl := Except.ok.inj changes
      rw [classes_remaining]
      exact writesRow_eraseP (fun _ _ => beq_iff_eq) one

/-- A configuration without device classes is not stored. -/
theorem stored_nonempty
    (changes : call.change loaded = .ok changed)
    (empty : Lvmd.classes changed = []) :
    changed = none := by
  cases call with
  | apply vg vgs devices =>
      rw [change] at changes
      cases computed : Reconciler.withDeviceClass vg (loaded.getD {}) with
      | error error => simp [computed, Except.map] at changes
      | ok new =>
          rw [computed] at changes
          obtain rfl := Except.ok.inj changes
          obtain ⟨entry, member, -⟩ := Reconciler.exists_of_withDeviceClass computed
          have none : new.deviceClasses = [] := empty
          rw [none] at member
          cases member
  | delete vg =>
      obtain rfl := Except.ok.inj changes
      rw [Option.filter_eq_none_iff]
      intro remaining isRemaining others
      rw [isRemaining, Option.filter_some, if_pos others] at empty
      have none : remaining.deviceClasses = [] := empty
      simp [none] at others

end ConfigCall

/-! ## The life of a volume group -/

/-- The kind of a volume group: whether it is thin, and whether it is a RAID. -/
def LVMVolumeGroup.layout (vg : LVMVolumeGroup) : Bool × Bool :=
  (vg.spec.thinPoolConfig.isSome, vg.spec.raidConfig.isSome)

/-- The volume groups that were set up under a name since it was last deleted. -/
def lifetime (name : String) (calls : List ConfigCall) : List LVMVolumeGroup :=
  ((calls.filter (·.vg.name == name)).rtakeWhile ConfigCall.isApply).map ConfigCall.vg

/-- The last call for a name. -/
def lastConfigCall (name : String) (calls : List ConfigCall) : Option ConfigCall :=
  (calls.filter (·.vg.name == name)).getLast?

/-- The kind of a volume group does not change until it is deleted. -/
def LayoutsKept (calls : List ConfigCall) : Prop :=
  ∀ earlier, earlier <+: calls → ∀ name,
    ∀ one ∈ lifetime name earlier, ∀ other ∈ lifetime name earlier, one.layout = other.layout

/-- The device class of a volume group that was added with one spec and set up with
another one at last. -/
structure IsEntry
    (created last : LVMVolumeGroup)
    (entry : Lvmd.DeviceClass) : Prop where
  volumeGroup : entry.volumeGroup = created.name
  thin : ∀ config, last.spec.thinPoolConfig = some config →
    entry.type = .thin ∧ ∃ pool, created.spec.thinPoolConfig = some pool ∧
      entry.thinPoolConfig = some {
        name := pool.name
        overprovisionRatio := config.overprovisionRatio }
  thick : last.spec.thinPoolConfig = none →
    entry.type = .thick ∧ entry.thinPoolConfig = none ∧ entry.spareGB = some 0
  raid : ∀ config, last.spec.raidConfig = some config →
    ∃ creation, created.spec.raidConfig = some creation ∧
      entry.lvcreateOptions = buildRAIDLVCreateOptions creation
  plain : last.spec.raidConfig = none → entry.lvcreateOptions = []

theorem isEntry_newDeviceClass (vg : LVMVolumeGroup) :
    IsEntry vg vg (Reconciler.newDeviceClass vg) := by
  constructor
  · cases pool : vg.spec.thinPoolConfig <;> simp [Reconciler.newDeviceClass, pool]
  · intro config isThin
    simp [Reconciler.newDeviceClass, isThin]
  · intro isThick
    simp [Reconciler.newDeviceClass, isThick]
  · intro config isRAID
    refine ⟨config, isRAID, ?_⟩
    cases pool : vg.spec.thinPoolConfig <;> simp [Reconciler.newDeviceClass, pool, isRAID]
  · intro isPlain
    cases pool : vg.spec.thinPoolConfig <;> simp [Reconciler.newDeviceClass, pool, isPlain]

/-- Setting up a volume group of the same kind again patches the ratio. -/
theorem IsEntry.refresh
    {created last vg : LVMVolumeGroup}
    {entry : Lvmd.DeviceClass}
    (isEntry : IsEntry created last entry)
    (same : last.layout = vg.layout) :
    ∃ new, Reconciler.refreshDeviceClass vg entry = .ok new ∧ IsEntry created vg new := by
  have sameThin : last.spec.thinPoolConfig.isSome = vg.spec.thinPoolConfig.isSome :=
    congrArg Prod.fst same
  have sameRAID : last.spec.raidConfig.isSome = vg.spec.raidConfig.isSome :=
    congrArg Prod.snd same
  have raid : ∀ config, vg.spec.raidConfig = some config →
      ∃ creation, created.spec.raidConfig = some creation ∧
        entry.lvcreateOptions = buildRAIDLVCreateOptions creation := by
    intro config isRAID
    rw [isRAID, Option.isSome_some] at sameRAID
    obtain ⟨former, isFormer⟩ := Option.isSome_iff_exists.mp sameRAID
    exact isEntry.raid former isFormer
  have plain : vg.spec.raidConfig = none → entry.lvcreateOptions = [] := by
    intro isPlain
    rw [isPlain, Option.isSome_none] at sameRAID
    exact isEntry.plain (Option.isSome_eq_false_iff.mp sameRAID |> Option.isNone_iff_eq_none.mp)
  cases pool : vg.spec.thinPoolConfig with
  | some config =>
      rw [pool, Option.isSome_some] at sameThin
      obtain ⟨former, isFormer⟩ := Option.isSome_iff_exists.mp sameThin
      obtain ⟨isThin, creation, isCreation, isPool⟩ := isEntry.thin former isFormer
      refine ⟨{ entry with
        thinPoolConfig := some {
          name := creation.name
          overprovisionRatio := config.overprovisionRatio } }, ?_, ?_⟩
      · rw [Reconciler.refreshDeviceClass, if_pos isThin, isPool, pool]
      · refine ⟨isEntry.volumeGroup, ?_, by simp [pool], raid, plain⟩
        intro other isOther
        obtain rfl : config = other := Option.some.inj (pool.symm.trans isOther)
        exact ⟨isThin, creation, isCreation, rfl⟩
  | none =>
      rw [pool, Option.isSome_none, Option.isSome_eq_false_iff, Option.isNone_iff_eq_none]
        at sameThin
      have isThick := isEntry.thick sameThin
      refine ⟨entry, ?_, isEntry.volumeGroup, by simp [pool], fun _ => isThick, raid, plain⟩
      rw [Reconciler.refreshDeviceClass, if_neg (by simp [isThick.1])]

variable {name : String} {calls : List ConfigCall} {call : ConfigCall}

theorem lifetime_append :
    lifetime name (calls ++ [call]) =
      if call.vg.name = name then
        if call.isApply then lifetime name calls ++ [call.vg] else []
      else lifetime name calls := by
  rw [lifetime, List.filter_append]
  by_cases named : call.vg.name = name
  · rw [if_pos named, List.filter_cons_of_pos (by simpa using named), List.filter_nil,
      List.rtakeWhile_concat]
    split <;> simp [lifetime]
  · rw [if_neg named, List.filter_cons_of_neg (by simpa using named), List.filter_nil,
      List.append_nil, lifetime]

/-- The life has begun exactly if the last call for the name is not a deletion. -/
theorem lifetime_ne_nil_iff :
    lifetime name calls ≠ [] ↔
      ∃ vg vgs devices, lastConfigCall name calls = some (.apply vg vgs devices) := by
  induction calls using List.reverseRecOn with
  | nil => simp [lifetime, lastConfigCall]
  | append_singleton earlier call inductionHypothesis =>
      rw [lifetime_append, lastConfigCall, List.filter_append]
      by_cases named : call.vg.name = name
      · rw [if_pos named, List.filter_cons_of_pos (by simpa using named), List.filter_nil,
          List.getLast?_concat]
        cases call with
        | apply vg vgs devices => simp [ConfigCall.isApply]
        | delete vg => simp [ConfigCall.isApply]
      · rw [if_neg named, List.filter_cons_of_neg (by simpa using named), List.filter_nil,
          List.append_nil]
        exact inductionHypothesis

theorem LayoutsKept.of_append (kept : LayoutsKept (calls ++ [call])) : LayoutsKept calls :=
  fun earlier isEarlier => kept earlier (isEarlier.trans (List.prefix_append ..))

/-- A row is about the first and the last volume group of a life, if there is one. -/
def DescribesLife (life : List LVMVolumeGroup) (row : Option Lvmd.DeviceClass) : Prop :=
  (life = [] ∧ row = none) ∨
    ∃ created last entry, life.head? = some created ∧ life.getLast? = some last ∧
      row = some entry ∧ IsEntry created last entry

theorem DescribesLife.ne_nil_iff
    {life : List LVMVolumeGroup}
    {row : Option Lvmd.DeviceClass}
    (describes : DescribesLife life row) :
    life ≠ [] ↔ row ≠ none := by
  rcases describes with ⟨rfl, rfl⟩ | ⟨created, last, entry, isFirst, -, rfl, -⟩
  · simp
  · refine ⟨fun _ => Option.some_ne_none entry, fun _ empty => ?_⟩
    rw [empty] at isFirst
    cases isFirst

/-- Calls under one name are about volume groups of one kind. -/
theorem LayoutsKept.of_calls
    (same : ∀ one ∈ calls, ∀ other ∈ calls, one.vg.name = other.vg.name →
      one.vg.layout = other.vg.layout) :
    LayoutsKept calls := by
  intro earlier isEarlier name
  have called : ∀ vg ∈ lifetime name earlier, ∃ call ∈ calls, call.vg.name = name ∧
      call.vg = vg := by
    intro vg member
    obtain ⟨call, isCall, rfl⟩ := List.mem_map.mp member
    obtain ⟨listed, named⟩ :=
      List.mem_filter.mp ((List.rtakeWhile_suffix ..).subset isCall)
    exact ⟨call, isEarlier.subset listed, beq_iff_eq.mp named, rfl⟩
  intro one isOne other isOther
  obtain ⟨first, isFirst, nameFirst, rfl⟩ := called one isOne
  obtain ⟨second, isSecond, nameSecond, rfl⟩ := called other isOther
  exact same first isFirst second isSecond (nameFirst.trans nameSecond.symm)

/-- The step of a life: a volume group is set up. -/
theorem DescribesLife.apply
    {life : List LVMVolumeGroup}
    {row : Option Lvmd.DeviceClass}
    {vg : LVMVolumeGroup}
    (describes : DescribesLife life row)
    (same : ∀ other ∈ life, other.layout = vg.layout) :
    DescribesLife (life ++ [vg]) (Reconciler.applied vg row) := by
  right
  rcases describes with ⟨rfl, rfl⟩ | ⟨created, last, entry, isFirst, isLast, rfl, isEntry⟩
  · exact ⟨vg, vg, _, rfl, rfl, rfl, isEntry_newDeviceClass vg⟩
  · obtain ⟨new, refreshed, isNew⟩ :=
      isEntry.refresh (same last (List.mem_of_getLast? isLast))
    refine ⟨created, vg, new, ?_, List.getLast?_concat, ?_, isNew⟩
    · rw [List.head?_append, isFirst]
      rfl
    · rw [Reconciler.applied, refreshed]
      rfl

/-- The row that the calls leave describes the life of a name. -/
theorem describes_track (kept : LayoutsKept calls) (name : String) :
    DescribesLife (lifetime name calls)
      (track ConfigCall.write (calls.map fun call => (call.vg.name, call)) name) := by
  induction calls using List.reverseRecOn with
  | nil => exact .inl ⟨rfl, rfl⟩
  | append_singleton earlier call inductionHypothesis =>
      have describes := inductionHypothesis kept.of_append
      have sameKind := kept _ List.prefix_rfl name
      rw [lifetime_append] at sameKind ⊢
      rw [List.map_append, List.map_singleton]
      by_cases named : call.vg.name = name
      · subst named
        rw [if_pos rfl, track_append_self]
        rw [if_pos rfl] at sameKind
        cases call with
        | apply vg vgs devices =>
            refine describes.apply fun other member => ?_
            exact sameKind other (List.mem_append_left _ member) vg
              (List.mem_append_right _ (.head _))
        | delete vg => exact .inl ⟨rfl, rfl⟩
      · rw [if_neg named, track_append_of_ne (Ne.symm named)]
        exact describes

/-! ## Histories of calls -/

/-- A call of the vg-manager that succeeds and loads what is stored, or something that
leaves the file alone. -/
inductive ConfigStep (r : Reconciler) : World → List ConfigCall → World → Prop
  | call {world after events call}
      (coherent : Lvmd.CachedFileConfig.Coherent r.nodeName world)
      (ran : Exec (environment r.nodeName) (call.program r).run world events (.ok ())
        after) :
      ConfigStep r world [call] after
  | elsewhere {world after}
      (same : Lvmd.stored r.nodeName after = Lvmd.stored r.nodeName world) :
      ConfigStep r world [] after

variable {r : Reconciler} {start world after : World} {events : List (Event sig World)}

/-- The file holds a configuration with the rows of the calls, or it is missing and there
are none. -/
structure ClassesRecorded
    (node : String)
    (calls : List ConfigCall)
    (world : World)
    (config : Option Lvmd.Config) : Prop where
  stored : Lvmd.stored node world = config.map .config
  missing : Lvmd.classes config = [] → config = none
  rows : Tabulates Lvmd.DeviceClass.name ConfigCall.write
    (calls.map fun call => (call.vg.name, call)) (Lvmd.classes config)

/-- A call records itself, and leaves the other device classes alone. -/
theorem ClassesRecorded.after_call
    {config : Option Lvmd.Config}
    (recorded : ClassesRecorded r.nodeName calls world config)
    (coherent : Lvmd.CachedFileConfig.Coherent r.nodeName world)
    (ran : Exec (environment r.nodeName) (call.program r).run world events (.ok ())
      after) :
    ∃ changed, ClassesRecorded r.nodeName (calls ++ [call]) after changed ∧
      (Lvmd.classes changed).filter (·.name != call.vg.name) =
        (Lvmd.classes config).filter (·.name != call.vg.name) := by
  obtain ⟨loaded, changed, isLoaded, changes, isStored⟩ := ConfigCall.stores coherent ran
  obtain rfl : config = loaded :=
    Option.map_injective (fun _ _ => Lvmd.FileContent.config.inj)
      (recorded.stored.symm.trans isLoaded)
  have writes := ConfigCall.writes changes (recorded.rows call.vg.name)
  refine ⟨changed, ⟨isStored, ConfigCall.stored_nonempty changes, ?_⟩, writes.others⟩
  rw [List.map_append]
  exact recorded.rows.append writes

/-- Every history of calls is recorded. -/
theorem ClassesRecorded.of_history
    (missing : Lvmd.stored r.nodeName start = none)
    (history : History (ConfigStep r) start calls world) :
    ∃ config, ClassesRecorded r.nodeName calls world config := by
  refine history.induct (fun calls world => ∃ config, ClassesRecorded r.nodeName calls world
    config) ⟨none, missing, fun _ => rfl, .nil⟩ ?_
  intro before middle added last recorded stepped
  obtain ⟨config, recorded⟩ := recorded
  cases stepped with
  | call coherent ran =>
      obtain ⟨changed, recordedAfter, -⟩ := recorded.after_call coherent ran
      exact ⟨changed, recordedAfter⟩
  | elsewhere same =>
      rw [List.append_nil]
      exact ⟨config, same.trans recorded.stored, recorded.missing, recorded.rows⟩

/-- The configuration of lvmd is a table of volume groups: after any calls from a missing
file it has one device class for each volume group whose last call set it up, and no file
is left without any; a device class has the pool and the options of the spec it was added
with and the ratio of the last spec, and a call leaves the others alone. -/
theorem lvmdConfig_is_table
    (missing : Lvmd.stored r.nodeName start = none)
    (kept : LayoutsKept calls)
    (history : History (ConfigStep r) start calls world) :
    ∃ config : Option Lvmd.Config,
      Lvmd.stored r.nodeName world = config.map .config ∧
      (config = none ↔ Lvmd.classes config = []) ∧
      ((Lvmd.classes config).map (·.name)).Nodup ∧
      (∀ name, (∃ entry ∈ Lvmd.classes config, entry.name = name) ↔
        ∃ vg vgs devices, lastConfigCall name calls = some (.apply vg vgs devices)) ∧
      (∀ entry ∈ Lvmd.classes config, ∃ created last,
        (lifetime entry.name calls).head? = some created ∧
        (lifetime entry.name calls).getLast? = some last ∧ IsEntry created last entry) ∧
      ∀ (call : ConfigCall) events after, Lvmd.CachedFileConfig.Coherent r.nodeName world →
        Exec (environment r.nodeName) (call.program r).run world events (.ok ()) after →
        ∃ changed : Option Lvmd.Config,
          Lvmd.stored r.nodeName after = changed.map .config ∧
          (Lvmd.classes changed).filter (·.name != call.vg.name) =
            (Lvmd.classes config).filter (·.name != call.vg.name) := by
  obtain ⟨config, recorded⟩ := ClassesRecorded.of_history missing history
  refine ⟨config, recorded.stored, ⟨?_, recorded.missing⟩, recorded.rows.nodup, ?_, ?_, ?_⟩
  · rintro rfl
    rfl
  · intro name
    rw [← lifetime_ne_nil_iff, recorded.rows.exists_iff]
    exact (describes_track kept name).ne_nil_iff.symm
  · intro entry member
    have isRow := recorded.rows.mem_iff.mp member
    rcases describes_track kept entry.name with ⟨-, noRow⟩ |
      ⟨created, last, row, isCreated, isLast, isSame, isEntry⟩
    · cases isRow.symm.trans noRow
    · obtain rfl : entry = row := Option.some.inj (isRow.symm.trans isSame)
      exact ⟨created, last, isCreated, isLast, isEntry⟩
  · intro call events after coherent ran
    obtain ⟨changed, recordedAfter, others⟩ := recorded.after_call coherent ran
    exact ⟨changed, recordedAfter.stored, others⟩

/-- A thin volume group. -/
def thinVG (overprovisionRatio : Int) : LVMVolumeGroup where
  metadata := { name := "vg1" }
  spec := { thinPoolConfig := some { name := "pool", overprovisionRatio } }

/-- A thin volume group is set up twice, with another ratio, and then a thick one, which is
deleted again. -/
def sampleConfigCalls : List ConfigCall :=
  let thick : LVMVolumeGroup := { metadata := { name := "vg2" }, spec := {} }
  [.apply (thinVG 10) [] {}, .apply (thinVG 20) [] {}, .apply thick [] {}, .delete thick]

/-- A call without failures. -/
def ConfigCall.perform (world : World) (call : ConfigCall) :
    List (Event sig World) × Except GoError Unit × World :=
  Program.run (environment "node") (fun _ _ => {}) (call.program (.plain "node")).run world

theorem ConfigCall.perform_step
    {world : World}
    {call : ConfigCall}
    (coherent : ((Lvmd.cached "node" world).all fun config =>
      Lvmd.stored "node" world = some (.config config)) = true)
    (succeeds : (call.perform world).2.1 = .ok ()) :
    ConfigStep (.plain "node") world [call] (call.perform world).2.2 := by
  refine .call (fun config isCached => ?_)
    (succeeds ▸ Program.run_exec (environment "node") (fun _ _ => {}) _ world)
  exact of_decide_eq_true ((Option.all_eq_true _ _).mp coherent config isCached)

/-- The world after these calls. -/
def sampleConfigWorld : World :=
  sampleConfigCalls.foldl (fun world call => (call.perform world).2.2) World.empty

theorem sampleConfigWorld_history :
    History (ConfigStep (.plain "node")) World.empty sampleConfigCalls sampleConfigWorld :=
  (((History.single (ConfigCall.perform_step (by decide +kernel) (by decide +kernel))).next
    (ConfigCall.perform_step (by decide +kernel) (by decide +kernel))).next
      (ConfigCall.perform_step (by decide +kernel) (by decide +kernel))).next
        (ConfigCall.perform_step (by decide +kernel) (by decide +kernel))

theorem lvmdConfig_is_table_sample :
    ∃ config : Option Lvmd.Config,
      Lvmd.stored "node" sampleConfigWorld = config.map .config ∧
      ((Lvmd.classes config).map (·.name)).Nodup ∧
      ∃ entry ∈ Lvmd.classes config, entry.name = "vg1" ∧
        entry.thinPoolConfig = some { name := "pool", overprovisionRatio := 20 } := by
  obtain ⟨config, stored, -, unique, entries, described, -⟩ :=
    lvmdConfig_is_table (r := .plain "node") rfl (.of_calls (by decide))
      sampleConfigWorld_history
  obtain ⟨entry, member, named⟩ :=
    (entries "vg1").mpr ⟨thinVG 20, [], {}, rfl⟩
  obtain ⟨created, last, isCreated, isLast, isEntry⟩ := described entry member
  have life : lifetime "vg1" sampleConfigCalls = [thinVG 10, thinVG 20] := rfl
  rw [named, life] at isCreated isLast
  obtain rfl := Option.some.inj isCreated
  obtain rfl := Option.some.inj isLast
  obtain ⟨-, pool, isPool, isThin⟩ := isEntry.thin _ rfl
  obtain rfl := Option.some.inj isPool
  exact ⟨config, stored, unique, entry, member, named, isThin⟩

end Lvms
