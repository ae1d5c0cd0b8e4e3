import Lvms.World
import Lvms.Interaction.History

/-!
# The configuration of lvmd

`FileConfig` reads, writes and removes the configuration file of lvmd.
`CachedFileConfig` keeps the last configuration in memory: `Load` asks the file
only when nothing is cached, and `Save` writes only what differs from the cache.
`Delete` is inherited from `FileConfig`.
-/

namespace Lvms

open Interaction

namespace Lvmd

/-- `DeepCopyConfig` of one device class. -/
def deepCopyDeviceClass (deviceClass : DeviceClass) : DeviceClass where
  name := deviceClass.name
  volumeGroup := deviceClass.volumeGroup
  default := deviceClass.default
  stripeSize := deviceClass.stripeSize
  lvcreateOptions := deviceClass.lvcreateOptions
  type := deviceClass.type
  spareGB := deviceClass.spareGB
  stripe := deviceClass.stripe
  thinPoolConfig := deviceClass.thinPoolConfig.map fun thinPool =>
    { name := thinPool.name, overprovisionRatio := thinPool.overprovisionRatio }

/-- `DeepCopyConfig`. -/
def deepCopyConfig (config : Config) : Config where
  socketName := config.socketName
  deviceClasses := config.deviceClasses.map deepCopyDeviceClass
  lvcreateOptionClasses := config.lvcreateOptionClasses.map fun optionClass =>
    { name := optionClass.name, options := optionClass.options }

@[simp] theorem deepCopyDeviceClass_eq (deviceClass : DeviceClass) :
    deepCopyDeviceClass deviceClass = deviceClass := by
  cases deviceClass
  simp [deepCopyDeviceClass]

/-- A deep copy has the same content. -/
@[simp] theorem deepCopyConfig_eq (config : Config) :
    deepCopyConfig config = config := by
  have same : deepCopyDeviceClass = id := funext deepCopyDeviceClass_eq
  cases config
  simp [deepCopyConfig, same]

/-- `FileConfig`. -/
structure FileConfig where
  path : String := "/etc/topolvm/lvmd.yaml"
  deriving DecidableEq, Repr

namespace FileConfig

/-- `FileConfig.Load`; a missing file is no error. -/
def load (file : FileConfig) : Go (Option Config) := do
  let found ← Fallible.mapError
    (GoError.wrapped ("failed to open config file " ++ file.path))
    (query .openFile)
  if !found then
    return none
  let content ← Fallible.mapError
    (GoError.wrapped ("failed to read config file " ++ file.path))
    (query .readFile)
  match content with
  | .config config => return some config
  | .tooLong =>
      throw (.new ("the read limit is reached for config file " ++ file.path))
  | .malformed reason =>
      throw (GoError.wrapped ("failed to unmarshal config file " ++ file.path)
        (.new reason))

/-- `FileConfig.Save`. -/
def save (file : FileConfig) (config : Config) : Go Unit :=
  Fallible.mapError
    (GoError.wrapped ("failed to save config file " ++ file.path))
    (command (.writeFile config))

/-- `FileConfig.Delete`. -/
def delete (file : FileConfig) : Go Unit :=
  Fallible.mapError
    (GoError.wrapped ("failed to delete config file " ++ file.path))
    (command .removeFile)

end FileConfig

namespace CachedFileConfig

/-- `CachedFileConfig.Load`. -/
def load (file : FileConfig) : Go (Option Config) := do
  match ← cachedConfig with
  | some config => return some (deepCopyConfig config)
  | none =>
      let config ← file.load
      cacheConfig config
      return config.map deepCopyConfig

/-- `CachedFileConfig.Save`. The cache is replaced before the file is written. -/
def save (file : FileConfig) (config : Config) : Go Unit := do
  if (← cachedConfig) = some config then
    return
  cacheConfig (some config)
  file.save config

/-- `Delete`, which `CachedFileConfig` inherits from `FileConfig`. -/
def delete (file : FileConfig) : Go Unit :=
  file.delete

end CachedFileConfig

/-! ## The file behind the configuration -/

/-- The content of the configuration file of a node. -/
def stored (node : String) (world : World) : Option FileContent :=
  (world.host node).lvmdFile

/-- The configuration in the memory of the vg-manager of a node. -/
def cached (node : String) (world : World) : Option Config :=
  (world.memory node).config

/-- No write of the file fails, and the file is not removed under a cached
configuration. -/
def undisturbed (node : String) (event : Event sig World) : Bool :=
  match event.request with
  | .command (.writeFile _) => !hostFailed event
  | .command .removeFile =>
      (cached node event.before).isNone || hostFailed event
  | _ => true

section Specifications

variable {file : FileConfig} {node : String} {world : World}
variable {assumes : Event sig World → Prop}

/-- Loading the file changes nothing and returns what is stored. -/
theorem FileConfig.load_wp :
    wp (environment node) (.assuming assumes) file.load.run
      (fun result after => after = world ∧
        ∀ config, result = .ok config → stored node world = config.map .config)
      world := by
  simp only [FileConfig.load, wp.run_bind_iff, wp.run_mapError_iff]
  refine wp_query_of_report (by simp [Except.mapError])
    ⟨by simp [Host.report, Except.mapError], ?_⟩
  rintro found ⟨⟩
  cases inFile : (world.host node).lvmdFile with
  | none => simp [stored, inFile]
  | some content =>
      simp only [Option.isSome_some, Bool.not_true, Bool.false_eq_true,
        if_false, wp.run_bind_iff, wp.run_mapError_iff]
      refine wp_query_of_report (by simp [Except.mapError]) ?_
      cases content <;> simp [Host.report, inFile, stored, Except.mapError]

/-- Saving the file writes the configuration, unless the write fails. -/
theorem FileConfig.save_wp (config : Config) :
    wp (environment node) (.assuming (undisturbed node ·)) (file.save config).run
      (fun result after => result = .ok () ∧
        stored node after = some (.config config) ∧
        cached node after = cached node world)
      world := by
  simp only [FileConfig.save, wp.run_mapError_iff, wp_command_iff]
  intro choice assumed
  cases failure : choice.failure with
  | none =>
      simp [Host.execute, failure, Host.apply, stored, cached, Except.mapError]
  | some text =>
      simp [undisturbed, Environment.event, environment, World.respond, Host.execute,
        failure, hostFailed] at assumed

/-- Deleting the file removes it, which only happens when nothing is cached, or
changes nothing. -/
theorem FileConfig.delete_wp :
    wp (environment node) (.assuming (undisturbed node ·)) file.delete.run
      (fun _ after => cached node after = cached node world ∧
        (cached node world = none ∨ stored node after = stored node world))
      world := by
  simp only [FileConfig.delete, wp.run_mapError_iff, wp_command_iff]
  intro choice assumed
  refine ⟨rfl, ?_⟩
  simp only [undisturbed, Environment.event_request, Environment.event_before,
    Bool.or_eq_true, Option.isNone_iff_eq_none] at assumed
  rcases assumed with nothing | failed
  · exact .inl nothing
  · right
    cases failure : choice.failure with
    | some text => simp [Host.execute, failure, Host.afterFailure, stored]
    | none =>
        simp only [Environment.event, environment, World.respond, Host.execute,
          failure, Host.apply] at failed
        simp only [Host.execute, failure, Host.apply, stored]
        split <;> simp_all [hostFailed]

end Specifications

/-! ## Runs of calls -/

namespace CachedFileConfig

/-- A call of the configurator. -/
inductive Call
  | load
  | save (config : Config)
  | delete
  deriving DecidableEq, Repr

/-- The code of a call; only `Load` returns a configuration. -/
def Call.program (file : FileConfig) : Call → Go (Option Config)
  | .load => CachedFileConfig.load file
  | .save config => do
      CachedFileConfig.save file config
      return none
  | .delete => do
      CachedFileConfig.delete file
      return none

/-- What happened in a call. -/
structure CallRecord where
  call : Call
  before : World
  events : List (Event sig World)
  result : Except GoError (Option Config)
  after : World

/-- The vg-manager of a node makes one call; every file operation in it can
succeed or fail. -/
def CallStep
    (file : FileConfig)
    (node : String)
    (world : World)
    (records : List CallRecord)
    (world' : World) : Prop :=
  ∃ record : CallRecord,
    Exec (environment node) (record.call.program file).run record.before
      record.events record.result record.after ∧
    record.before = world ∧ record.after = world' ∧ records = [record]

/-- A successful `Load` returns what is stored, and a successful `Save` leaves
its argument in the file. -/
def CallRecord.Faithful (node : String) (record : CallRecord) : Prop :=
  match record.call, record.result with
  | .load, .ok config => stored node record.after = config.map .config
  | .save config, .ok _ => stored node record.after = some (.config config)
  | _, _ => True

/-- What is cached is stored. -/
def Coherent (node : String) (world : World) : Prop :=
  ∀ config, cached node world = some config →
    stored node world = some (.config config)

section

variable {file : FileConfig} {node : String} {world : World}

/-- `Load` keeps the cache coherent and returns what is stored. -/
theorem load_wp (coherent : Coherent node world) :
    wp (environment node) (.assuming (undisturbed node ·)) (load file).run
      (fun result after => Coherent node after ∧
        ∀ config, result = .ok config →
          stored node after = config.map .config)
      world := by
  simp only [load, wp.run_bind_iff, wp.run_lift_iff, wp_cachedConfig_iff]
  intro _ _
  refine ⟨by simp, ?_⟩
  rintro _ ⟨⟩
  cases inMemory : (world.memory node).config with
  | some config =>
      simpa using And.intro coherent (coherent config inMemory)
  | none =>
      simp only [wp.run_bind_iff, wp.run_lift_iff, wp_cacheConfig_iff]
      refine FileConfig.load_wp.mono ?_
      rintro result after ⟨rfl, loaded⟩
      refine ⟨fun error failed => ⟨coherent, by simp⟩, ?_⟩
      rintro config rfl choice _
      have isStored := loaded config rfl
      refine ⟨by simp, fun _ _ => ⟨?_, ?_⟩⟩
      · intro other isCached
        have same : config = some other := by simpa [cached] using isCached
        simpa [stored, same] using isStored
      · rintro _ ⟨⟩
        cases config <;> simpa [stored] using isStored

/-- `Save` keeps the cache coherent and leaves its argument in the file. -/
theorem save_wp (config : Config) (coherent : Coherent node world) :
    wp (environment node) (.assuming (undisturbed node ·)) (save file config).run
      (fun _ after => Coherent node after ∧
        stored node after = some (.config config))
      world := by
  simp only [save, wp.run_bind_iff, wp.run_lift_iff, wp_cachedConfig_iff]
  intro _ _
  refine ⟨by simp, ?_⟩
  rintro _ ⟨⟩
  by_cases same : cached node world = some config
  · have equal : (world.memory node).config = some config := same
    simpa [equal] using And.intro coherent (coherent config same)
  · have different : ¬(world.memory node).config = some config := same
    simp only [different, if_false, wp.run_bind_iff, wp.run_lift_iff,
      wp_cacheConfig_iff]
    intro _ _
    refine ⟨by simp, fun _ _ => ?_⟩
    refine (FileConfig.save_wp config).mono ?_
    rintro result after ⟨_, isStored, isCached⟩
    refine ⟨?_, isStored⟩
    intro other otherCached
    rw [isCached] at otherCached
    have equal : config = other := by simpa [cached] using otherCached
    rw [isStored, equal]

/-- `Delete` keeps the cache coherent. -/
theorem delete_wp (coherent : Coherent node world) :
    wp (environment node) (.assuming (undisturbed node ·)) (delete file).run
      (fun _ after => Coherent node after) world := by
  refine FileConfig.delete_wp.mono ?_
  rintro result after ⟨sameCache, nothing | sameFile⟩ config isCached
  · simp [sameCache, nothing] at isCached
  · rw [sameFile]
    exact coherent config (sameCache ▸ isCached)

/-- Every call keeps the cache coherent and is faithful to the file. -/
theorem call_faithful
    (call : Call)
    (coherent : Coherent node world) :
    wp (environment node) (.assuming (undisturbed node ·)) (call.program file).run
      (fun result after => Coherent node after ∧
        ∀ before events,
          CallRecord.Faithful node ⟨call, before, events, result, after⟩)
      world := by
  cases call with
  | load =>
      refine (load_wp coherent).mono ?_
      rintro result after ⟨kept, faithful⟩
      refine ⟨kept, fun _ _ => ?_⟩
      cases result with
      | ok config => exact faithful config rfl
      | error error => trivial
  | save config =>
      simp only [Call.program, wp.run_bind_iff]
      refine (save_wp config coherent).mono ?_
      rintro result after ⟨kept, isStored⟩
      exact ⟨fun _ _ => ⟨kept, fun _ _ => trivial⟩,
        fun _ _ => ⟨kept, fun _ _ => isStored⟩⟩
  | delete =>
      simp only [Call.program, wp.run_bind_iff]
      refine (delete_wp coherent).mono ?_
      intro result after kept
      exact ⟨fun _ _ => ⟨kept, fun _ _ => trivial⟩,
        fun _ _ => ⟨kept, fun _ _ => trivial⟩⟩

end

/-- In every run from an empty cache in which no write fails and the file is not
removed under a cached configuration, every call is faithful to the file. -/
theorem faithful_of_undisturbed
    (file : FileConfig)
    (node : String)
    (world world' : World)
    (records : List CallRecord)
    (fresh : cached node world = none)
    (run : History (fun before added after =>
      CallStep file node before added after ∧
        ∀ record ∈ added, ∀ event ∈ record.events, undisturbed node event)
      world records world') :
    ∀ record ∈ records, record.Faithful node := by
  refine run.all_events (Coherent node) _ ?_ ?_
  · intro config isCached
    simp [fresh] at isCached
  · rintro before added after coherent
      ⟨⟨⟨call, _, events, result, _⟩, ran, rfl, rfl, rfl⟩, allowed⟩
    have assumed := allowed _ (List.mem_singleton_self _)
    obtain ⟨_, kept, faithful⟩ :=
      (call_faithful call coherent).sound ran assumed
    refine ⟨kept, ?_⟩
    intro record member
    rw [List.mem_singleton.mp member]
    exact faithful _ _

/-- The record of a call whose choices are made by a strategy. -/
def CallRecord.ofStrategy
    (file : FileConfig)
    (node : String)
    (pick : World → Request → Choice)
    (call : Call)
    (world : World) : CallRecord :=
  let ran := Program.run (environment node) pick (call.program file).run world
  ⟨call, world, ran.1, ran.2.1, ran.2.2⟩

theorem CallRecord.ofStrategy_step
    (file : FileConfig)
    (node : String)
    (pick : World → Request → Choice)
    (call : Call)
    (world : World) :
    CallStep file node world [ofStrategy file node pick call world]
      (ofStrategy file node pick call world).after :=
  ⟨_, Program.run_exec _ _ _ _, rfl, rfl, rfl⟩

/-- Saving a configuration and loading it again. -/
theorem faithful_of_undisturbed_save_load :
    let saved := CallRecord.ofStrategy {} "node" (fun _ _ => {})
      (.save { socketName := "/run/lvmd.sock" }) World.empty
    let loaded := CallRecord.ofStrategy {} "node" (fun _ _ => {}) .load saved.after
    ∀ record ∈ [saved, loaded], record.Faithful "node" := by
  intro saved loaded
  have run : History (fun before added after =>
      CallStep {} "node" before added after ∧
        ∀ record ∈ added, ∀ event ∈ record.events, undisturbed "node" event)
      World.empty ([saved] ++ [loaded]) loaded.after := by
    refine (History.single ⟨CallRecord.ofStrategy_step .., ?_⟩).next
      ⟨CallRecord.ofStrategy_step .., ?_⟩
    · decide
    · decide
  exact faithful_of_undisturbed {} "node" World.empty loaded.after _ rfl run

/-- After a successful `Delete` the next `Load` returns the deleted
configuration. -/
theorem load_after_delete_unfaithful :
    ¬∀ (file : FileConfig) (node : String) (world world' : World)
      (records : List CallRecord),
      cached node world = none →
      History (CallStep file node) world records world' →
      ∀ record ∈ records, record.Faithful node := by
  intro faithful
  let saved := CallRecord.ofStrategy {} "node" (fun _ _ => {})
    (.save { socketName := "/run/lvmd.sock" }) World.empty
  let deleted := CallRecord.ofStrategy {} "node" (fun _ _ => {}) .delete saved.after
  let loaded := CallRecord.ofStrategy {} "node" (fun _ _ => {}) .load deleted.after
  have run : History (CallStep {} "node") World.empty
      ([saved] ++ [deleted] ++ [loaded]) loaded.after :=
    ((History.single (CallRecord.ofStrategy_step ..)).next
      (CallRecord.ofStrategy_step ..)).next (CallRecord.ofStrategy_step ..)
  have stale := faithful {} "node" World.empty loaded.after _ rfl run loaded (by simp)
  have impossible : (none : Option FileContent) =
      some (.config { socketName := "/run/lvmd.sock" }) := stale
  cases impossible

end CachedFileConfig
end Lvmd
end Lvms
