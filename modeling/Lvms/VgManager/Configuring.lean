import Lvms.Interaction.Protocol
import Lvms.VgManager.Steps

/-!
# Rules for the configuration of lvmd

The vg-manager stores a configuration that it has read and then changed. A rule that
the changes keep is kept by the file and by the cache of every node.
-/

namespace Lvms

open Interaction Interaction.Program

variable {world after : World} {effects : List Effect} {node : String} {request : Request}

/-- Only good configurations are stored, and what is stored is good. -/
def configuring (good : Lvmd.Config → Prop) : Protocol sig where
  allowed
    | .cacheConfig config => ∀ stored ∈ config, good stored
    | .command (.writeFile config) => good config
    | _ => True
  expected
    | .cachedConfig, response => ∀ config ∈ (response : Option Lvmd.Config), good config
    | .query .readFile, response =>
        OnOk (fun content : Lvmd.FileContent =>
          ∀ config, content = .config config → good config) response
    | _, _ => True

/-- The file or the cache of a node holds a configuration. -/
def HasConfig (node : String) (world : World) (config : Lvmd.Config) : Prop :=
  Lvmd.stored node world = some (.config config) ∨ Lvmd.cached node world = some config

/-- All configurations of the nodes are good. -/
def Configured (good : Lvmd.Config → Prop) (world : World) : Prop :=
  ∀ node config, HasConfig node world config → good config

variable {good : Lvmd.Config → Prop}

/-- Where neither the file nor the cache of any node changes, all configurations stay
good. -/
theorem Configured.of_same
    (configured : Configured good world)
    (stored : ∀ node, Lvmd.stored node after = Lvmd.stored node world)
    (cached : ∀ node, Lvmd.cached node after = Lvmd.cached node world ∨
      Lvmd.cached node after = none) :
    Configured good after := by
  rintro node config (inFile | inCache)
  · exact configured node config (.inl ((stored node).symm.trans inFile))
  · rcases cached node with same | none
    · exact configured node config (.inr (same.symm.trans inCache))
    · rw [none] at inCache
      cases inCache

/-- Calls that do not touch the configuration keep it good. -/
theorem Configured.of_frame
    (configured : Configured good world)
    (frame : Frame effects world after)
    (untouched : ∀ effect ∈ effects, effect ∉ [.writeFile, .removeFile, .cacheConfig]) :
    Configured good after := by
  have file : ∀ effect ∈ effects, effect.touchesFile = false := by
    intro effect member
    have := untouched effect member
    cases effect <;> simp_all [Effect.touchesFile]
  have cache : .cacheConfig ∉ effects := fun member => absurd (untouched _ member) (by simp)
  exact configured.of_same (frame.lvmdFile file) fun node => .inl (frame.config cache node)

/-- Replacing the file of a node. -/
theorem Configured.setHost
    {host : Host}
    (configured : Configured good world)
    (isGood : ∀ config, host.lvmdFile = some (.config config) → good config) :
    Configured good (world.setHost node host) := by
  rintro other config (inFile | inCache)
  · by_cases same : other = node
    · subst same
      rw [Lvmd.stored, World.setHost_host] at inFile
      exact isGood config inFile
    · simp only [Lvmd.stored, World.setHost, Function.update_of_ne same] at inFile
      exact configured other config (.inl inFile)
  · exact configured other config (.inr inCache)

/-- Allowed calls keep the configuration good. -/
theorem respond_configured
    {choice : Choice}
    (isAllowed : (configuring good).allowed request)
    (configured : Configured good world) :
    Configured good (World.respond node choice world request).2 := by
  by_cases touches : request.effect ∈ [.writeFile, .removeFile, .cacheConfig]
  · cases request with
    | api request => cases request <;> simp [Request.effect, ApiRequest.effect] at touches
    | command run =>
        refine configured.setHost ?_
        intro config isFile
        have before : (world.host node).lvmdFile = some (.config config) → good config :=
          fun inFile => configured node config (.inl inFile)
        cases run <;> simp [Request.effect, Command.effect] at touches
        · -- A write stores what it was given, or fails.
          cases failure : choice.failure with
          | some text =>
              simp only [failure, Host.afterFailure] at isFile
              exact before isFile
          | none =>
              simp only [failure, Host.apply, Option.some.injEq,
                Lvmd.FileContent.config.injEq] at isFile
              exact isFile ▸ isAllowed
        · cases failure : choice.failure with
          | some text =>
              simp only [failure, Host.afterFailure] at isFile
              exact before isFile
          | none =>
              simp only [failure, Host.apply] at isFile
              split at isFile
              · cases isFile
              · exact before isFile
    | cacheConfig config =>
        rintro other stored (inFile | inCache)
        · exact configured other stored (.inl inFile)
        · by_cases same : other = node
          · subst same
            simp only [Lvmd.cached, World.respond, World.setMemory_memory] at inCache
            exact isAllowed stored inCache
          · simp only [Lvmd.cached, World.respond, World.setMemory,
              Function.update_of_ne same] at inCache
            exact configured other stored (.inr inCache)
    | query | newResolver | loadResolved | storeResolved | cachedConfig | mapOrder | now
    | event | raidMetrics | dropRAIDMetrics | turn | otherManager =>
        simp [Request.effect] at touches
  · exact configured.of_frame (respond_frame node choice world request
      (List.mem_singleton_self _)) (by simpa using touches)

/-- A program that stores no configuration keeps them. -/
theorem Configured.of_uses
    {α : Type}
    {program : Program sig α}
    {events : List (Event sig World)}
    {value : α}
    (configured : Configured good world)
    (uses : program.Uses (Within effects))
    (untouched : ∀ effect ∈ effects, effect ∉ [.writeFile, .removeFile, .cacheConfig])
    (ran : Exec (environment node) program world events value after) :
    (∀ event ∈ events, Configured good event.before) ∧ Configured good after :=
  uses.preserves (fun choice _ request allowed holds =>
    holds.of_frame (respond_frame node choice _ request allowed) untouched) ran configured

/-- Only good configurations are read. -/
theorem respond_reports_good
    {choice : Choice}
    (configured : Configured good world) :
    (configuring good).expected request (World.respond node choice world request).1 := by
  unfold configuring
  dsimp only
  split
  · intro config isCached
    exact configured node config (.inr isCached)
  · simp only [World.respond, Host.answer]
    cases choice.failure with
    | some text => trivial
    | none =>
        simp only [Host.report]
        split
        · rename_i content inFile
          rintro config rfl
          exact configured node config (.inl inFile)
        · trivial
  · trivial

/-! ## Programs that store configurations -/

/-- Only writes of the configuration are restricted. -/
theorem configuring_allowed
    (untouched : request.effect ∉ [.writeFile, .cacheConfig]) :
    (configuring good).allowed request := by
  unfold configuring
  dsimp only
  split <;> simp_all [Request.effect, Command.effect]

/-- A footprint without configurations. -/
theorem configuring_of_within
    {α : Type}
    {program : Go α}
    (uses : program.run.Uses (Within effects))
    (untouched : ∀ effect ∈ effects, effect ∉ [.writeFile, .cacheConfig]) :
    program.Obeys (configuring good) :=
  .run_of_uses uses fun _ allowed => configuring_allowed (untouched _ allowed)

namespace Lvmd

variable {file : FileConfig}

theorem FileConfig.load_obeys :
    file.load.run.Obeys (configuring good) (OnOk fun loaded =>
      ∀ config ∈ loaded, good config) := by
  refine .run_bind (.run_mapError (configuring_of_within (query_uses _) (by decide)))
    fun found _ => ?_
  split
  · intro config isNone
    cases isNone
  · refine .run_bind (.run_mapError ⟨trivial, fun _ isExpected => isExpected⟩)
      fun content isGood => ?_
    cases content with
    | config config =>
        rintro loaded ⟨⟩
        exact isGood config rfl
    | tooLong | malformed => trivial

/-- What is loaded is good, from the cache too. -/
theorem CachedFileConfig.load_obeys :
    (CachedFileConfig.load file).run.Obeys (configuring good) (OnOk fun loaded =>
      ∀ config ∈ loaded, good config) := by
  refine .run_bind (.run_lift (.call trivial fun _ isExpected => isExpected))
    fun cached isGood => ?_
  cases cached with
  | some config =>
      rintro loaded ⟨⟩
      rw [deepCopyConfig_eq]
      exact isGood config rfl
  | none =>
      refine .run_bind FileConfig.load_obeys fun loaded loadedGood => ?_
      refine .run_bind (.run_lift (.call_ignored loadedGood)) fun _ _ => ?_
      intro config isLoaded
      obtain ⟨original, isOriginal, rfl⟩ := Option.map_eq_some_iff.mp isLoaded
      rw [deepCopyConfig_eq]
      exact loadedGood original isOriginal

/-- A good configuration may be saved. -/
theorem CachedFileConfig.save_obeys
    {config : Config}
    (isGood : good config) :
    (CachedFileConfig.save file config).Obeys (configuring good) := by
  refine .run_bind (.run_lift (.call_ignored trivial)) fun cached _ => ?_
  split
  · trivial
  · refine .run_bind (.run_lift (.call_ignored ?_)) fun _ _ => ?_
    · rintro stored ⟨⟩
      exact isGood
    · exact .run_mapError ⟨isGood, fun written _ => by cases written <;> trivial⟩

end Lvmd

namespace Reconciler

variable {r : Reconciler} {vg : LVMVolumeGroup} {vgs : List VolumeGroup}
variable {devices : FilteredBlockDevices}

/-- The changes that a reconciliation of a volume group makes to a configuration keep
the rule. -/
structure KeepsGood (good : Lvmd.Config → Prop) (vg : LVMVolumeGroup) : Prop where
  empty : good {}
  added : ∀ config new, good config → withDeviceClass vg config = .ok new → good new
  removed : ∀ config, good config → good (withoutDeviceClass vg.name config)

theorem reportFailure_obeys (error : GoError) :
    ((liftM (r.reportFailure vg vgs devices error) : Go Unit)).Obeys (configuring good) :=
  configuring_of_within (.run_lift (r.reportFailure_uses ..)) (by decide)

theorem updateLVMDConfigAfterReconcile_obeys
    {oldConfig newConfig : Lvmd.Config}
    {wasMissing : Bool}
    (isGood : good newConfig) :
    (r.updateLVMDConfigAfterReconcile vg oldConfig newConfig wasMissing).Obeys
      (configuring good) := by
  have stores : (do
      Fallible.mapError
        (GoError.wrapped ("failed to update lvmd config file to update volume " ++
          "group " ++ vg.name))
        (Lvmd.CachedFileConfig.save r.lvmd newConfig)
      r.normalEvent vg "LVMDConfigUpdated" "updated lvmd config with new deviceClasses" :
        Go Unit).Obeys (configuring good) :=
    .run_bind (.run_mapError (Lvmd.CachedFileConfig.save_obeys isGood)) fun _ _ =>
      configuring_of_within (.run_lift (r.normalEvent_uses ..)) (by decide)
  dsimp only [updateLVMDConfigAfterReconcile]
  split
  · trivial
  · split
    · exact .run_bind (configuring_of_within (.run_lift (r.normalEvent_uses ..))
        (by decide)) fun _ _ => stores
    · exact stores

/-- A device class is added to a good configuration. -/
theorem applyLVMDConfig_obeys (keeps : KeepsGood good vg) :
    (r.applyLVMDConfig vg vgs devices).Obeys (configuring good) := by
  refine .run_bind (.run_attempt Lvmd.CachedFileConfig.load_obeys) fun loaded isGood => ?_
  cases loaded with
  | error error => exact .run_bind (reportFailure_obeys _) fun _ _ => trivial
  | ok loaded =>
      have configGood : good (loaded.getD {}) := by
        cases loaded with
        | none => exact keeps.empty
        | some config => exact isGood config rfl
      have changes : (Fallible.ofProgram (pure (withDeviceClass vg (loaded.getD {}))) :
          Go Lvmd.Config).run.Obeys (configuring good) (OnOk good) := by
        cases changed : withDeviceClass vg (loaded.getD {}) with
        | error error => trivial
        | ok newConfig => exact keeps.added _ _ configGood changed
      refine .run_bind changes fun newConfig newGood => ?_
      refine .run_bind (.run_attempt (updateLVMDConfigAfterReconcile_obeys newGood))
        fun stored _ => ?_
      cases stored with
      | ok done => trivial
      | error error => exact .run_bind (reportFailure_obeys _) fun _ _ => trivial

/-- What remains of a good configuration may be stored. -/
theorem storeRemaining_obeys
    {config : Option Lvmd.Config}
    (isGood : ∀ remaining ∈ config, good remaining) :
    (r.storeRemaining vg config).Obeys (configuring good) := by
  cases config with
  | none => trivial
  | some config =>
      dsimp only [storeRemaining]
      split
      · exact .run_bind (.run_mapError (.run_mapError (configuring_of_within
          (command_uses _) (by decide)))) fun _ _ =>
            configuring_of_within (.run_lift (r.normalEvent_uses ..)) (by decide)
      · exact .run_bind (.run_mapError (Lvmd.CachedFileConfig.save_obeys
          (isGood config rfl))) fun _ _ =>
            configuring_of_within (.run_lift (r.normalEvent_uses ..)) (by decide)

/-- A cleanup keeps the configuration good. -/
theorem processDelete_configures (keeps : KeepsGood good vg) :
    (r.processDelete vg).Obeys (configuring good) := by
  refine .run_bind (.run_mapError Lvmd.CachedFileConfig.load_obeys) fun loaded isGood => ?_
  refine .run_bind (configuring_of_within (r.cleanUpDisks_uses _) (by decide))
    fun _ _ => ?_
  refine .run_bind (storeRemaining_obeys ?_) fun _ _ =>
    configuring_of_within (r.releaseVolumeGroup_uses _) (by decide)
  intro remaining isRemaining
  obtain ⟨config, isConfig, rfl⟩ := Option.map_eq_some_iff.mp isRemaining
  exact keeps.removed config (isGood config isConfig)

theorem finishExisting_configures (keeps : KeepsGood good vg) :
    (r.finishExisting vg vgs devices).Obeys (configuring good) := by
  have last : (do
      r.applyLVMDConfig vg vgs devices
      r.announceReady vg vgs devices
      return determineFinishedRequeue vg : Go Result).Obeys (configuring good) :=
    .run_bind (applyLVMDConfig_obeys keeps) fun _ _ =>
      .run_bind (configuring_of_within (r.announceReady_uses ..) (by decide))
        fun _ _ => trivial
  dsimp only [finishExisting]
  split
  · exact .run_bind (configuring_of_within (r.validateOrFail_uses ..) (by decide))
      fun _ _ => last
  · exact last

theorem verifyExisting_configures
    {existing : VolumeGroup}
    (keeps : KeepsGood good vg) :
    (r.verifyExisting vg vgs devices existing).Obeys (configuring good) := by
  refine .run_bind (.run_attempt (configuring_of_within (r.deleteRemovedDevices_uses ..)
    (by decide))) fun deleted _ => ?_
  cases deleted with
  | error error => exact .run_bind (reportFailure_obeys _) fun _ _ => trivial
  | ok deleted =>
      dsimp only
      split
      · exact .run_bind (configuring_of_within refreshVGs_uses (by decide))
          fun _ _ => finishExisting_configures keeps
      · exact .run_bind (.run_of_uses trivial fun _ => id)
          fun _ _ => finishExisting_configures keeps

theorem reconcileExisting_configures (keeps : KeepsGood good vg) :
    (r.reconcileExisting vg vgs devices).Obeys (configuring good) := by
  unfold reconcileExisting
  split
  · exact configuring_of_within (r.failWith_uses ..) (by decide)
  · exact verifyExisting_configures keeps

theorem setUp_configures (keeps : KeepsGood good vg) :
    (r.setUp vg vgs devices).Obeys (configuring good) :=
  .run_bind (configuring_of_within (r.checkDeviceCount_uses ..) (by decide)) fun _ _ =>
    .run_bind (configuring_of_within (r.orFailWith_uses
      (within (addDevicesToVG_uses ..) (List.subset_append_left _ statusEffects))
      (List.subset_append_right ..)) (by decide)) fun _ _ =>
    .run_bind (configuring_of_within (r.setUpThinPool_uses ..) (by decide)) fun _ _ =>
    .run_bind (configuring_of_within refreshVGs_uses (by decide)) fun _ _ =>
    .run_bind (applyLVMDConfig_obeys keeps) fun _ _ =>
    .run_bind (configuring_of_within (r.announceReady_uses ..) (by decide))
      fun _ _ => trivial

theorem reconcileNew_configures (keeps : KeepsGood good vg) :
    (r.reconcileNew vg vgs devices).Obeys (configuring good) := by
  refine .run_bind (.run_attempt (configuring_of_within (r.finishStatus_uses ..)
    (by decide))) fun updated _ => ?_
  split
  · trivial
  · exact setUp_configures keeps

theorem reconcileDevices_configures
    {blockDevices : List BlockDevice}
    (keeps : KeepsGood good vg) :
    (r.reconcileDevices vg vgs blockDevices).Obeys (configuring good) := by
  refine .run_bind (.run_mapError (configuring_of_within (Lvm.listPVs_uses _)
    (by decide))) fun pvs _ => ?_
  refine .run_bind (configuring_of_within (.run_lift (blockDeviceInfos_uses _))
    (by decide)) fun bdi _ => ?_
  refine .run_bind (configuring_of_within (.run_lift (filterDevices_uses ..))
    (by decide)) fun devices _ => ?_
  refine .run_bind (configuring_of_within (r.checkMandatoryPaths_uses ..) (by decide))
    fun _ _ => ?_
  dsimp only
  split
  · exact reconcileExisting_configures keeps
  · exact reconcileNew_configures keeps

/-- A live volume group keeps the configuration good. -/
theorem reconcileLive_configures (keeps : KeepsGood good vg) :
    (r.reconcileLive vg).Obeys (configuring good) := by
  refine .run_bind (.run_mapError (configuring_of_within (query_uses _) (by decide)))
    fun blockDevices _ => ?_
  refine .run_bind (configuring_of_within refreshVGs_uses (by decide)) fun vgs _ => ?_
  split
  · refine .run_bind (configuring_of_within (.run_lift (r.warningEvent_uses ..))
      (by decide)) fun _ _ => ?_
    exact .run_bind (reportFailure_obeys _) fun _ _ => trivial
  · refine .run_bind (.run_mapError (configuring_of_within (wipeDevices_uses ..)
      (by decide))) fun wiped _ => ?_
    cases wiped with
    | some annotated =>
        exact .run_bind (configuring_of_within (Client.update_uses ..) (by decide))
          fun _ _ => trivial
    | none => exact reconcileDevices_configures keeps

/-- A reconciliation stores only good configurations. -/
theorem reconcile_configures (keeps : KeepsGood good vg) :
    (r.reconcile vg).Obeys (configuring good) := by
  dsimp only [reconcile]
  split
  · exact .run_bind (processDelete_configures keeps) fun _ _ => trivial
  · split
    · exact .run_bind (configuring_of_within (Client.update_uses ..) (by decide))
        fun _ _ => trivial
    · exact reconcileLive_configures keeps

variable {fits : String → LVMVolumeGroupSpec → Prop} {declared : LVMClusterSpec → Prop}

/-- A vg-manager keeps the configuration good. -/
theorem reconcileRequest_configures
    {name : String}
    (keeps : ∀ vg : LVMVolumeGroup, fits vg.name vg.spec → KeepsGood good vg) :
    (r.reconcileRequest name).Obeys ((writing fits declared).both (configuring good)) := by
  have reads : ∀ effect ∈ [Effect.read, .resolve],
      effect ∉ writeEffects ∧ effect ∉ [.writeFile, .cacheConfig] := by
    decide
  exact reconcileRequest_obeys_of
    (fun _ isRead => ⟨writing_allowed (reads _ isRead).1,
      configuring_allowed (reads _ isRead).2⟩)
    fun vg isExpected => .run_both (reconcile_obeys isExpected.1.2)
      (reconcile_configures (keeps vg isExpected.1.2))

end Reconciler

/-- If the volume groups that fit keep a rule for configurations, the configurations of
all nodes keep it throughout a reconciliation. -/
theorem ReconcileStep.configured
    {fits : String → LVMVolumeGroupSpec → Prop}
    {declared : LVMClusterSpec → Prop}
    {r : Reconciler}
    {name : String}
    {before : World}
    {events : List (Event sig World)}
    (step : ReconcileStep r name before events after)
    (keeps : ∀ vg : LVMVolumeGroup, fits vg.name vg.spec → Reconciler.KeepsGood good vg)
    (fitting : Fitting fits declared before)
    (configured : Configured good before) :
    (∀ event ∈ events, Configured good event.before) ∧ Configured good after := by
  obtain ⟨result, ran⟩ := step
  have kept (choice : Choice) (world : World) (request : Request)
      (isAllowed : ((writing fits declared).both (configuring good)).allowed request)
      (holds : Fitting fits declared world ∧ Configured good world) :
      ((writing fits declared).both (configuring good)).expected request
          (World.respond r.nodeName choice world request).1 ∧
        Fitting fits declared (World.respond r.nodeName choice world request).2 ∧
        Configured good (World.respond r.nodeName choice world request).2 :=
    ⟨⟨respond_expected holds.1, respond_reports_good holds.2⟩,
      respond_fitting isAllowed.1 holds.1, respond_configured isAllowed.2 holds.2⟩
  obtain ⟨throughout, final, -⟩ :=
    (Reconciler.reconcileRequest_configures keeps).sound kept ran ⟨fitting, configured⟩
  exact ⟨fun event member => (throughout event member).2.2, final.2⟩

end Lvms
