import Lvms.Effects
import Lvms.VgManager.Controller

/-!
# Footprints of the vg-manager

For every function of the vg-manager, the classes of the calls it can make. A
footprint follows the code: that of a function is put together from those of the
functions it calls.
-/

namespace Lvms

open Interaction Interaction.Program

/-- The classes of the calls that set a status. -/
def statusEffects : List Effect :=
  [.read, .report, .create .nodeStatus, .update .nodeStatus]

/-- The classes of the calls that add a device class to the configuration of
lvmd. -/
def configEffects : List Effect :=
  .cacheConfig :: .writeFile :: statusEffects

/-- The classes of the calls that save the configuration of lvmd. -/
def saveEffects : List Effect :=
  [.read, .report, .cacheConfig, .writeFile]

/-- The classes of the calls that remove a device class from the configuration of
lvmd. -/
def storeEffects : List Effect :=
  [.read, .report, .cacheConfig, .writeFile, .removeFile]

/-- The classes of the calls that clean up after a deletion. -/
def deleteEffects : List Effect :=
  .update .volumeGroup :: .destroy :: .shrink :: .removeFile :: configEffects

/-- The classes of the calls that verify an existing volume group. -/
def verifyEffects : List Effect :=
  .resolve :: .shrink :: .tunePool :: configEffects

/-- The classes of the calls that use the devices of a volume group. -/
def setUpEffects : List Effect :=
  .grow :: .createPool :: verifyEffects

/-! ## LVM -/

namespace Lvm

theorem createVG_uses (vg : VolumeGroup) (isWiped : Bool) :
    (createVG vg isWiped).run.Uses (Within [.grow]) := by
  dsimp only [createVG]
  split
  · trivial
  · split
    · trivial
    · exact .run_mapError (command_uses _)

theorem extendVG_uses (vg : VolumeGroup) (pvs : List String) :
    (extendVG vg pvs).run.Uses (Within [.grow]) := by
  dsimp only [extendVG]
  split
  · trivial
  · split
    · trivial
    · exact .run_bind (.run_mapError (command_uses _)) fun _ => trivial

theorem deletePVIDs_uses (vgName : String) (pvs : List PhysicalVolume) :
    (deletePVIDs vgName pvs).run.Uses (Within [.destroy]) := by
  induction pvs with
  | nil => trivial
  | cons pv rest inductionHypothesis =>
      refine .run_bind (.run_attempt (command_uses _)) fun removed => ?_
      cases removed with
      | ok _ => exact inductionHypothesis
      | error error =>
          dsimp only
          split
          · exact inductionHypothesis
          · trivial

theorem deleteVG_uses (vg : VolumeGroup) :
    (deleteVG vg).run.Uses (Within [.destroy, .shrink]) := by
  refine .run_bind (.run_mapError (within (command_uses _) (by simp [Command.effect])))
    fun _ => ?_
  refine .run_bind (.run_mapError (within (command_uses _) (by simp [Command.effect])))
    fun _ => ?_
  refine .run_bind (.run_mapError (within (command_uses _) (by simp [Command.effect])))
    fun _ => ?_
  exact within (deletePVIDs_uses ..) (by simp)

theorem listPVs_uses (vgName : String) :
    (listPVs vgName).run.Uses (Within [.read]) :=
  .run_bind (query_uses _) fun _ => trivial

theorem getVG_uses (name : String) :
    (getVG name).run.Uses (Within [.read]) := by
  refine .run_bind (.run_mapError (query_uses _)) fun report => ?_
  split
  · trivial
  · exact .run_bind (.run_mapError (listPVs_uses _)) fun _ => trivial

theorem listVGs_uses (tagged : Bool) :
    (listVGs tagged).run.Uses (Within [.read]) :=
  .run_bind (.run_mapError (query_uses _)) fun _ =>
    .run_bind (.run_mapError (listPVs_uses _)) fun _ => trivial

theorem listLVs_uses (vgName : String) :
    (listLVs vgName).run.Uses (Within [.read]) :=
  query_uses _

theorem listLVsByName_uses (vgName : String) :
    (listLVsByName vgName).run.Uses (Within [.read]) := by
  unfold listLVsByName
  split
  · trivial
  · exact .run_bind (listLVs_uses _) fun _ => trivial

theorem lvExists_uses (lvName vgName : String) :
    (lvExists lvName vgName).run.Uses (Within [.read]) :=
  .run_bind (listLVsByName_uses _) fun _ => trivial

theorem checkNames_uses
    {allowed : Request → Prop}
    (action lvName vgName : String) :
    (checkNames action lvName vgName).run.Uses allowed := by
  dsimp only [checkNames]
  split
  · trivial
  · split <;> trivial

theorem deleteLV_uses (lvName vgName : String) :
    (deleteLV lvName vgName).run.Uses (Within [.destroy]) :=
  .run_bind (checkNames_uses ..) fun _ =>
    .run_bind (.run_mapError (command_uses _)) fun _ =>
      .run_mapError (command_uses _)

theorem createLV_uses
    (lvName vgName : String)
    (sizePercent chunkSizeBytes metadataSizeBytes : Int) :
    (createLV lvName vgName sizePercent chunkSizeBytes
      metadataSizeBytes).run.Uses (Within [.createPool]) := by
  refine .run_bind (checkNames_uses ..) fun _ => ?_
  dsimp only
  split
  · trivial
  · exact .run_mapError (command_uses _)

theorem extendLV_uses (lvName vgName : String) (sizePercent : Int) :
    (extendLV lvName vgName sizePercent).run.Uses (Within [.tunePool]) := by
  refine .run_bind (checkNames_uses ..) fun _ => ?_
  dsimp only
  split
  · trivial
  · exact .run_mapError (command_uses _)

theorem extendThinPoolMetadata_uses
    (lvName vgName : String)
    (metadataSizeBytes : Int) :
    (extendThinPoolMetadata lvName vgName metadataSizeBytes).run.Uses
      (Within [.tunePool]) := by
  refine .run_bind (checkNames_uses ..) fun _ => ?_
  dsimp only
  split
  · trivial
  · exact .run_mapError (command_uses _)

theorem activateLV_uses (lvName vgName : String) :
    (activateLV lvName vgName).run.Uses (Within [.tunePool]) :=
  .run_bind (checkNames_uses ..) fun _ => .run_mapError (command_uses _)

end Lvm

/-! ## Devices -/

theorem resolve_uses (path : String) :
    (resolve path).run.Uses (Within [.read, .resolve]) := by
  refine .run_bind (.run_lift (call_uses _ (by simp [Request.effect]))) fun cached => ?_
  cases cached with
  | some target => trivial
  | none =>
      exact .run_bind (within (query_uses _) (by simp)) fun _ =>
        .run_bind (.run_lift (call_uses _ (by simp [Request.effect]))) fun _ => trivial

theorem collectInfos_uses
    (flattened : GoMap BlockDevice)
    (infos : GoMap Bool)
    (knames : List String) :
    (collectInfos flattened infos knames).Uses (Within [.read]) := by
  induction knames generalizing infos with
  | nil => trivial
  | cons kname rest inductionHypothesis =>
      rw [collectInfos]
      split
      · split
        · refine .bind (.bind (query_uses _) fun answered => ?_)
            fun _ => inductionHypothesis _
          cases answered <;> trivial
        · exact inductionHypothesis _
      · exact inductionHypothesis _

theorem blockDeviceInfos_uses (devices : List BlockDevice) :
    (blockDeviceInfos devices).Uses (Within [.read]) :=
  .bind (mapOrder_uses _) fun _ => collectInfos_uses ..

theorem resolvesTo_uses (kname : String) (paths : List DevicePath) :
    (resolvesTo kname paths).Uses (Within [.read, .resolve]) := by
  induction paths with
  | nil => trivial
  | cons path rest inductionHypothesis =>
      refine .bind (resolve_uses _) fun resolved => ?_
      cases resolved <;> dsimp only <;> split
      all_goals trivial

theorem findPV_uses (kname : String) (pvs : List PhysicalVolume) :
    (findPV kname pvs).run.Uses (Within [.read, .resolve]) := by
  induction pvs with
  | nil => trivial
  | cons pv rest inductionHypothesis =>
      refine .run_bind (.run_mapError (resolve_uses _)) fun resolved => ?_
      split
      · trivial
      · exact inductionHypothesis

theorem partOfDeviceSelector_uses
    (options : FilterOptions)
    (device : BlockDevice) :
    (partOfDeviceSelector options device).run.Uses (Within [.read, .resolve]) := by
  unfold partOfDeviceSelector
  split
  · trivial
  · refine .run_bind (.run_lift (resolvesTo_uses ..)) fun found => ?_
    split <;> trivial

theorem onlyValidFilesystemSignatures_uses
    (options : FilterOptions)
    (device : BlockDevice) :
    (onlyValidFilesystemSignatures options device).run.Uses (Within [.read, .resolve]) := by
  dsimp only [onlyValidFilesystemSignatures]
  split
  · trivial
  · split
    · refine .run_bind (findPV_uses ..) fun found => ?_
      cases found with
      | none => trivial
      | some pv =>
          dsimp only
          repeat' split
          all_goals trivial
    · trivial

/-- The filters only read. -/
theorem defaultFilters_uses
    {options : FilterOptions}
    {name : String}
    {check : BlockDevice → Go Unit}
    (found : (name, check) ∈ defaultFilters options)
    (device : BlockDevice) :
    (check device).run.Uses (Within [.read, .resolve]) := by
  simp only [defaultFilters, List.mem_cons, Prod.mk.injEq, List.not_mem_nil,
    or_false] at found
  rcases found with ⟨_, rfl⟩ | ⟨_, rfl⟩ | ⟨_, rfl⟩ | ⟨_, rfl⟩ | ⟨_, rfl⟩ |
    ⟨_, rfl⟩ | ⟨_, rfl⟩
  · exact partOfDeviceSelector_uses ..
  · dsimp only [notReadOnly]
    split <;> trivial
  · dsimp only [notSuspended]
    split <;> trivial
  · dsimp only [noInvalidPartitionLabel]
    split <;> trivial
  · exact onlyValidFilesystemSignatures_uses ..
  · dsimp only [noChildren]
    split <;> trivial
  · dsimp only [usableDeviceType]
    repeat' split
    all_goals trivial

theorem verifyMandatoryDevicePaths_uses
    (devices : FilteredBlockDevices)
    (paths : List DevicePath) :
    (verifyMandatoryDevicePaths devices paths).run.Uses (Within [.read, .resolve]) := by
  induction paths with
  | nil => trivial
  | cons path rest inductionHypothesis =>
      refine .run_bind (.run_mapError (resolve_uses _)) fun resolved => ?_
      dsimp only
      split
      · trivial
      · exact inductionHypothesis

/-- Looking up a map finds one of its entries. -/
theorem GoMap.mem_of_get?
    {α : Type}
    {entries : GoMap α}
    {key : String}
    {value : α}
    (found : entries.get? key = some value) :
    (key, value) ∈ entries := by
  induction entries with
  | nil => cases found
  | cons entry rest inductionHypothesis =>
      obtain ⟨other, old⟩ := entry
      rw [GoMap.get?, List.lookup_cons] at found
      split at found
      · rename_i equal
        obtain rfl := eq_of_beq equal
        obtain rfl := Option.some.inj found
        exact .head _
      · exact .tail _ (inductionHypothesis found)

section Filters

variable {filters : GoMap (BlockDevice → Go Unit)}

theorem filterErrors_uses
    (checks : ∀ name check, (name, check) ∈ filters → ∀ device,
      (check device).run.Uses (Within [.read, .resolve]))
    (device : BlockDevice)
    (names : List String) :
    (filterErrors filters device names).Uses (Within [.read, .resolve]) := by
  induction names with
  | nil => trivial
  | cons name rest inductionHypothesis =>
      rw [filterErrors]
      split
      · exact inductionHypothesis
      · rename_i check found
        refine .bind (checks _ _ (GoMap.mem_of_get? found) _) fun result => ?_
        cases result with
        | ok _ => exact inductionHypothesis
        | error error => exact .bind inductionHypothesis fun _ => trivial

theorem finish_uses (state : FilterState) :
    state.finish.Uses (Within [.read, .resolve]) :=
  .bind (.bind (within (mapOrder_uses _) (by simp)) fun _ => trivial) fun _ =>
    .bind (.bind (within (mapOrder_uses _) (by simp)) fun _ => trivial) fun _ => trivial

theorem classify_uses
    (checks : ∀ name check, (name, check) ∈ filters → ∀ device,
      (check device).run.Uses (Within [.read, .resolve]))
    (device : BlockDevice)
    (state : FilterState) :
    (classify filters device state).Uses (Within [.read, .resolve]) := by
  refine .bind (within (mapOrder_uses _) (by simp)) fun order => ?_
  refine .bind (filterErrors_uses checks _ order) fun errors => ?_
  split <;> trivial

mutual

theorem filterDevice_uses
    (checks : ∀ name check, (name, check) ∈ filters → ∀ device,
      (check device).run.Uses (Within [.read, .resolve]))
    (state : FilterState) :
    (device : BlockDevice) →
      (filterDevice filters state device).Uses (Within [.read, .resolve])
  | .mk _ _ _ _ _ _ _ children => by
      rw [filterDevice]
      dsimp only
      split
      · exact .bind trivial fun _ => classify_uses checks ..
      · exact .bind (filterLoop_uses checks {} children) fun _ =>
          .bind (finish_uses _) fun _ => classify_uses checks ..

theorem filterLoop_uses
    (checks : ∀ name check, (name, check) ∈ filters → ∀ device,
      (check device).run.Uses (Within [.read, .resolve]))
    (state : FilterState) :
    (devices : List BlockDevice) →
      (filterLoop filters state devices).Uses (Within [.read, .resolve])
  | [] => trivial
  | device :: rest =>
      .bind (filterDevice_uses checks state device) fun _ =>
        filterLoop_uses checks _ rest

end

end Filters

theorem filterDevices_uses (options : FilterOptions) (devices : List BlockDevice) :
    (filterDevices (defaultFilters options) devices).Uses (Within [.read, .resolve]) :=
  .bind (filterLoop_uses (fun _ _ => defaultFilters_uses) _ _) fun _ =>
    finish_uses _

theorem addDevicesToVG_uses
    (vgs : List VolumeGroup)
    (vgName : String)
    (devices : List BlockDevice)
    (isWiped : Bool) :
    (addDevicesToVG vgs vgName devices isWiped).run.Uses (Within [.grow]) := by
  dsimp only [addDevicesToVG]
  split
  · trivial
  · split
    · exact .run_bind (.run_mapError (Lvm.extendVG_uses ..)) fun _ => trivial
    · exact .run_mapError (Lvm.createVG_uses ..)

theorem buildDevicePathMappings_uses (vg : LVMVolumeGroup) :
    (buildDevicePathMappings vg).run.Uses (Within [.read, .resolve]) := by
  have required (paths : List DevicePath) :
      (resolveRequired paths).run.Uses (Within [.read, .resolve]) := by
    induction paths with
    | nil => trivial
    | cons path rest inductionHypothesis =>
        exact .run_bind (.run_mapError (resolve_uses _)) fun _ =>
          .run_bind inductionHypothesis fun _ => trivial
  have optional (paths : List DevicePath) :
      (resolveOptional paths).Uses (Within [.read, .resolve]) := by
    induction paths with
    | nil => trivial
    | cons path rest inductionHypothesis =>
        refine .bind (resolve_uses _) fun resolved => ?_
        cases resolved with
        | ok target => exact .bind inductionHypothesis fun _ => trivial
        | error error => exact inductionHypothesis
  unfold buildDevicePathMappings
  split
  · trivial
  · exact .run_bind (required _) fun _ =>
      .run_bind (.run_lift (optional _)) fun _ => trivial

/-! ## Wiping -/

theorem dmsetupRemove_uses (deviceName : String) :
    (dmsetupRemove deviceName).run.Uses (Within [.wipe]) := by
  dsimp only [dmsetupRemove]
  split
  · trivial
  · refine .run_bind (.run_attempt (command_uses _)) fun removed => ?_
    cases removed with
    | ok _ => trivial
    | error error =>
        dsimp only
        split <;> trivial

theorem wipe_uses (deviceName : String) :
    (wipe deviceName).run.Uses (Within [.wipe]) := by
  dsimp only [wipe]
  split
  · trivial
  · exact .run_mapError (command_uses _)

mutual

theorem removeMapperReference_uses :
    (device : BlockDevice) → (removeMapperReference device).Uses (Within [.wipe])
  | .mk _ _ _ _ _ _ _ children => by
      rw [removeMapperReference]
      refine .bind (removeMapperReferences_uses children) fun _ => ?_
      split
      · trivial
      · exact .bind (dmsetupRemove_uses _) fun _ => trivial

theorem removeMapperReferences_uses :
    (devices : List BlockDevice) →
      (removeMapperReferences devices).Uses (Within [.wipe])
  | [] => trivial
  | device :: rest =>
      .bind (removeMapperReference_uses device) fun _ =>
        removeMapperReferences_uses rest

end

mutual

theorem wipeIfNamed_uses (deviceName : String) :
    (device : BlockDevice) → (wipeIfNamed deviceName device).run.Uses (Within [.wipe])
  | .mk _ _ _ _ _ _ _ children => by
      rw [wipeIfNamed]
      split
      · exact .run_bind (.run_lift (removeMapperReferences_uses _)) fun _ =>
          .run_bind (wipe_uses _) fun _ => trivial
      · exact .run_bind (wipeDevice_uses deviceName children) fun _ => trivial

theorem wipeDevice_uses (deviceName : String) :
    (devices : List BlockDevice) →
      (wipeDevice deviceName devices).run.Uses (Within [.wipe])
  | [] => trivial
  | device :: rest => by
      refine .run_bind (wipeIfNamed_uses deviceName device) fun wiped => ?_
      dsimp only
      split
      · trivial
      · exact .run_bind (wipeDevice_uses deviceName rest) fun _ => trivial

end

theorem wipePaths_uses (blockDevices : List BlockDevice) (paths : List DevicePath) :
    (wipePaths blockDevices paths).run.Uses (Within [.read, .resolve, .wipe]) := by
  induction paths with
  | nil => trivial
  | cons path rest inductionHypothesis =>
      exact .run_bind (.run_mapError (within (resolve_uses _) (by simp)))
        fun _ => .run_bind (.run_mapError (within (wipeDevice_uses ..) (by simp)))
          fun _ => .run_bind inductionHypothesis fun _ => trivial

theorem wipeOptionalPaths_uses
    (blockDevices : List BlockDevice)
    (paths : List DevicePath) :
    (wipeOptionalPaths blockDevices paths).Uses (Within [.read, .resolve, .wipe]) := by
  induction paths with
  | nil => trivial
  | cons path rest inductionHypothesis =>
      exact .bind (within (resolve_uses _) (by simp)) fun _ =>
        .bind (within (wipeDevice_uses ..) (by simp)) fun _ =>
          .bind inductionHypothesis fun _ => trivial

theorem wipeDevices_uses
    (nodeName : String)
    (vg : LVMVolumeGroup)
    (blockDevices : List BlockDevice) :
    (wipeDevices nodeName vg blockDevices).run.Uses (Within [.read, .resolve, .wipe]) := by
  dsimp only [wipeDevices]
  split
  · trivial
  · refine .run_bind (wipePaths_uses ..) fun wiped => ?_
    refine .run_bind (.run_lift (wipeOptionalPaths_uses ..)) fun wipedOptional => ?_
    split
    · exact .run_bind (.run_lift (call_uses _ (.head _))) fun _ => trivial
    · trivial

/-! ## The configuration of lvmd -/

theorem Lvmd.FileConfig.load_uses (file : FileConfig) :
    file.load.run.Uses (Within [.read]) := by
  refine .run_bind (.run_mapError (query_uses _)) fun found => ?_
  split
  · trivial
  · refine .run_bind (.run_mapError (query_uses _)) fun content => ?_
    cases content <;> trivial

namespace Lvmd.CachedFileConfig

theorem load_uses (file : FileConfig) :
    (load file).run.Uses (Within [.read, .cacheConfig]) := by
  refine .run_bind (.run_lift (call_uses _ (.head _))) fun cached => ?_
  cases cached with
  | some config => trivial
  | none =>
      exact .run_bind (within file.load_uses (by simp)) fun _ =>
        .run_bind (.run_lift (call_uses _ (.tail _ (.head _)))) fun _ => trivial

theorem save_uses (file : FileConfig) (config : Config) :
    (save file config).run.Uses (Within [.read, .cacheConfig, .writeFile]) := by
  refine .run_bind (.run_lift (call_uses _ (.head _))) fun cached => ?_
  split
  · trivial
  · exact .run_bind (.run_lift (call_uses _ (.tail _ (.head _)))) fun _ =>
      .run_mapError (call_uses _ (.tail _ (.tail _ (.head _))))

theorem delete_uses (file : FileConfig) :
    (delete file).run.Uses (Within [.removeFile]) :=
  .run_mapError (command_uses _)

end Lvmd.CachedFileConfig

/-! ## Status and events -/

namespace Reconciler

variable (r : Reconciler)

theorem ownerEvents_uses
    (warning : Bool)
    (reason message : String)
    (references : List OwnerReference) :
    (ownerEvents warning reason message references).Uses (Within [.report]) := by
  induction references with
  | nil => trivial
  | cons reference rest inductionHypothesis =>
      exact .bind (eventf_uses ..) fun _ => inductionHypothesis

theorem warningEvent_uses (vg : LVMVolumeGroup) (reason : String) (error : GoError) :
    (r.warningEvent vg reason error).Uses (Within [.read, .report]) := by
  refine .bind (within (Client.get_uses ..) (by simp)) fun found => ?_
  have rest (message ownerMessage : String) :
      (ownerEvents true reason ownerMessage vg.metadata.ownerReferences >>= fun _ =>
        eventf vg.name true reason message).Uses (Within [.read, .report]) :=
    within (.bind (ownerEvents_uses ..) fun _ => eventf_uses ..) (by simp)
  cases found with
  | ok status => exact .bind (within (eventf_uses ..) (by simp)) fun _ => rest ..
  | error missing => exact rest ..

theorem normalEvent_uses (vg : LVMVolumeGroup) (reason message : String) :
    (r.normalEvent vg reason message).Uses (Within [.read, .report]) := by
  dsimp only [normalEvent]
  split
  · trivial
  · refine .bind (within (Client.get_uses ..) (by simp)) fun found => ?_
    have rest (message ownerMessage : String) :
        (ownerEvents false reason ownerMessage vg.metadata.ownerReferences >>=
          fun _ => eventf vg.name false reason message).Uses
            (Within [.read, .report]) :=
      within (.bind (ownerEvents_uses ..) fun _ => eventf_uses ..) (by simp)
    cases found with
    | ok status => exact .bind (within (eventf_uses ..) (by simp)) fun _ => rest ..
    | error missing => exact rest ..

theorem applyRAIDStatus_uses
    (vg : LVMVolumeGroup)
    (config : RAIDConfig)
    (vgs : List VolumeGroup)
    (status : VGStatus) :
    (r.applyRAIDStatus vg config vgs status).run.Uses
      (Within [.read, .report]) := by
  refine .run_bind (.run_mapError (within (Lvm.listLVs_uses _) (by simp)))
    fun report => ?_
  refine .run_bind (.run_lift (call_uses _ (.tail _ (.head _)))) fun _ => ?_
  split <;> trivial

theorem setVolumeGroupStatus_uses (vg : LVMVolumeGroup) (status : VGStatus) :
    (r.setVolumeGroupStatus vg status).run.Uses (Within statusEffects) :=
  .run_bind (.run_mapError (within (Client.createOrUpdate_uses ..) (by decide)))
    fun _ => trivial

theorem finishStatus_uses
    (vg : LVMVolumeGroup)
    (vgs : List VolumeGroup)
    (status : VGStatus) :
    (r.finishStatus vg vgs status).run.Uses (Within statusEffects) := by
  unfold finishStatus
  split
  · exact r.setVolumeGroupStatus_uses ..
  · exact .run_bind
      (.run_mapError (within (r.applyRAIDStatus_uses ..) (by decide)))
      fun _ => r.setVolumeGroupStatus_uses ..

theorem reportFailure_uses
    (vg : LVMVolumeGroup)
    (vgs : List VolumeGroup)
    (devices : FilteredBlockDevices)
    (error : GoError) :
    (r.reportFailure vg vgs devices error).Uses (Within statusEffects) :=
  .bind (r.finishStatus_uses ..) fun _ => trivial

theorem removeVolumeGroupStatus_uses (vg : LVMVolumeGroup) :
    (r.removeVolumeGroupStatus vg).run.Uses (Within statusEffects) := by
  have rest (mutate) :
      (Client.createOrUpdate .nodeStatus { metadata := { name := r.nodeName } }
        mutate).run.Uses (Within statusEffects) :=
    within (Client.createOrUpdate_uses ..) (by decide)
  dsimp only [removeVolumeGroupStatus]
  split
  · exact .run_bind (.run_lift (call_uses _ (.tail _ (.head _)))) fun _ =>
      .run_bind (.run_mapError (rest _)) fun _ => trivial
  · exact .run_bind (.run_mapError (rest _)) fun _ => trivial

/-! ## Thin pools -/

theorem verifyMetadataSize_uses
    (vgName lvName lvMetadataSize : String)
    (newMetadataSize : Int) :
    (r.verifyMetadataSize vgName lvName lvMetadataSize newMetadataSize).run.Uses
      (Within [.tunePool]) := by
  dsimp only [verifyMetadataSize]
  split
  · trivial
  · refine .run_bind (.run_mapError trivial) fun current => ?_
    split
    · trivial
    · exact .run_mapError (Lvm.extendThinPoolMetadata_uses ..)

theorem ensureActiveThinPool_uses (vgName : String) (lv : LogicalVolume) :
    (ensureActiveThinPool vgName lv).run.Uses (Within [.tunePool]) := by
  refine .run_bind (.run_mapError trivial) fun attr => ?_
  dsimp only
  split
  · trivial
  · split
    · exact .run_mapError (Lvm.activateLV_uses ..)
    · trivial

theorem verifyThinPoolSizes_uses
    (vgName : String)
    (config : ThinPoolConfig)
    (lv : LogicalVolume) :
    (r.verifyThinPoolSizes vgName config lv).run.Uses (Within [.tunePool]) := by
  refine .run_bind (.run_mapError trivial) fun percentage => ?_
  dsimp only
  split
  · trivial
  · exact .run_bind trivial fun _ => .run_mapError (r.verifyMetadataSize_uses ..)

theorem validateRows_uses
    (vgName : String)
    (config : ThinPoolConfig)
    (found : Bool)
    (lvs : List LogicalVolume) :
    (r.validateRows vgName config found lvs).run.Uses (Within [.tunePool]) := by
  induction lvs generalizing found with
  | nil => trivial
  | cons lv rest inductionHypothesis =>
      rw [validateRows]
      split
      · exact inductionHypothesis _
      · exact .run_bind (ensureActiveThinPool_uses ..) fun _ =>
          .run_bind (r.verifyThinPoolSizes_uses ..) fun _ => inductionHypothesis _

theorem validateReports_uses
    (vgName : String)
    (config : ThinPoolConfig)
    (report : List (List LogicalVolume)) :
    (r.validateReports vgName config report).run.Uses (Within [.tunePool]) := by
  induction report with
  | nil => trivial
  | cons rows rest inductionHypothesis =>
      dsimp only [validateReports]
      split
      · trivial
      · refine .run_bind (r.validateRows_uses ..) fun found => ?_
        split
        · trivial
        · exact inductionHypothesis

theorem validateLVs_uses (vg : LVMVolumeGroup) :
    (r.validateLVs vg).run.Uses (Within [.read, .tunePool]) := by
  unfold validateLVs
  split
  · trivial
  · refine .run_bind (.run_mapError (within (Lvm.listLVs_uses _) (by simp)))
      fun report => ?_
    dsimp only
    split
    · trivial
    · exact within (r.validateReports_uses ..) (by simp)

theorem extendThinPool_uses
    (vgName lvSize : String)
    (config : ThinPoolConfig) :
    (r.extendThinPool vgName lvSize config).run.Uses
      (Within [.read, .tunePool]) := by
  dsimp only [extendThinPool]
  split
  · trivial
  · refine .run_bind (.run_mapError trivial) fun thinPoolSize => ?_
    refine .run_bind (.run_mapError (within (Lvm.getVG_uses _) (by simp)))
      fun vg => ?_
    split
    · trivial
    · refine .run_bind (.run_mapError trivial) fun vgSize => ?_
      split
      · trivial
      · exact .run_mapError (within (Lvm.extendLV_uses ..) (by simp))

theorem addThinPoolToVG_uses (vgName : String) (config : ThinPoolConfig) :
    (r.addThinPoolToVG vgName config).run.Uses
      (Within [.read, .createPool, .tunePool]) := by
  refine .run_bind (.run_mapError (within (Lvm.listLVs_uses _) (by simp)))
    fun report => ?_
  split
  · refine .run_bind (.run_mapError trivial) fun attr => ?_
    split
    · exact .run_mapError (within (r.extendThinPool_uses ..) (by simp))
    · trivial
  · exact .run_mapError (within (Lvm.createLV_uses ..) (by simp))

/-! ## The configuration of lvmd -/

theorem updateLVMDConfigAfterReconcile_uses
    (vg : LVMVolumeGroup)
    (oldConfig newConfig : Lvmd.Config)
    (wasMissing : Bool) :
    (r.updateLVMDConfigAfterReconcile vg oldConfig newConfig wasMissing).run.Uses
      (Within saveEffects) := by
  have announce (reason message : String) :
      (r.normalEvent vg reason message).Uses (Within saveEffects) :=
    within (r.normalEvent_uses ..) (by decide)
  have save : (Lvmd.CachedFileConfig.save r.lvmd newConfig).run.Uses
      (Within saveEffects) :=
    within (Lvmd.CachedFileConfig.save_uses ..) (by decide)
  dsimp only [updateLVMDConfigAfterReconcile]
  split
  · trivial
  · split
    · exact .run_bind (.run_lift (announce ..)) fun _ =>
        .run_bind (.run_mapError save) fun _ => .run_lift (announce ..)
    · exact .run_bind (.run_mapError save) fun _ => .run_lift (announce ..)

theorem applyLVMDConfig_uses
    (vg : LVMVolumeGroup)
    (vgs : List VolumeGroup)
    (devices : FilteredBlockDevices) :
    (r.applyLVMDConfig vg vgs devices).run.Uses (Within configEffects) := by
  have report (error : GoError) :
      (r.reportFailure vg vgs devices error).Uses (Within configEffects) :=
    within (r.reportFailure_uses ..) (by decide)
  refine .run_bind (.run_attempt
    (within (Lvmd.CachedFileConfig.load_uses _) (by decide))) fun loaded => ?_
  cases loaded with
  | error error => exact .run_bind (.run_lift (report _)) fun _ => trivial
  | ok config =>
      refine .run_bind trivial fun newConfig => ?_
      refine .run_bind (.run_attempt
        (within (r.updateLVMDConfigAfterReconcile_uses ..) (by decide))) fun updated => ?_
      cases updated with
      | ok _ => trivial
      | error error => exact .run_bind (.run_lift (report _)) fun _ => trivial

/-! ## Deletion -/

theorem isRetainPolicy_uses (vg : LVMVolumeGroup) :
    (isRetainPolicy vg).Uses (Within [.read]) := by
  refine .bind (Client.get_uses ..) fun found => ?_
  cases found with
  | ok storageClass => trivial
  | error error =>
      dsimp only
      split <;> trivial

theorem checkRetained_uses (vg : LVMVolumeGroup) :
    (r.checkRetained vg).run.Uses (Within [.read, .report]) := by
  refine .run_bind (.run_lift (within (isRetainPolicy_uses _) (by simp)))
    fun policy => ?_
  dsimp only
  split
  · refine .run_bind (.run_mapError (within (Lvm.listLVsByName_uses _) (by simp)))
      fun lvs => ?_
    split
    · exact .run_bind (.run_lift (r.warningEvent_uses ..)) fun _ => trivial
    · trivial
  · trivial

theorem deleteThinPool_uses
    (vg : LVMVolumeGroup)
    (vgs : List VolumeGroup)
    (config : ThinPoolConfig) :
    (r.deleteThinPool vg vgs config).run.Uses (Within (.destroy :: statusEffects)) := by
  refine .run_bind (.run_mapError (within (Lvm.lvExists_uses ..) (by decide)))
    fun found => ?_
  split
  · refine .run_bind (.run_attempt (within (Lvm.deleteLV_uses ..) (by decide)))
      fun removed => ?_
    cases removed with
    | ok _ => trivial
    | error error =>
        exact .run_bind (.run_lift (within (r.reportFailure_uses ..) (by decide)))
          fun _ => trivial
  · trivial

theorem deleteVolumeGroup_uses
    (vg : LVMVolumeGroup)
    (vgs : List VolumeGroup)
    (existing : VolumeGroup) :
    (r.deleteVolumeGroup vg vgs existing).run.Uses
      (Within (.shrink :: .destroy :: statusEffects)) := by
  refine .run_bind (.run_attempt (within (Lvm.deleteVG_uses _) (by decide)))
    fun removed => ?_
  cases removed with
  | ok _ => trivial
  | error error =>
      exact .run_bind (.run_lift (within (r.reportFailure_uses ..) (by decide)))
        fun _ => trivial

theorem deleteDisks_uses
    (vg : LVMVolumeGroup)
    (vgs : List VolumeGroup)
    (existing : VolumeGroup) :
    (r.deleteDisks vg vgs existing).run.Uses
      (Within (.shrink :: .destroy :: statusEffects)) := by
  dsimp only [deleteDisks]
  split
  · exact .run_bind (within (r.deleteThinPool_uses ..) (by decide)) fun _ =>
      r.deleteVolumeGroup_uses ..
  · exact r.deleteVolumeGroup_uses ..

theorem cleanUpDisks_uses (vg : LVMVolumeGroup) :
    (r.cleanUpDisks vg).run.Uses
      (Within (.shrink :: .destroy :: statusEffects)) := by
  refine .run_bind (.run_mapError (within (Lvm.listVGs_uses _) (by decide)))
    fun vgs => ?_
  split
  · trivial
  · exact .run_bind (within (r.checkRetained_uses _) (by decide)) fun _ =>
      r.deleteDisks_uses ..

theorem storeRemaining_uses
    (vg : LVMVolumeGroup)
    (remaining : Option Lvmd.Config) :
    (r.storeRemaining vg remaining).run.Uses
      (Within storeEffects) := by
  have announce (reason message : String) :
      (liftM (r.normalEvent vg reason message) : Go Unit).run.Uses
        (Within storeEffects) :=
    .run_lift (within (r.normalEvent_uses ..) (by decide))
  cases remaining with
  | none => trivial
  | some config =>
      dsimp only [storeRemaining]
      split
      · exact .run_bind (.run_mapError
          (within (Lvmd.CachedFileConfig.delete_uses _) (by decide)))
          fun _ => announce ..
      · exact .run_bind (.run_mapError
          (within (Lvmd.CachedFileConfig.save_uses ..) (by decide)))
          fun _ => announce ..

theorem releaseVolumeGroup_uses (vg : LVMVolumeGroup) :
    (r.releaseVolumeGroup vg).run.Uses
      (Within (.update .volumeGroup :: statusEffects)) := by
  refine .run_bind (.run_mapError
    (within (r.removeVolumeGroupStatus_uses _) (by decide))) fun _ => ?_
  dsimp only
  split
  · exact .run_bind (within (Client.update_uses ..) (by decide)) fun _ => trivial
  · trivial

theorem processDelete_uses (vg : LVMVolumeGroup) :
    (r.processDelete vg).run.Uses (Within deleteEffects) :=
  .run_bind (.run_mapError
      (within (Lvmd.CachedFileConfig.load_uses _) (by decide))) fun _ =>
    .run_bind (within (r.cleanUpDisks_uses _) (by decide)) fun _ =>
    .run_bind (within (r.storeRemaining_uses ..) (by decide)) fun _ =>
    within (r.releaseVolumeGroup_uses _) (by decide)

/-! ## Setting up -/

theorem unmatchedPVs_uses (mappings : List String) (pvs : List PhysicalVolume) :
    (unmatchedPVs mappings pvs).Uses (Within [.read, .resolve]) := by
  induction pvs with
  | nil => trivial
  | cons pv rest inductionHypothesis =>
      rw [unmatchedPVs]
      split
      · exact inductionHypothesis
      · exact .bind (resolve_uses _) fun _ => .bind inductionHypothesis fun _ => trivial

theorem removeDevices_uses (vg : LVMVolumeGroup) (paths : List String) :
    (r.removeDevices vg paths).run.Uses (Within [.read, .report, .shrink]) := by
  induction paths with
  | nil => trivial
  | cons path rest inductionHypothesis =>
      refine .run_bind (.run_attempt (.run_mapError
        (within (command_uses _) (by simp [Command.effect])))) fun reduced => ?_
      cases reduced with
      | error error =>
          exact .run_bind (.run_lift (within (r.warningEvent_uses ..) (by simp)))
            fun _ => trivial
      | ok _ =>
          exact .run_bind (.run_attempt (.run_mapError
            (within (command_uses _) (by simp [Command.effect]))))
            fun _ => inductionHypothesis

theorem deleteRemovedDevices_uses (current : VolumeGroup) (vg : LVMVolumeGroup) :
    (r.deleteRemovedDevices current vg).run.Uses
      (Within [.read, .resolve, .report, .shrink]) := by
  have last (devices : List String) (message : String) :
      (r.removeDevices vg devices >>= fun _ =>
        (liftM (r.normalEvent vg "DeviceRemoved" message) : Go Unit) >>= fun _ =>
          pure true).run.Uses (Within [.read, .resolve, .report, .shrink]) :=
    .run_bind (within (r.removeDevices_uses ..) (by simp)) fun _ =>
      .run_bind (.run_lift (within (r.normalEvent_uses ..) (by simp)))
        fun _ => trivial
  dsimp only [deleteRemovedDevices]
  split
  · trivial
  split
  · trivial
  refine .run_bind (within (buildDevicePathMappings_uses _) (by simp))
    fun mappings => ?_
  refine .run_bind (.run_lift (within (unmatchedPVs_uses ..) (by simp)))
    fun devices => ?_
  split
  · trivial
  split
  · trivial
  split
  · exact .run_bind (.run_mapError trivial) fun _ => last ..
  · exact last ..

theorem failWith_uses
    {α : Type}
    (vg : LVMVolumeGroup)
    (vgs : List VolumeGroup)
    (devices : FilteredBlockDevices)
    (reason : String)
    (error : GoError) :
    (r.failWith vg vgs devices reason error : Go α).run.Uses
      (Within statusEffects) :=
  .run_bind (.run_lift (within (r.warningEvent_uses ..) (by decide))) fun _ =>
    .run_bind (.run_lift (r.reportFailure_uses ..)) fun _ => trivial

theorem orFailWith_uses
    {effects : List Effect}
    {vg : LVMVolumeGroup}
    {vgs : List VolumeGroup}
    {devices : FilteredBlockDevices}
    {reason : String}
    {wrap : GoError → GoError}
    {step : Go Unit}
    (uses : step.run.Uses (Within effects))
    (reports : ∀ effect ∈ statusEffects, effect ∈ effects) :
    (r.orFailWith vg vgs devices reason wrap step).run.Uses (Within effects) := by
  refine .run_bind (.run_attempt uses) fun result => ?_
  cases result with
  | ok _ => trivial
  | error error => exact within (r.failWith_uses ..) reports

theorem validateOrFail_uses
    (vg : LVMVolumeGroup)
    (vgs : List VolumeGroup)
    (devices : FilteredBlockDevices) :
    (r.validateOrFail vg vgs devices).run.Uses
      (Within (.tunePool :: statusEffects)) :=
  r.orFailWith_uses (within (r.validateLVs_uses _) (by decide)) (by decide)

theorem announceReady_uses
    (vg : LVMVolumeGroup)
    (vgs : List VolumeGroup)
    (devices : FilteredBlockDevices) :
    (r.announceReady vg vgs devices).run.Uses (Within statusEffects) := by
  refine .run_bind (.run_mapError (r.finishStatus_uses ..)) fun updated => ?_
  split
  · exact .run_lift (within (r.normalEvent_uses ..) (by decide))
  · trivial

theorem refreshVGs_uses : refreshVGs.run.Uses (Within [.read]) :=
  .run_mapError (Lvm.listVGs_uses _)

theorem finishExisting_uses
    (vg : LVMVolumeGroup)
    (vgs : List VolumeGroup)
    (devices : FilteredBlockDevices) :
    (r.finishExisting vg vgs devices).run.Uses
      (Within (.tunePool :: configEffects)) := by
  have last : (do
      r.applyLVMDConfig vg vgs devices
      r.announceReady vg vgs devices
      return determineFinishedRequeue vg : Go Result).run.Uses
        (Within (.tunePool :: configEffects)) :=
    .run_bind (within (r.applyLVMDConfig_uses ..) (by decide)) fun _ =>
      .run_bind (within (r.announceReady_uses ..) (by decide)) fun _ => trivial
  dsimp only [finishExisting]
  split
  · exact .run_bind (within (r.validateOrFail_uses ..) (by decide)) fun _ => last
  · exact last

theorem verifyExisting_uses
    (vg : LVMVolumeGroup)
    (vgs : List VolumeGroup)
    (devices : FilteredBlockDevices)
    (existing : VolumeGroup) :
    (r.verifyExisting vg vgs devices existing).run.Uses
      (Within verifyEffects) := by
  refine .run_bind (.run_attempt
    (within (r.deleteRemovedDevices_uses ..) (by decide))) fun deleted => ?_
  cases deleted with
  | error error =>
      exact .run_bind (.run_lift (within (r.reportFailure_uses ..) (by decide)))
        fun _ => trivial
  | ok deleted =>
      have last (vgs : List VolumeGroup) :
          (r.finishExisting vg vgs devices).run.Uses (Within verifyEffects) :=
        within (r.finishExisting_uses ..) (by decide)
      dsimp only
      split
      · exact .run_bind (within refreshVGs_uses (by decide)) last
      · exact .run_bind trivial last

theorem reconcileExisting_uses
    (vg : LVMVolumeGroup)
    (vgs : List VolumeGroup)
    (devices : FilteredBlockDevices) :
    (r.reconcileExisting vg vgs devices).run.Uses (Within verifyEffects) := by
  unfold reconcileExisting
  split
  · exact within (r.failWith_uses ..) (by decide)
  · exact r.verifyExisting_uses ..

theorem setUpThinPool_uses
    (vg : LVMVolumeGroup)
    (vgs : List VolumeGroup)
    (devices : FilteredBlockDevices) :
    (r.setUpThinPool vg vgs devices).run.Uses
      (Within (.createPool :: .tunePool :: statusEffects)) := by
  unfold setUpThinPool
  split
  · trivial
  · exact .run_bind (r.orFailWith_uses
      (within (r.addThinPoolToVG_uses ..) (by decide)) (by decide))
      fun _ => within (r.validateOrFail_uses ..) (by decide)

theorem checkDeviceCount_uses
    (vg : LVMVolumeGroup)
    (vgs : List VolumeGroup)
    (devices : FilteredBlockDevices) :
    (r.checkDeviceCount vg vgs devices).run.Uses (Within statusEffects) := by
  unfold checkDeviceCount
  split
  · trivial
  · exact r.orFailWith_uses trivial (by decide)

theorem setUp_uses
    (vg : LVMVolumeGroup)
    (vgs : List VolumeGroup)
    (devices : FilteredBlockDevices) :
    (r.setUp vg vgs devices).run.Uses (Within setUpEffects) :=
  .run_bind (within (r.checkDeviceCount_uses ..) (by decide)) fun _ =>
    .run_bind (r.orFailWith_uses (within (addDevicesToVG_uses ..) (by decide))
      (by decide)) fun _ =>
    .run_bind (within (r.setUpThinPool_uses ..) (by decide)) fun _ =>
    .run_bind (within refreshVGs_uses (by decide)) fun _ =>
    .run_bind (within (r.applyLVMDConfig_uses ..) (by decide)) fun _ =>
    .run_bind (within (r.announceReady_uses ..) (by decide)) fun _ => trivial

theorem reconcileNew_uses
    (vg : LVMVolumeGroup)
    (vgs : List VolumeGroup)
    (devices : FilteredBlockDevices) :
    (r.reconcileNew vg vgs devices).run.Uses (Within setUpEffects) := by
  refine .run_bind (.run_attempt (within (r.finishStatus_uses ..) (by decide)))
    fun updated => ?_
  split
  · trivial
  · exact r.setUp_uses ..

theorem checkMandatoryPaths_uses
    (vg : LVMVolumeGroup)
    (vgs : List VolumeGroup)
    (devices : FilteredBlockDevices) :
    (r.checkMandatoryPaths vg vgs devices).run.Uses
      (Within (.resolve :: statusEffects)) := by
  unfold checkMandatoryPaths
  split
  · trivial
  · exact r.orFailWith_uses
      (within (verifyMandatoryDevicePaths_uses ..) (by decide)) (by decide)

theorem useDevices_uses
    (vg : LVMVolumeGroup)
    (vgs : List VolumeGroup)
    (devices : FilteredBlockDevices) :
    (r.useDevices vg vgs devices).run.Uses (Within setUpEffects) := by
  refine .run_bind (within (r.checkMandatoryPaths_uses ..) (by decide)) fun _ => ?_
  dsimp only
  split
  · exact within (r.reconcileExisting_uses ..) (by decide)
  · exact r.reconcileNew_uses ..

/-- Without available devices nothing is created. -/
theorem useDevices_uses_of_empty
    {vg : LVMVolumeGroup}
    {vgs : List VolumeGroup}
    {devices : FilteredBlockDevices}
    (empty : devices.available = []) :
    (r.useDevices vg vgs devices).run.Uses (Within verifyEffects) := by
  have excluded : (excludeDiscovered vg vgs devices).available = [] := by
    simp [excludeDiscovered, empty]
  refine .run_bind (within (r.checkMandatoryPaths_uses ..) (by decide)) fun _ => ?_
  dsimp only
  rw [excluded]
  exact r.reconcileExisting_uses ..

theorem reconcileDevices_uses
    (vg : LVMVolumeGroup)
    (vgs : List VolumeGroup)
    (blockDevices : List BlockDevice) :
    (r.reconcileDevices vg vgs blockDevices).run.Uses (Within setUpEffects) := by
  refine .run_bind (.run_mapError (within (Lvm.listPVs_uses _) (by decide)))
    fun pvs => ?_
  refine .run_bind (.run_lift (within (blockDeviceInfos_uses _) (by decide)))
    fun bdi => ?_
  refine .run_bind (.run_lift (within (filterDevices_uses ..) (by decide)))
    fun devices => ?_
  exact r.useDevices_uses ..

theorem matchesThisNode_uses (selector : Option NodeSelector) :
    (r.matchesThisNode selector).run.Uses (Within [.read]) := by
  refine .run_bind (Client.get_uses ..) fun node => ?_
  cases selector <;> trivial

end Reconciler
end Lvms
