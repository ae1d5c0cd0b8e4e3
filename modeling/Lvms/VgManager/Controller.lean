import Lvms.VgManager.Status

/-!
# The vg-manager

The reconciliation of one `LVMVolumeGroup` on one node: setting up the volume
group and its thin pool, keeping the configuration of lvmd, and cleaning up when
the object is deleted.
-/

namespace Lvms

open Interaction

/-- `ctrl.Result`, with the delay in seconds. -/
structure Result where
  requeue : Bool := false
  requeueAfter : Nat := 0
  deriving DecidableEq, Repr

/-- `reconcileAgain`. -/
def reconcileAgain : Result := { requeue := true, requeueAfter := 30 }

/-- `raidReconcileInterval`. -/
def raidReconcileInterval : Nat := 60

/-! ## Thin pools -/

/-- `ChunkSizeDefault.Value()`: 128Ki. -/
def chunkSizeDefault : Int := 131072

/-- `ThinPoolMetadataSizeDefault.Value()`: 1Gi. -/
def thinPoolMetadataSizeDefault : Int := 1073741824

/-- `convertChunkSize`; -1 leaves the size to the host. -/
def convertChunkSize (config : ThinPoolConfig) : Int :=
  if config.chunkSizeCalculationPolicy = .host then -1
  else match config.chunkSize with
    | none => chunkSizeDefault
    | some size => size.value

/-- `convertMetadataSize`; -1 leaves the size to the host. -/
def convertMetadataSize (config : ThinPoolConfig) : Int :=
  if config.metadataSizeCalculationPolicy = .host then -1
  else match config.metadataSize with
    | none => thinPoolMetadataSizeDefault
    | some size => size.value

/-- The first logical volume of a name in the reports. -/
def findLV (name : String) (report : List (List LogicalVolume)) :
    Option LogicalVolume :=
  report.flatten.find? (·.name == name)

namespace Reconciler

variable (r : Reconciler)

/-- `verifyChunkSizeForPolicy`. The error of a mismatch wraps no error. -/
def verifyChunkSizeForPolicy (config : ThinPoolConfig) (lv : LogicalVolume) :
    Except GoError Unit := do
  if config.chunkSizeCalculationPolicy = .host then
    return
  match r.numerals.parseInt lv.chunkSize with
  | .ok chunkSizeBytes =>
      if chunkSizeBytes ≠ convertChunkSize config then
        throw (.new ("chunk size of logical volume " ++ lv.name ++
          " does not match the static policy: %!w(<nil>)"))
  | .error error =>
      throw (GoError.wrapped ("could not parse chunk size from logical volume " ++
        lv.name ++ " to verify against static policy") error)

/-- `verifyMetadataSize`. -/
def verifyMetadataSize
    (vgName lvName lvMetadataSize : String)
    (newMetadataSize : Int) : Go Unit := do
  if newMetadataSize = -1 then
    return
  let current ← Fallible.mapError
    (Lvm.wrappedAt "failed to parse metadata size. ")
    (.ofProgram (pure (r.numerals.parseInt lvMetadataSize)))
  if newMetadataSize ≤ current then
    return
  Fallible.mapError (GoError.wrapped "failed to extend thinpool metadata")
    (Lvm.extendThinPoolMetadata lvName vgName newMetadataSize)

/-- The first checks of `validateLVs`: the volume is a thin pool, and an inactive
one is activated. -/
def ensureActiveThinPool (vgName : String) (lv : LogicalVolume) : Go Unit := do
  let attr ← Fallible.mapError
    (GoError.wrapped ("could not parse lv_attr from logical volume " ++ lv.name))
    (.ofProgram (pure (parsedLvAttr lv.lvAttr)))
  if attr.volumeType ≠ volumeTypeThinPool then
    throw (.new ("found logical volume in volume group that is not of type " ++
      "Thin-Pool, even though there is a Thin-Pool configured: " ++
      attr.volumeType.toString ++ ", lv_attr: " ++ attr.string ++
      ",this is most likely a corruption of the thin pool or a setup gone wrong"))
  if attr.state ≠ stateActive then
    Fallible.mapError
      (fun _ => .new ("could not activate the inactive logical volume, maybe " ++
        "external repairs are necessary/already happening or there is another" ++
        "entity conflicting with vg-manager, cannot proceed until volume is " ++
        "activated again: lv_attr: " ++ attr.string))
      (Lvm.activateLV lv.name vgName)

/-- The other checks of `validateLVs`, of the chunk size and the metadata. -/
def verifyThinPoolSizes
    (vgName : String)
    (config : ThinPoolConfig)
    (lv : LogicalVolume) : Go Unit := do
  let percentage ← Fallible.mapError
    (GoError.wrapped ("could not ensure metadata percentage of LV due to a " ++
      "parsing error"))
    (.ofProgram (pure (r.numerals.parseFloat32 lv.metadataPercent)))
  if 95 < percentage then
    throw (.new ("metadata partition is over " ++ r.numerals.format percentage ++
      " percent filled and LVM Metadata Overflows cannot be recovered" ++
      "you should manually extend the metadata_partition or you will risk data " ++
      "loss: metadata_percent: " ++ lv.metadataPercent))
  Fallible.ofProgram (pure (r.verifyChunkSizeForPolicy config lv))
  Fallible.mapError
    (GoError.wrapped ("failed to verify metadata size for thinpool " ++
      config.name ++ " in volume group " ++ vgName))
    (r.verifyMetadataSize vgName lv.name lv.metadataSize
      (convertMetadataSize config))

/-- The inner loop of `validateLVs`; the flag says whether the thin pool has been
found. -/
def validateRows (vgName : String) (config : ThinPoolConfig) (found : Bool) :
    List LogicalVolume → Go Bool
  | [] => return found
  | lv :: rest => do
      if lv.name ≠ config.name then
        validateRows vgName config found rest
      else
        ensureActiveThinPool vgName lv
        r.verifyThinPoolSizes vgName config lv
        validateRows vgName config true rest

/-- The outer loop of `validateLVs`. -/
def validateReports (vgName : String) (config : ThinPoolConfig) :
    List (List LogicalVolume) → Go Unit
  | [] => return
  | rows :: rest => do
      if rows.isEmpty then
        throw (.new ("no LV was found in the report, meaning that the " ++
          "thin-pool LV is no longer found, but the volume group might still " ++
          "exist"))
      if !(← r.validateRows vgName config false rows) then
        throw (.new ("the thin-pool LV is no longer present, but the volume " ++
          "group might still exist"))
      validateReports vgName config rest

/-- `validateLVs`. -/
def validateLVs (vg : LVMVolumeGroup) : Go Unit := do
  match vg.spec.thinPoolConfig with
  | none => return
  | some config =>
      let report ← Fallible.mapError
        (GoError.wrapped ("could not get logical volumes found inside volume " ++
          "group, volume group content is degraded or corrupt"))
        (Lvm.listLVs vg.name)
      if report.isEmpty then
        throw (.new ("LV report was empty, meaning that the thin-pool LV is no " ++
          "longer found, but the volume group might still exist"))
      r.validateReports vg.name config report

/-- `extendThinPool`. -/
def extendThinPool (vgName lvSize : String) (config : ThinPoolConfig) :
    Go Unit := do
  if lvSize = "" then
    throw (.new "lvSize is empty and cannot be used for extension")
  let thinPoolSize ← Fallible.mapError (Lvm.formatted "failed to parse lvSize. ")
    (.ofProgram (pure (r.numerals.parseFloat64 lvSize)))
  let vg ← Fallible.mapError
    (Lvm.formatted ("failed to get volume group. " ++ quoted vgName ++ ", "))
    (Lvm.getVG vgName)
  if vg.vgSize = "" then
    throw (.new "VgSize is empty and cannot be used for extension")
  let vgSize ← Fallible.mapError (Lvm.formatted "failed to parse vgSize. ")
    (.ofProgram (pure (r.numerals.parseFloat64 vg.vgSize)))
  if config.sizePercent ≤ r.numerals.percentOf thinPoolSize vgSize then
    return
  Fallible.mapError (GoError.wrapped "failed to extend thinpool")
    (Lvm.extendLV config.name vgName config.sizePercent)

/-- `addThinPoolToVG`. -/
def addThinPoolToVG (vgName : String) (config : ThinPoolConfig) : Go Unit := do
  let report ← Fallible.mapError
    (Lvm.formatted ("failed to list logical volumes in the volume group " ++
      quoted vgName ++ ". "))
    (Lvm.listLVs vgName)
  match findLV config.name report with
  | some lv =>
      let attr ← Fallible.mapError
        (GoError.wrapped "could not parse lvattr to determine if thin pool exists")
        (.ofProgram (pure (parsedLvAttr lv.lvAttr)))
      if attr.volumeType = volumeTypeThinPool then
        Fallible.mapError
          (GoError.wrapped ("failed to extend the lvm thinpool " ++ config.name ++
            " in volume group " ++ vgName))
          (r.extendThinPool vgName lv.lvSize config)
      else
        throw (.new ("failed to create thin pool " ++ quoted config.name ++
          ", logical volume with same name already exists, but cannot be " ++
          "extended as its not a thinpool (" ++ attr.string ++ ")"))
  | none =>
      Fallible.mapError (GoError.wrapped "failed to create thinpool")
        (Lvm.createLV config.name vgName config.sizePercent
          (convertChunkSize config) (convertMetadataSize config))

/-! ## The configuration of lvmd -/

/-- The device class of lvmd for a new volume group. -/
def newDeviceClass (vg : LVMVolumeGroup) : Lvmd.DeviceClass :=
  let options := match vg.spec.raidConfig with
    | some config => buildRAIDLVCreateOptions config
    | none => []
  match vg.spec.thinPoolConfig with
  | some config =>
      { name := vg.name
        volumeGroup := vg.name
        default := vg.spec.default
        type := .thin
        thinPoolConfig := some {
          name := config.name
          overprovisionRatio := config.overprovisionRatio }
        lvcreateOptions := options }
  | none =>
      { name := vg.name
        volumeGroup := vg.name
        default := vg.spec.default
        type := .thick
        spareGB := some 0
        lvcreateOptions := options }

/-- The update of the device class that is already there: only the ratio of a
thin one. Either pool configuration can be missing, which the code does not
check. -/
def refreshDeviceClass (vg : LVMVolumeGroup) (old : Lvmd.DeviceClass) :
    Except GoError Lvmd.DeviceClass :=
  if old.type = .thin then
    match old.thinPoolConfig, vg.spec.thinPoolConfig with
    | some pool, some config => .ok { old with
        thinPoolConfig := some { pool with
          overprovisionRatio := config.overprovisionRatio } }
    | _, _ => .error (.new ("runtime error: invalid memory address or nil " ++
        "pointer dereference"))
  else .ok old

/-- A device class that is refreshed keeps its name and its flag. -/
theorem refreshDeviceClass_keeps
    {vg : LVMVolumeGroup}
    {old new : Lvmd.DeviceClass}
    (refreshed : refreshDeviceClass vg old = .ok new) :
    new.name = old.name ∧ new.default = old.default := by
  unfold refreshDeviceClass at refreshed
  repeat' split at refreshed
  · obtain rfl := Except.ok.inj refreshed
    exact ⟨rfl, rfl⟩
  · cases refreshed
  · obtain rfl := Except.ok.inj refreshed
    exact ⟨rfl, rfl⟩

/-- A device class that is added has the name and the flag of its volume group. -/
theorem newDeviceClass_keeps (vg : LVMVolumeGroup) :
    (newDeviceClass vg).name = vg.name ∧
      (newDeviceClass vg).default = vg.spec.default := by
  cases pool : vg.spec.thinPoolConfig <;> simp [newDeviceClass, pool]

/-- Refresh the first device class of the name of the volume group. -/
def refreshDeviceClasses (vg : LVMVolumeGroup) :
    List Lvmd.DeviceClass → Except GoError (Option (List Lvmd.DeviceClass))
  | [] => .ok none
  | old :: rest =>
      if old.name = vg.name then do
        return some ((← refreshDeviceClass vg old) :: rest)
      else do
        return (← refreshDeviceClasses vg rest).map (old :: ·)

/-- The configuration with the device class of a volume group. -/
def withDeviceClass (vg : LVMVolumeGroup) (config : Lvmd.Config) :
    Except GoError Lvmd.Config := do
  match ← refreshDeviceClasses vg config.deviceClasses with
  | some deviceClasses => return { config with deviceClasses }
  | none => return { config with
      deviceClasses := config.deviceClasses ++ [newDeviceClass vg] }

/-- `updateLVMDConfigAfterReconcile`. -/
def updateLVMDConfigAfterReconcile
    (vg : LVMVolumeGroup)
    (oldConfig newConfig : Lvmd.Config)
    (wasMissing : Bool) : Go Unit := do
  if oldConfig = newConfig then
    return
  if wasMissing then
    r.normalEvent vg "LVMDConfigMissing"
      "lvmd config file doesn't exist, will attempt to create a fresh config"
  Fallible.mapError
    (GoError.wrapped ("failed to update lvmd config file to update volume " ++
      "group " ++ vg.name))
    (Lvmd.CachedFileConfig.save r.lvmd newConfig)
  r.normalEvent vg "LVMDConfigUpdated" "updated lvmd config with new deviceClasses"

/-- `applyLVMDConfig`. -/
def applyLVMDConfig
    (vg : LVMVolumeGroup)
    (vgs : List VolumeGroup)
    (devices : FilteredBlockDevices) : Go Unit := do
  match ← (Lvmd.CachedFileConfig.load r.lvmd).attempt with
  | .error error =>
      let error := GoError.wrapped "failed to read the lvmd config file" error
      r.reportFailure vg vgs devices error
      throw error
  | .ok loaded =>
      let config := loaded.getD {}
      let newConfig ← Fallible.ofProgram (pure (withDeviceClass vg config))
      match ← (r.updateLVMDConfigAfterReconcile vg
          (Lvmd.deepCopyConfig config) newConfig loaded.isNone).attempt with
      | .ok () => return
      | .error error =>
          r.reportFailure vg vgs devices error
          throw error

/-! ## Deletion -/

/-- `isRetainPolicy`: the policy, and the error that made it the safe one. -/
def isRetainPolicy (vg : LVMVolumeGroup) :
    Program sig (Bool × Option GoError) := do
  let scName := getStorageClassName vg.name
  match ← (Client.get .storageClass scName).run with
  | .error error =>
      if error.isNotFound then
        return (false, none)
      return (true, some (GoError.wrapped ("failed to get StorageClass " ++
        scName ++ ", defaulting to Retain") error))
  | .ok storageClass =>
      return (storageClass.reclaimPolicy == some .retain, none)

/-- The logical volumes that are not the thin pool of LVMS. -/
def userLVs (vg : LVMVolumeGroup) (lvs : List String) : List String :=
  lvs.filter fun lv =>
    match vg.spec.thinPoolConfig with
    | some config => lv != config.name
    | none => true

/-- The error that stops a deletion. -/
def retainedError (vg : LVMVolumeGroup) (lvs : List String) : GoError :=
  .new ("volume group " ++ vg.name ++ " has retained logical volumes " ++
    goList lvs ++ "; manual cleanup required before deletion can proceed")

/-- The check of `processDelete` before it touches the disks. -/
def checkRetained (vg : LVMVolumeGroup) : Go Unit := do
  let (retain, _) ← isRetainPolicy vg
  if retain then
    let lvs ← Fallible.mapError
      (GoError.wrapped ("failed to list LVs in volume group " ++ vg.name))
      (Lvm.listLVsByName vg.name)
    let retained := userLVs vg lvs
    if !retained.isEmpty then
      let error := retainedError vg retained
      r.warningEvent vg "ManualCleanupRequired" error
      throw error

/-- Delete the thin pool, if it is there. -/
def deleteThinPool
    (vg : LVMVolumeGroup)
    (vgs : List VolumeGroup)
    (config : ThinPoolConfig) : Go Unit := do
  let found ← Fallible.mapError
    (Lvm.formatted ("failed to check existence of thin pool " ++
      quoted config.name ++ " in volume group " ++ quoted vg.name ++ ". "))
    (Lvm.lvExists config.name vg.name)
  if found then
    match ← (Lvm.deleteLV config.name vg.name).attempt with
    | .ok () => return
    | .error error =>
        let error := GoError.wrapped ("failed to delete thin pool " ++
          config.name ++ " in volume group " ++ vg.name) error
        r.reportFailure vg vgs {} error
        throw error

/-- Delete the volume group. -/
def deleteVolumeGroup
    (vg : LVMVolumeGroup)
    (vgs : List VolumeGroup)
    (existing : VolumeGroup) : Go Unit := do
  match ← (Lvm.deleteVG existing).attempt with
  | .ok () => return
  | .error error =>
      let error := GoError.wrapped ("failed to delete volume group " ++ vg.name)
        error
      r.reportFailure vg vgs {} error
      throw error

/-- Delete the thin pool and the volume group. -/
def deleteDisks
    (vg : LVMVolumeGroup)
    (vgs : List VolumeGroup)
    (existing : VolumeGroup) : Go Unit := do
  match vg.spec.thinPoolConfig with
  | some config => r.deleteThinPool vg vgs config
  | none => pure ()
  r.deleteVolumeGroup vg vgs existing

/-- The part of `processDelete` about the disks. A volume group that is not found
counts as deleted. -/
def cleanUpDisks (vg : LVMVolumeGroup) : Go Unit := do
  let vgs ← Fallible.mapError (Lvm.wrappedAt "failed to list volume groups, ")
    (Lvm.listVGs true)
  match vgs.find? (·.name == vg.name) with
  | none => return
  | some existing =>
      r.checkRetained vg
      r.deleteDisks vg vgs existing

/-- The configuration without the first device class of a name. -/
def withoutDeviceClass (name : String) (config : Lvmd.Config) : Lvmd.Config :=
  { config with deviceClasses := config.deviceClasses.eraseP (·.name == name) }

/-- The part of `processDelete` about the configuration of lvmd, if there is one:
it is deleted with its last device class. -/
def storeRemaining (vg : LVMVolumeGroup) : Option Lvmd.Config → Go Unit
  | none => return
  | some config => do
      if config.deviceClasses.isEmpty then
        Fallible.mapError
          (GoError.wrapped ("failed to delete lvmd.conf file for volume group " ++
            vg.name))
          (Lvmd.CachedFileConfig.delete r.lvmd)
        r.normalEvent vg "LVMDConfigDeleted"
          "removed lvmd config after last deviceClass was removed"
      else
        Fallible.mapError
          (GoError.wrapped ("failed to update lvmd.conf file for volume group " ++
            vg.name))
          (Lvmd.CachedFileConfig.save r.lvmd config)
        r.normalEvent vg "LVMDConfigUpdated"
          "updated lvmd config after deviceClass was removed"

/-- The end of `processDelete`: the status and the finalizer are removed. -/
def releaseVolumeGroup (vg : LVMVolumeGroup) : Go Unit := do
  Fallible.mapError
    (GoError.wrapped ("failed to remove status for volume group " ++ vg.name))
    (r.removeVolumeGroupStatus vg)
  let (metadata, removed) :=
    vg.metadata.removeFinalizer (getFinalizer r.nodeName)
  if removed then
    let _ ← Client.update .volumeGroup { vg with metadata }

/-- `processDelete`. -/
def processDelete (vg : LVMVolumeGroup) : Go Unit := do
  let loaded ← Fallible.mapError
    (GoError.wrapped "failed to read the lvmd config file")
    (Lvmd.CachedFileConfig.load r.lvmd)
  r.cleanUpDisks vg
  r.storeRemaining vg (loaded.map (withoutDeviceClass vg.name))
  r.releaseVolumeGroup vg

/-! ## Setting up -/

/-- `checkRAIDVGHealth`. -/
def checkRAIDVGHealth (vgs : List VolumeGroup) (vg : LVMVolumeGroup) :
    Except GoError Unit := do
  if vg.spec.raidConfig.isSome &&
      vgs.any fun found => found.name == vg.name && found.isMissingDevices then
    throw (.new ("RAID VG " ++ vg.name ++ " on node " ++ r.nodeName ++
      " has missing physical volumes. Repair the volume group on the node " ++
      "(replace the failed device, run 'pvcreate' and 'vgextend' with the new " ++
      "device, then 'lvconvert --repair' for each degraded LV, and " ++
      "'vgreduce --removemissing' to clean up), and update the LVMCluster CR " ++
      "with the correct device paths"))

/-- The physical volumes that no path of the user leads to. A volume can be known
to LVM under a link or under the device behind it. -/
def unmatchedPVs (mappings : List String) :
    List PhysicalVolume → Program sig (List String)
  | [] => return []
  | pv :: rest => do
      if mappings.contains pv.pvName then
        unmatchedPVs mappings rest
      else
        let matched := match ← (resolve pv.pvName).run with
          | .ok resolved => mappings.contains resolved
          | .error _ => false
        let others ← unmatchedPVs mappings rest
        return if matched then others else pv.pvName :: others

/-- The last loop of `deleteRemovedDevices`; a label that stays behind is only
logged. -/
def removeDevices (vg : LVMVolumeGroup) : List String → Go Unit
  | [] => return
  | devicePath :: rest => do
      match ← (Lvm.reduceVG vg.name devicePath).attempt with
      | .error error =>
          r.warningEvent vg "DeviceRemovalFailed" error
          throw (GoError.wrapped ("failed to remove device " ++ devicePath ++
            " from VG " ++ vg.name) error)
      | .ok () =>
          let _ ← (Lvm.removePV devicePath).attempt
          removeDevices vg rest

/-- `deleteRemovedDevices`: whether devices were removed. -/
def deleteRemovedDevices (current : VolumeGroup) (vg : LVMVolumeGroup) :
    Go Bool := do
  if !hasExplicitDevicePaths vg then
    return false
  if current.isMissingDevices then
    throw (.new ("VG " ++ vg.name ++ " on node " ++ r.nodeName ++
      " is missing one or more devices. Please fix the VG on the node first " ++
      "and update LVMCluster to reflect current state"))
  let mappings ← buildDevicePathMappings vg
  let devicesToRemove ← unmatchedPVs mappings current.pvs
  if devicesToRemove.isEmpty then
    return false
  let remainingCount := current.pvs.length - devicesToRemove.length
  if remainingCount < 1 then
    throw (.new ("devices can't be deleted from VG " ++ vg.name ++
      " because after deletion there will be less than 1 device in VG"))
  if let some config := vg.spec.raidConfig then
    Fallible.mapError
      (GoError.wrapped ("devices can't be deleted from VG " ++ vg.name))
      (.ofProgram (pure (validateRAIDDeviceCount config remainingCount)))
  r.removeDevices vg devicesToRemove
  r.normalEvent vg "DeviceRemoved" ("successfully removed " ++
    goList devicesToRemove ++ " device(s) from volume group")
  return true

/-- The policy in effect: RAID volume groups are always static. -/
def effectivePolicy (vg : LVMVolumeGroup) : DeviceDiscoveryPolicySpec :=
  if vg.spec.raidConfig.isSome then .static
  else vg.spec.deviceDiscoveryPolicy.getD .dynamic

/-- Under the static policy an existing volume group takes no new devices, unless
the user names them. -/
def excludeDiscovered
    (vg : LVMVolumeGroup)
    (vgs : List VolumeGroup)
    (devices : FilteredBlockDevices) : FilteredBlockDevices :=
  if !hasExplicitDevicePaths vg && effectivePolicy vg = .static &&
      vgs.any (·.name == vg.name) && !devices.available.isEmpty then
    { available := []
      excluded := devices.excluded ++ devices.available.map fun device =>
        ⟨device, [.new (device.kname ++ " was not part of " ++ vg.name ++
          " at creation (static device discovery enabled)")]⟩ }
  else devices

/-- `determineFinishedRequeue`. -/
def determineFinishedRequeue (vg : LVMVolumeGroup) : Result :=
  if vg.spec.raidConfig.isSome then { requeueAfter := raidReconcileInterval }
  else if hasExplicitDevicePaths vg then {}
  else if effectivePolicy vg = .dynamic then reconcileAgain
  else {}

/-- Send a warning, report the failure in the status, and end with the error. -/
def failWith {α : Type}
    (vg : LVMVolumeGroup)
    (vgs : List VolumeGroup)
    (devices : FilteredBlockDevices)
    (reason : String)
    (error : GoError) : Go α := do
  r.warningEvent vg reason error
  r.reportFailure vg vgs devices error
  throw error

/-- Run a step of `reconcile` whose error is wrapped and reported. -/
def orFailWith
    (vg : LVMVolumeGroup)
    (vgs : List VolumeGroup)
    (devices : FilteredBlockDevices)
    (reason : String)
    (wrap : GoError → GoError)
    (step : Go Unit) : Go Unit := do
  match ← step.attempt with
  | .ok () => return
  | .error error => r.failWith vg vgs devices reason (wrap error)

/-- `validateLVs` as `reconcile` calls it. -/
def validateOrFail
    (vg : LVMVolumeGroup)
    (vgs : List VolumeGroup)
    (devices : FilteredBlockDevices) : Go Unit :=
  r.orFailWith vg vgs devices "InconsistentLVs"
    (GoError.wrapped
      "error while validating logical volumes in existing volume group")
    (r.validateLVs vg)

/-- Set the status to ready and say so when that is new. -/
def announceReady
    (vg : LVMVolumeGroup)
    (vgs : List VolumeGroup)
    (devices : FilteredBlockDevices) : Go Unit := do
  let updated ← Fallible.mapError
    (GoError.wrapped ("failed to set status for volume group " ++ vg.name ++
      " to ready"))
    (r.setVolumeGroupReadyStatus vg vgs devices)
  if updated then
    r.normalEvent vg "VolumeGroupReady"
      "all the available devices are attached to the volume group"

/-- List the volume groups of LVMS. -/
def refreshVGs : Go (List VolumeGroup) :=
  Fallible.mapError (GoError.wrapped "failed to list volume groups")
    (Lvm.listVGs true)

/-- Validate the thin pool, and report the volume group to lvmd and in the
status. -/
def finishExisting
    (vg : LVMVolumeGroup)
    (vgs : List VolumeGroup)
    (devices : FilteredBlockDevices) : Go Result := do
  if vg.spec.thinPoolConfig.isSome then
    r.validateOrFail vg vgs devices
  r.applyLVMDConfig vg vgs devices
  r.announceReady vg vgs devices
  return determineFinishedRequeue vg

/-- The branch of `reconcile` without available devices, once the volume group
was found: verify what is there. -/
def verifyExisting
    (vg : LVMVolumeGroup)
    (vgs : List VolumeGroup)
    (devices : FilteredBlockDevices)
    (existing : VolumeGroup) : Go Result := do
  match ← (r.deleteRemovedDevices existing vg).attempt with
  | .error error =>
      r.reportFailure vg vgs devices error
      throw (GoError.wrapped "failed to remove devices" error)
  | .ok deleted =>
      let vgs ← if deleted then refreshVGs else pure vgs
      r.finishExisting vg vgs devices

/-- The branch of `reconcile` without available devices. -/
def reconcileExisting
    (vg : LVMVolumeGroup)
    (vgs : List VolumeGroup)
    (devices : FilteredBlockDevices) : Go Result := do
  match vgs.find? (·.name == vg.name) with
  | none =>
      r.failWith vg vgs devices "NoAvailableDevicesForVG"
        (.new ("the volume group " ++ vg.name ++ " does not exist (or was not " ++
          "tagged properly with " ++ quoted defaultTag ++ "), and there were " ++
          "no available devices to create it"))
  | some existing => r.verifyExisting vg vgs devices existing

/-- Create the thin pool and verify that it is there. -/
def setUpThinPool
    (vg : LVMVolumeGroup)
    (vgs : List VolumeGroup)
    (devices : FilteredBlockDevices) : Go Unit := do
  match vg.spec.thinPoolConfig with
  | none => return
  | some config =>
      r.orFailWith vg vgs devices "ThinPoolCreateOrExtendFailed"
        (GoError.wrapped ("failed to create thin pool " ++ config.name ++
          " for volume group " ++ vg.name))
        (r.addThinPoolToVG vg.name config)
      r.validateOrFail vg vgs devices

/-- The check of the number of devices for RAID. -/
def checkDeviceCount
    (vg : LVMVolumeGroup)
    (vgs : List VolumeGroup)
    (devices : FilteredBlockDevices) : Go Unit := do
  match vg.spec.raidConfig with
  | none => return
  | some config =>
      let existing := match vgs.find? (·.name == vg.name) with
        | some existing => existing.pvs.length
        | none => 0
      r.orFailWith vg vgs devices "NoAvailableDevicesForVG" id
        (.ofProgram (pure (validateRAIDDeviceCount config
          (devices.available.length + existing))))

/-- Create or extend the volume group and its thin pool. -/
def setUp
    (vg : LVMVolumeGroup)
    (vgs : List VolumeGroup)
    (devices : FilteredBlockDevices) : Go Result := do
  r.checkDeviceCount vg vgs devices
  r.orFailWith vg vgs devices "VGCreateOrExtendFailed"
    (GoError.wrapped ("failed to create/extend volume group " ++ vg.name))
    (addDevicesToVG vgs vg.name devices.available
      (shouldWipeDevicesOnVolumeGroup r.nodeName vg))
  r.setUpThinPool vg vgs devices
  let vgs ← refreshVGs
  r.applyLVMDConfig vg vgs devices
  r.announceReady vg vgs devices
  return reconcileAgain

/-- The branch of `reconcile` with available devices: the new status is stored
before anything is changed. -/
def reconcileNew
    (vg : LVMVolumeGroup)
    (vgs : List VolumeGroup)
    (devices : FilteredBlockDevices) : Go Result := do
  match ← (r.setVolumeGroupProgressingStatus vg vgs devices).attempt with
  | .ok true => return { requeue := true }
  | _ => r.setUp vg vgs devices

/-- `VerifyMandatoryDevicePaths` as `reconcile` calls it. -/
def checkMandatoryPaths
    (vg : LVMVolumeGroup)
    (vgs : List VolumeGroup)
    (devices : FilteredBlockDevices) : Go Unit := do
  match vg.spec.deviceSelector with
  | none => return
  | some selector =>
      r.orFailWith vg vgs devices "DevicePathCheckFailed" id
        (verifyMandatoryDevicePaths devices selector.paths)

/-- The part of `reconcile` after the filters: what is done with the devices. -/
def useDevices
    (vg : LVMVolumeGroup)
    (vgs : List VolumeGroup)
    (devices : FilteredBlockDevices) : Go Result := do
  r.checkMandatoryPaths vg vgs devices
  let devices := excludeDiscovered vg vgs devices
  if devices.available.isEmpty then
    r.reconcileExisting vg vgs devices
  else
    r.reconcileNew vg vgs devices

/-- The rest of `reconcile` once the devices are wiped: filter the devices and use
those that are available. -/
def reconcileDevices
    (vg : LVMVolumeGroup)
    (vgs : List VolumeGroup)
    (blockDevices : List BlockDevice) : Go Result := do
  let pvs ← Fallible.mapError
    (GoError.wrapped "physical volumes could not be fetched") (Lvm.listPVs "")
  let bdi ← blockDeviceInfos blockDevices
  let devices ← filterDevices (defaultFilters { vg, bdi, pvs }) blockDevices
  r.useDevices vg vgs devices

/-- `reconcile` of a volume group that is not deleted and has the finalizer. -/
def reconcileLive (vg : LVMVolumeGroup) : Go Result := do
  let blockDevices ← Fallible.mapError
    (GoError.wrapped "failed to list block devices") listBlockDevices
  let vgs ← refreshVGs
  match r.checkRAIDVGHealth vgs vg with
  | .error error =>
      r.warningEvent vg "RAIDHealthCheckFailed" error
      r.reportFailure vg vgs {} error
      return { requeueAfter := raidReconcileInterval }
  | .ok () =>
      let wiped ← Fallible.mapError (GoError.wrapped "failed to wipe devices")
        (wipeDevices r.nodeName vg blockDevices)
      match wiped with
      | some annotated =>
          let _ ← Client.update .volumeGroup annotated
          return {}
      | none => r.reconcileDevices vg vgs blockDevices

/-- `reconcile`. -/
def reconcile (vg : LVMVolumeGroup) : Go Result := do
  if vg.metadata.deletionTimestamp.isSome then
    r.processDelete vg
    return {}
  let (metadata, added) := vg.metadata.addFinalizer (getFinalizer r.nodeName)
  if added then
    let _ ← Client.update .volumeGroup { vg with metadata }
    return {}
  r.reconcileLive vg

/-- `matchesThisNode`. -/
def matchesThisNode (selector : Option NodeSelector) : Go Bool := do
  let node ← Client.get .node r.nodeName
  match selector with
  | none => return true
  | some selector =>
      Fallible.ofProgram (pure (r.matchNodeSelectorTerms node selector))

/-- `Reconcile`, of the volume group with a name. -/
def reconcileRequest (name : String) : Go Result := do
  newResolver
  match ← (Client.get .volumeGroup name).attempt with
  | .error error =>
      if error.isNotFound then
        return {}
      throw error
  | .ok vg =>
      let nodeMatches ← Fallible.mapError
        (GoError.wrapped "failed to match nodeSelector to node labels")
        (r.matchesThisNode vg.spec.nodeSelector)
      if !nodeMatches then
        return {}
      let _ ← Fallible.mapError
        (GoError.wrapped "could not get LVMVolumeGroupNodeStatus")
        (Client.get .nodeStatus r.nodeName)
      r.reconcile vg

end Reconciler

/-! ## Runs -/

/-- The world in which a reconciliation starts: nothing has been resolved. -/
def World.withNewResolver (node : String) (world : World) : World :=
  world.setMemory node { world.memory node with resolved := [] }

/-- One reconciliation of the volume group with a name. -/
def ReconcileStep
    (r : Reconciler)
    (name : String)
    (before : World)
    (events : List (Event sig World))
    (after : World) : Prop :=
  ∃ result, Exec (environment r.nodeName) (r.reconcileRequest name).run before events
    result after

/-- A vg-manager on a host whose reports have no numbers in them, and whose node
every selector matches. -/
def Reconciler.plain (nodeName : String) : Reconciler where
  nodeName := nodeName
  numerals := {
    parseFloat32 := fun text => .error (.new ("parsing " ++ quoted text))
    parseFloat64 := fun text => .error (.new ("parsing " ++ quoted text))
    parseInt := fun text => .error (.new ("parsing " ++ quoted text))
    percentOf := fun _ _ => 0
    format := fun _ => "" }
  matchNodeSelectorTerms := fun _ _ => .ok true

/-- The world of one node and one volume group, with an empty node status and a
freshly started vg-manager. -/
def nodeWorld (vg : LVMVolumeGroup) (host : Host) : World where
  api := ⟨fun
    | .volumeGroup => [vg]
    | .nodeStatus => [{ metadata := { name := "node" } }]
    | .node => [{ metadata := { name := "node" } }]
    | _ => []⟩
  host := fun _ => host
  memory := fun _ => {}

/-- A reconciliation with the choices of a strategy. -/
def Reconciler.runWith
    (r : Reconciler)
    (name : String)
    (pick : World → Request → Choice)
    (world : World) : List (Event sig World) × Except GoError Result × World :=
  Program.run (environment r.nodeName) pick (r.reconcileRequest name).run world

theorem Reconciler.runWith_step
    (r : Reconciler)
    (name : String)
    (pick : World → Request → Choice)
    (world : World) :
    ReconcileStep r name world (r.runWith name pick world).1
      (r.runWith name pick world).2.2 :=
  ⟨_, Program.run_exec ..⟩

end Lvms
