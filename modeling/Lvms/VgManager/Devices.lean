import Lvms.VgManager.Lvm

/-!
# Block devices of a volume group

Symbolic links, the block devices of the host, the filters that decide which of
them a volume group may use, and adding them to the volume group.
-/

namespace Lvms

open Interaction

/-! ## Symbolic links -/

/-- `Resolver.Resolve`. Only successful resolutions are cached. -/
def resolve (path : String) : Go String := do
  match ← loadResolved path with
  | some target => return target
  | none =>
      let target ← query (.evalSymlinks path)
      storeResolved path target
      return target

/-! ## Block devices -/

/-- `lsblk.LSBLK_COLUMNS`. -/
def lsblkColumns : String :=
  "NAME,ROTA,TYPE,SIZE,MODEL,VENDOR,RO,STATE,KNAME,SERIAL,PARTLABEL,FSTYPE"

/-- `HostLSBLK.ListBlockDevices`. -/
def listBlockDevices : Go (List BlockDevice) := query .lsblk

/-- `HostLSBLK.IsUsableLoopDev`. A device whose back file is unknown counts as
usable. -/
def isUsableLoopDev (device : BlockDevice) :
    Program sig (Bool × Option GoError) := do
  match ← (query (.losetup device.name)).run with
  | .error error => return (true, some error)
  | .ok backFiles =>
      return (!backFiles.any fun backFile =>
        stringsContains backFile "plugins/kubernetes.io", none)

mutual

/-- One step of the loop of `FlattenedBlockDevices`. -/
def flattenBlockDevice (flattened : GoMap BlockDevice) :
    BlockDevice → GoMap BlockDevice
  | .mk name kname type state fsType readOnly partLabel children =>
      let device :=
        .mk name kname type state fsType readOnly partLabel children
      (flattenBlockDevices [] children).foldl
        (fun flattened entry => flattened.set entry.1 entry.2)
        (flattened.set kname device)

/-- The loop of `FlattenedBlockDevices`. -/
def flattenBlockDevices (flattened : GoMap BlockDevice) :
    List BlockDevice → GoMap BlockDevice
  | [] => flattened
  | device :: rest =>
      flattenBlockDevices (flattenBlockDevice flattened device) rest

end

/-- The loop of `BlockDeviceInfos` over a map in some order. -/
def collectInfos (flattened : GoMap BlockDevice) (infos : GoMap Bool) :
    List String → Program sig (GoMap Bool)
  | [] => return infos
  | kname :: rest => do
      match flattened.get? kname with
      | some device =>
          if device.type = "loop" then
            let (usable, _) ← isUsableLoopDev device
            collectInfos flattened (infos.set device.kname usable) rest
          else collectInfos flattened infos rest
      | none => collectInfos flattened infos rest

/-- `HostLSBLK.BlockDeviceInfos`: for each loop device, whether it is usable. -/
def blockDeviceInfos (devices : List BlockDevice) :
    Program sig (GoMap Bool) := do
  let flattened := flattenBlockDevices [] devices
  collectInfos flattened [] (← mapOrder flattened.keys)

/-! ## Filters -/

/-- `ErrDeviceAlreadySetupCorrectly`. -/
def errDeviceAlreadySetupCorrectly : GoError :=
  .new ("the device is already setup correctly and was filtered to avoid " ++
    "attempting recreation")

/-- `ErrLVMPartition`. -/
def errLVMPartition : GoError :=
  .new "the device is a lvm partition and is excluded by default"

/-- `IsExpectedDeviceErrorAfterSetup`. -/
def isExpectedDeviceErrorAfterSetup (error : GoError) : Bool :=
  error.is errDeviceAlreadySetupCorrectly || error.is errLVMPartition

/-- `filter.Options`. -/
structure FilterOptions where
  vg : LVMVolumeGroup
  bdi : GoMap Bool
  pvs : List PhysicalVolume

/-- The paths a selector names, mandatory ones first. -/
def DeviceSelector.allPaths (selector : DeviceSelector) : List DevicePath :=
  selector.paths ++ selector.optionalPaths

/-- The loop of `partOfDeviceSelector`. A path that cannot be resolved counts as
the empty name. -/
def resolvesTo (kname : String) : List DevicePath → Program sig Bool
  | [] => return false
  | path :: rest => do
      let resolved := match ← (resolve path).run with
        | .ok target => target
        | .error _ => ""
      if resolved = kname then return true
      resolvesTo kname rest

/-- `partOfDeviceSelector`. -/
def partOfDeviceSelector (options : FilterOptions) (device : BlockDevice) :
    Go Unit := do
  match options.vg.spec.deviceSelector with
  | none => return
  | some selector =>
      if ← resolvesTo device.kname selector.allPaths then
        return
      throw (.new (device.name ++ " is not part of the device selector or " ++
        "could not be resolved via symlink resolution"))

/-- `notReadOnly`. -/
def notReadOnly (device : BlockDevice) : Go Unit := do
  if device.readOnly then
    throw (.new (device.name ++ " cannot be read-only"))

/-- `notSuspended`, whose message has the state and the name swapped. -/
def notSuspended (device : BlockDevice) : Go Unit := do
  if device.state = "suspended" then
    throw (.new (device.state ++ " cannot be in a " ++ quoted device.name ++
      " state"))

/-- `noInvalidPartitionLabel`. -/
def noInvalidPartitionLabel (device : BlockDevice) : Go Unit := do
  if ["bios", "boot", "reserved"].any fun label =>
      stringsContains (stringsToLower device.partLabel) label then
    throw (.new (device.name ++ " has an invalid partition label " ++
      quoted device.partLabel))

/-- The search for the physical volume of a device. In the error the source prints all
fields of the physical volume. -/
def findPV (kname : String) : List PhysicalVolume → Go (Option PhysicalVolume)
  | [] => return none
  | pv :: rest => do
      let resolved ← Fallible.mapError
        (GoError.wrapped ("the pv " ++ pv.pvName ++
          " could not be resolved via symlink"))
        (resolve pv.pvName)
      if resolved = kname then return some pv
      findPV kname rest

/-- `onlyValidFilesystemSignatures`. -/
def onlyValidFilesystemSignatures
    (options : FilterOptions)
    (device : BlockDevice) : Go Unit := do
  if device.fsType = "" then
    return
  if device.fsType = "LVM2_member" then
    match ← findPV device.kname options.pvs with
    -- formatted but not known to LVM: it can be used again
    | none => return
    | some pv =>
        if pv.vgName = options.vg.name then
          throw (GoError.wrapped (device.name ++ " is already a LVM2_Member of " ++
            options.vg.name) errDeviceAlreadySetupCorrectly)
        if pv.vgName ≠ "" then
          throw (.new (device.name ++
            " is already a LVM2_Member of another volume group (" ++ pv.vgName ++
            ") and cannot be used for the volume group " ++ options.vg.name))
        if !device.hasChildren then
          if pv.pvFree = "0G" then
            throw (.new (device.name ++ " was reported as having no free " ++
              "capacity as a physical volume and cannot be used"))
          return
  throw (.new (device.name ++ " has an invalid filesystem signature (" ++
    device.fsType ++ ") and cannot be used"))

/-- `noChildren`. -/
def noChildren (device : BlockDevice) : Go Unit := do
  if device.hasChildren then
    throw (.new (device.name ++
      " has children block devices and could not be considered"))

/-- `usableDeviceType`. -/
def usableDeviceType (options : FilterOptions) (device : BlockDevice) :
    Go Unit := do
  if device.type = "loop" then
    if !(options.bdi.get? device.kname).getD false then
      throw (.new (device.name ++ " is an unusable loopback device"))
  else if device.type = "rom" then
    throw (.new (device.name ++ " has a device type of " ++ quoted device.type ++
      " which is unsupported"))
  else if device.type = "lvm" then
    throw errLVMPartition

/-- `DefaultFilters`. -/
def defaultFilters (options : FilterOptions) :
    GoMap (BlockDevice → Go Unit) :=
  [("partOfDeviceSelector", partOfDeviceSelector options),
    ("notReadOnly", notReadOnly),
    ("notSuspended", notSuspended),
    ("noInvalidPartitionLabel", noInvalidPartitionLabel),
    ("onlyValidFilesystemSignatures", onlyValidFilesystemSignatures options),
    ("noChildren", noChildren),
    ("usableDeviceType", usableDeviceType options)]

/-- Apply filters by name, in some order, and collect their errors. -/
def filterErrors
    (filters : GoMap (BlockDevice → Go Unit))
    (device : BlockDevice) : List String → Program sig (List GoError)
  | [] => return []
  | name :: rest => do
      match filters.get? name with
      | none => filterErrors filters device rest
      | some check =>
          match ← (check device).run with
          | .ok () => filterErrors filters device rest
          | .error error =>
              return error :: (← filterErrors filters device rest)

/-- `FilteredBlockDevice`. -/
structure FilteredBlockDevice where
  device : BlockDevice
  filterErrors : List GoError

/-- `FilteredBlockDevices`. -/
structure FilteredBlockDevices where
  available : List BlockDevice := []
  excluded : List FilteredBlockDevice := []

/-- The two maps of `filterDevices`. -/
structure FilterState where
  available : GoMap BlockDevice := []
  excluded : GoMap FilteredBlockDevice := []

/-- Add an entry unless the key is taken. -/
def insertNew {α : Type} (entries : GoMap α) (key : String) (value : α) :
    GoMap α :=
  if entries.has key then entries else entries.set key value

/-- The values of a map in the order of a `range` over it. -/
def mapValues {α : Type} (entries : GoMap α) : Program sig (List α) := do
  return (← mapOrder entries.keys).filterMap entries.get?

/-- The result of `filterDevices` from its maps. -/
def FilterState.finish (state : FilterState) :
    Program sig FilteredBlockDevices := do
  let excluded ← mapValues state.excluded
  let available ← mapValues state.available
  return { available, excluded }

/-- Take over the result for the children of a device. The errors of a device
that is already excluded are appended to a copy of its entry, so they are
lost. -/
def FilterState.merge (state : FilterState) (result : FilteredBlockDevices) :
    FilterState where
  available := result.available.foldl
    (fun entries device => insertNew entries device.kname device) state.available
  excluded := result.excluded.foldl
    (fun entries filtered => insertNew entries filtered.device.kname filtered)
    state.excluded

/-- Apply all filters to a device and enter it into one of the maps. -/
def classify
    (filters : GoMap (BlockDevice → Go Unit))
    (device : BlockDevice)
    (state : FilterState) : Program sig FilterState := do
  let errors ← filterErrors filters device (← mapOrder filters.keys)
  if errors.isEmpty then
    return { state with available := state.available.set device.kname device }
  return { state with
    excluded := insertNew state.excluded device.kname ⟨device, errors⟩ }

mutual

/-- One step of the loop of `filterDevices`. -/
def filterDevice
    (filters : GoMap (BlockDevice → Go Unit))
    (state : FilterState) : BlockDevice → Program sig FilterState
  | .mk name kname type fsState fsType readOnly partLabel children => do
      let state ←
        if children.isEmpty then pure state
        else do
          let inner ← filterLoop filters {} children
          pure (state.merge (← inner.finish))
      classify filters
        (.mk name kname type fsState fsType readOnly partLabel children) state

/-- The loop of `filterDevices`. -/
def filterLoop
    (filters : GoMap (BlockDevice → Go Unit))
    (state : FilterState) : List BlockDevice → Program sig FilterState
  | [] => return state
  | device :: rest => do
      let state ← filterDevice filters state device
      filterLoop filters state rest

end

/-- `filterDevices`. -/
def filterDevices
    (filters : GoMap (BlockDevice → Go Unit))
    (devices : List BlockDevice) : Program sig FilteredBlockDevices := do
  (← filterLoop filters {} devices).finish

namespace FilteredBlockDevices

/-- `FilteredBlockDevices.IsAvailable`. -/
def isAvailable (devices : FilteredBlockDevices) (kname : String) : Bool :=
  devices.available.any (·.kname == kname)

/-- `FilteredBlockDevices.FilterErrors`. -/
def errorsOf (devices : FilteredBlockDevices) (kname : String) :
    List GoError :=
  match devices.excluded.find? (·.device.kname == kname) with
  | some filtered => filtered.filterErrors
  | none => []

end FilteredBlockDevices

/-- `VerifyMandatoryDevicePaths`. -/
def verifyMandatoryDevicePaths (devices : FilteredBlockDevices) :
    List DevicePath → Go Unit
  | [] => return
  | path :: rest => do
      let resolved ← Fallible.mapError
        (GoError.wrapped ("failed to resolve symlink to determine available " ++
          "or setup path")) (resolve path)
      let errors := devices.errorsOf resolved
      let alreadySetup := errors.any (·.is errDeviceAlreadySetupCorrectly)
      if !devices.isAvailable resolved && !alreadySetup then
        let cause := (GoError.joinAll errors).getD
          (.new ("the device did not exist on the host, make sure it is " ++
            "connected and visible via \"lsblk --json --paths -o " ++
            lsblkColumns ++ "\" and confirm it is discoverable via a path " ++
            "resolvable (e.g. via symlink) on the host"))
        throw (GoError.wrapped ("mandatory device path " ++ quoted resolved ++
          " cannot be used, because it is NOT available as a new device for " ++
          "the volume group and NOT part of a valid and tagged existing " ++
          "volume group") cause)
      verifyMandatoryDevicePaths devices rest

/-! ## Changing the volume group -/

/-- `addDevicesToVG`. Of several volume groups of one name the last is taken. -/
def addDevicesToVG
    (vgs : List VolumeGroup)
    (vgName : String)
    (devices : List BlockDevice)
    (isWiped : Bool) : Go Unit := do
  if devices.isEmpty then
    throw (.new ("can't create vg " ++ quoted vgName ++ " with 0 devices"))
  let args := devices.map (·.kname)
  match (vgs.filter (·.name == vgName)).getLast? with
  | some existing =>
      let _ ← Fallible.mapError
        (GoError.wrapped ("failed to extend volume group " ++ vgName))
        (Lvm.extendVG existing args)
  | none =>
      Fallible.mapError
        (GoError.wrapped ("failed to create volume group " ++ vgName))
        (Lvm.createVG
          { name := vgName, pvs := args.map fun pvName => { pvName } } isWiped)

/-- The mandatory paths of `buildDevicePathMappings`. -/
def resolveRequired : List DevicePath → Go (List String)
  | [] => return []
  | path :: rest => do
      let resolved ← Fallible.mapError
        (Lvm.wrappedAt ("failed to resolve path " ++ path ++ ", ")) (resolve path)
      return resolved :: (← resolveRequired rest)

/-- The optional paths of `buildDevicePathMappings`; those that cannot be resolved
are left out. -/
def resolveOptional : List DevicePath → Program sig (List String)
  | [] => return []
  | path :: rest => do
      match ← (resolve path).run with
      | .ok resolved => return resolved :: (← resolveOptional rest)
      | .error _ => resolveOptional rest

/-- `buildDevicePathMappings`. -/
def buildDevicePathMappings (vg : LVMVolumeGroup) : Go (List String) := do
  match vg.spec.deviceSelector with
  | none => return []
  | some selector =>
      let required ← resolveRequired selector.paths
      let optional ← resolveOptional selector.optionalPaths
      return required ++ optional

end Lvms
