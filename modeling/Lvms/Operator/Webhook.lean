import Lvms.Interaction.Checks
import Lvms.VgManager.Raid

/-!
# The admission webhook

Defaulting and validation of `LVMCluster` objects. A validation returns warnings
and possibly an error. Where a Go map is ranged over, the entries come in the
order of the list that models the map.
-/

namespace Lvms

open Interaction

namespace Webhook

/-- The result of a validation. -/
abbrev Admission := Checked String GoError

/-- `lvmClusterValidator`, with what it takes from its surroundings. -/
structure Validator where
  /-- `cluster.GetOperatorNamespace`. -/
  getOperatorNamespace : Except GoError String
  /-- `validation.IsQualifiedName`: what is wrong with the key of a label. -/
  isQualifiedName : String → List String
  /-- `validation.IsValidLabelValue`: what is wrong with the value of a label. -/
  isValidLabelValue : String → List String

/-! ## Errors -/

def errDeviceClassNotFound : GoError :=
  .new "DeviceClass not found in the LVMCluster"

def errThinPoolConfigNotSet : GoError :=
  .new "ThinPoolConfig is not set for the DeviceClass"

def errNodeSelectorNotSet : GoError :=
  .new "NodeSelector is not set for the DeviceClass"

def errRAIDConfigNotSet : GoError :=
  .new "RAIDConfig is not set for the DeviceClass"

def errInvalidNamespace : GoError :=
  .new "invalid namespace was supplied"

def errOnlyOneDefaultDeviceClassAllowed : GoError :=
  .new "only one default deviceClass is allowed"

def errPathsOrOptionalPathsMandatoryWithNonNilDeviceSelector : GoError :=
  .new ("either paths or optionalPaths must be specified when DeviceSelector " ++
    "is specified")

def errEmptyPathsWithMultipleDeviceClasses : GoError :=
  .new ("path list should not be empty when there are multiple deviceClasses")

def errDuplicateLVMCluster : GoError :=
  .new ("duplicate LVMClusters are not allowed, remove the old LVMCluster or " ++
    "work with the existing instance")

def errThinPoolConfigCannotBeChanged : GoError :=
  .new "ThinPoolConfig can not be changed"

def errThinPoolMetadataSizeCanOnlyBeIncreased : GoError :=
  .new "thin pool metadata size can only be increased"

def errNodeSelectorCannotBeChanged : GoError :=
  .new "NodeSelector can not be changed"

def errDevicePathsCannotBeAddedInUpdate : GoError :=
  .new ("device paths can not be added after a device class has been " ++
    "initialized")

def errForceWipeOptionCannotBeChanged : GoError :=
  .new "ForceWipeDevicesAndDestroyAllData can not be changed"

def errRAIDAndThinPoolMutuallyExclusive : GoError :=
  .new "raidConfig and thinPoolConfig are mutually exclusive"

def errRAIDMirrorsOnlyForRAID1AndRAID10 : GoError :=
  .new "mirrors is only valid for raid1 and raid10"

def errRAIDStripesNotForRAID1 : GoError :=
  .new "stripes is only valid for raid4, raid5, raid6, and raid10"

def errRAIDStripeSizeNotForRAID1 : GoError :=
  .new "stripeSize is only valid for raid4, raid5, raid6, and raid10"

def errRAIDDeviceSelectorRequired : GoError :=
  .new "at least one of paths or optionalPaths is required when raidConfig is set"

def errRAIDStripeSizeNotPowerOf2 : GoError :=
  .new ("stripeSize must be a power of 2 (e.g., 64Ki, 128Ki, 256Ki, 512Ki)")

def errRAIDConfigCannotBeChanged : GoError :=
  .new "raidConfig cannot be changed"

/-! ## Sizes -/

/-- A quantity of bytes. -/
def bytes (count : Int) (text : String) : Quantity :=
  { nano := count * 1000000000, text }

/-- `ThinPoolMetadataSizeMinimum`. -/
def thinPoolMetadataSizeMinimum : Quantity := bytes 2097152 "2Mi"

/-- `ThinPoolMetadataSizeMaximum`. -/
def thinPoolMetadataSizeMaximum : Quantity := bytes 17179869184 "16Gi"

/-- `ThinPoolMetadataSizeDefault`. -/
def thinPoolMetadataSizeDefault : Quantity := bytes 1073741824 "1Gi"

/-- `ChunkSizeMinimum`. -/
def chunkSizeMinimum : Quantity := bytes 65536 "64Ki"

/-- `ChunkSizeMaximum`. -/
def chunkSizeMaximum : Quantity := bytes 1073741824 "1Gi"

/-- `ThinPoolConfigMaxRecommendedSizePercent`. -/
def thinPoolConfigMaxRecommendedSizePercent : Int := 90

/-! ## Checks of one object -/

/-- `verifyThinPoolConfig`, which only warns. -/
def verifyThinPoolConfig (config : ThinPoolConfig) : List String :=
  let limit := toString thinPoolConfigMaxRecommendedSizePercent
  if config.sizePercent ≤ thinPoolConfigMaxRecommendedSizePercent then []
  else ["ThinPoolConfig.SizePercent for " ++ config.name ++
    " is greater than " ++ limit ++ "%, this may lead to issues once the thin " ++
    "pool metadata that is created by default is nearing full capacity, as it " ++
    "will be impossible to extent the metadata pool size. You can ignore this " ++
    "warning if a) you are certain that you do not need to extend the metadata " ++
    "pool in the future or b) you set it above " ++ limit ++ "% but below 100% " ++
    "because the buffer is sufficiently big with a smaller reserved percentage"]

/-- `verifyDeviceClass`. -/
def verifyDeviceClass (l : LVMCluster) : Except GoError (List String) :=
  let deviceClasses := l.spec.deviceClasses
  let countDefault := deviceClasses.countP (·.default)
  let warnings := deviceClasses.flatMap fun deviceClass =>
    match deviceClass.thinPoolConfig with
    | some config => verifyThinPoolConfig config
    | none => []
  if 1 < countDefault then
    .error (.wrap "" errOnlyOneDefaultDeviceClassAllowed (". Currently, there are " ++
      toString countDefault ++ " default deviceClasses"))
  else if countDefault = 0 then
    .ok (warnings ++ ["no default deviceClass was specified, it will be " ++
      "mandatory to specify the generated storage class in any PVC explicitly " ++
      "or you will have to declare another default StorageClass"])
  else .ok warnings

/-- A device selector without any path. -/
def hasNoPaths (selector : DeviceSelector) : Bool :=
  selector.paths.isEmpty && selector.optionalPaths.isEmpty

/-- `verifyPathsAreNotEmpty`. -/
def verifyPathsAreNotEmpty (l : LVMCluster) : Except GoError (List String) := do
  let deviceClasses := l.spec.deviceClasses
  forM deviceClasses fun deviceClass =>
    failIf (deviceClass.deviceSelector.any hasNoPaths)
      errPathsOrOptionalPathsMandatoryWithNonNilDeviceSelector
  let withoutPaths := (deviceClasses.filter (·.deviceSelector.isNone)).map (·.name)
  if 1 < deviceClasses.length && 0 < withoutPaths.length then
    .error (.wrap "" errEmptyPathsWithMultipleDeviceClasses
      (". Please specify device path(s) under deviceSelector.paths for " ++
        ",".intercalate withoutPaths ++ " deviceClass(es)"))
  else if deviceClasses.length = 1 && withoutPaths.length = 1 then
    .ok ["no device path(s) under deviceSelector.paths was specified for the " ++
      withoutPaths.headD "" ++ " deviceClass, device discovery will be based on " ++
      "the deviceDiscoveryPolicy (defaults to Static). This is not recommended " ++
      "for production environments. Please refer to the limitations outlined in " ++
      "the product documentation for further details."]
  else .ok []

/-- A path outside `/dev` is refused; `kind` says which list it is from. -/
def requireDevicePath (kind : String) (path : DevicePath) : Except GoError Unit :=
  failIf (!stringsHasPrefix path "/dev/")
    (.new (kind ++ " " ++ path ++ " must be an absolute path to the device"))

/-- `verifyAbsolutePath`. -/
def verifyAbsolutePath (l : LVMCluster) : Except GoError Unit :=
  forM l.spec.deviceClasses fun deviceClass =>
    match deviceClass.deviceSelector with
    | none => .ok ()
    | some selector => do
        forM selector.paths (requireDevicePath "path")
        forM selector.optionalPaths (requireDevicePath "optional path")

/-- The paths seen so far: for each node selector and path the name of its device
class. The source compares selectors by their printed form, which equal selectors share
but different ones can share as well. The selectors themselves are compared here, so that
everything the source accepts is accepted. -/
abbrev ClaimedPaths := List ((Option NodeSelector × DevicePath) × String)

/-- Record a path of a device class, unless it is already recorded. -/
def claimPath
    (kind : String)
    (deviceClass : DeviceClass)
    (claimed : ClaimedPaths)
    (path : DevicePath) : Except GoError ClaimedPaths :=
  match claimed.lookup (deviceClass.nodeSelector, path) with
  | some owner =>
      if owner ≠ deviceClass.name then
        .error (.new ("error: " ++ kind ++ " " ++ path ++
          " overlaps in two different deviceClasss " ++ owner ++ " and " ++
          deviceClass.name))
      else
        .error (.new ("error: " ++ kind ++ " " ++ path ++
          " is specified at multiple places in deviceClass " ++ owner))
  | none => .ok (((deviceClass.nodeSelector, path), deviceClass.name) :: claimed)

/-- Record the paths of a device class. -/
def claimPaths (claimed : ClaimedPaths) (deviceClass : DeviceClass) :
    Except GoError ClaimedPaths :=
  match deviceClass.deviceSelector with
  | none => .ok claimed
  | some selector => do
      let claimed ← selector.paths.foldlM
        (claimPath "device path" deviceClass) claimed
      selector.optionalPaths.foldlM
        (claimPath "optional device path" deviceClass) claimed

/-- `verifyNoDeviceOverlap`. -/
def verifyNoDeviceOverlap (l : LVMCluster) : Except GoError Unit := do
  let _ ← l.spec.deviceClasses.foldlM claimPaths []
  return ()

/-- `verifyFstype`. -/
def verifyFstype (l : LVMCluster) : Except GoError Unit :=
  forM l.spec.deviceClasses fun deviceClass =>
    failIf (deviceClass.filesystemType != .ext4 && deviceClass.filesystemType != .xfs)
      (.new ("fstype '" ++ fstypeText deviceClass.filesystemType ++
        "' is not a supported filesystem type"))

/-- A quantity outside a range is refused; `what` names it. -/
def requireBetween
    (what : String)
    (least greatest quantity : Quantity) : Except GoError Unit := do
  failIf (quantity.nano < least.nano)
    (.new (what ++ " must be greater than or equal to " ++ least.text))
  failIf (greatest.nano < quantity.nano)
    (.new (what ++ " must be less than or equal to " ++ greatest.text))

/-- The check of the chunk size of one thin pool. -/
def verifyChunkSizeOf (config : ThinPoolConfig) : Except GoError Unit := do
  failIf (config.chunkSizeCalculationPolicy = .host && config.chunkSize.isSome)
    (.new ("chunk size can not be set when chunk size calculation policy is " ++
      "set to Host"))
  match config.chunkSize with
  | none => .ok ()
  | some size => requireBetween "chunk size" chunkSizeMinimum chunkSizeMaximum size

/-- `verifyChunkSize`. -/
def verifyChunkSize (l : LVMCluster) : Except GoError Unit :=
  forM l.spec.deviceClasses fun deviceClass =>
    match deviceClass.thinPoolConfig with
    | none => .ok ()
    | some config => verifyChunkSizeOf config

/-- The metadata size that a static policy falls back to. -/
def defaultedMetadataSize (config : ThinPoolConfig) : Option Quantity :=
  if config.metadataSizeCalculationPolicy = .static && config.metadataSize.isNone then
    some thinPoolMetadataSizeDefault
  else config.metadataSize

/-- The check of the metadata size of one thin pool. -/
def verifyMetadataSizeOf (config : ThinPoolConfig) : Except GoError Unit := do
  failIf (config.metadataSizeCalculationPolicy = .host && config.metadataSize.isSome)
    (.new ("metadata size can not be set when metadata size calculation policy " ++
      "is set to Host"))
  match defaultedMetadataSize config with
  | none => .ok ()
  | some size =>
      requireBetween "metadata size" thinPoolMetadataSizeMinimum
        thinPoolMetadataSizeMaximum size

/-- The warning about a metadata size that is left to the operator. -/
def metadataSizeWarning (config : ThinPoolConfig) : List String :=
  if config.metadataSizeCalculationPolicy = .static && config.metadataSize.isNone then
    ["metadata size in unset. LVMS will set it to 1Gi by default"]
  else []

/-- `verifyMetadataSize`. -/
def verifyMetadataSize (l : LVMCluster) : Except GoError (List String) := do
  forM l.spec.deviceClasses fun deviceClass =>
    match deviceClass.thinPoolConfig with
    | none => .ok ()
    | some config => verifyMetadataSizeOf config
  return l.spec.deviceClasses.flatMap fun deviceClass =>
    match deviceClass.thinPoolConfig with
    | none => []
    | some config => metadataSizeWarning config

/-- `verifyDeviceDiscoveryPolicy`. -/
def verifyDeviceDiscoveryPolicy (l : LVMCluster) : List String :=
  (l.spec.deviceClasses.filter fun deviceClass =>
    deviceClass.deviceDiscoveryPolicy == some .dynamic &&
      !deviceClass.hasExplicitPaths).map fun deviceClass =>
    "deviceDiscoveryPolicy is set to Dynamic for device class " ++
      quoted deviceClass.name ++ " without explicit device paths. LVMS will " ++
      "continuously discover and add new devices. This is not recommended for " ++
      "production environments."

/-- `lvmsOwnedParameterKeys`. -/
def lvmsOwnedParameterKeys : List String := [deviceClassKey, fsTypeKey]

/-- `constants.ReservedStorageClassLabelKeys`. -/
def reservedStorageClassLabelKeys : List String :=
  ["app.kubernetes.io/managed-by", "app.kubernetes.io/part-of",
    "app.kubernetes.io/name", "app.kubernetes.io/component"]

/-- `labels.OwnedByPrefix`. -/
def ownedByPrefix : String := "owned-by.topolvm.io"

/-- The start of a message about a device class. -/
def deviceClassText (deviceClass : DeviceClass) (text : String) : String :=
  "device class " ++ quoted deviceClass.name ++ ": " ++ text

/-- The check of one additional parameter. -/
def validateParameterKey (deviceClass : DeviceClass) (key : String) :
    Except GoError Unit := do
  failIf (key = "")
    (.new (deviceClassText deviceClass
      "additionalParameters must not contain empty keys"))
  failIf (lvmsOwnedParameterKeys.contains key)
    (.new (deviceClassText deviceClass ("additionalParameters key " ++
      quoted key ++ " is managed by LVMS and cannot be set")))

namespace Validator

variable (v : Validator)

/-- The check of one additional label. -/
def validateLabel (deviceClass : DeviceClass) (key value : String) :
    Except GoError Unit := do
  failIf (!(v.isQualifiedName key).isEmpty)
    (.new (deviceClassText deviceClass ("additionalLabels key " ++ quoted key ++
      " is invalid: " ++ "; ".intercalate (v.isQualifiedName key))))
  failIf (!(v.isValidLabelValue value).isEmpty)
    (.new (deviceClassText deviceClass ("additionalLabels value " ++ quoted value ++
      " for key " ++ quoted key ++ " is invalid: " ++
      "; ".intercalate (v.isValidLabelValue value))))
  failIf (reservedStorageClassLabelKeys.contains key)
    (.new (deviceClassText deviceClass ("additionalLabels key " ++ quoted key ++
      " is operator-reserved and cannot be set")))
  failIf (stringsHasPrefix key ownedByPrefix)
    (.new (deviceClassText deviceClass ("additionalLabels key " ++ quoted key ++
      " is operator-reserved and cannot be set")))

/-- `validateAdditionalParamsAndLabels`. -/
def validateAdditionalParamsAndLabels (l : LVMCluster) : Except GoError Unit :=
  forM l.spec.deviceClasses fun deviceClass =>
    match deviceClass.storageClassOptions with
    | none => .ok ()
    | some options => do
        forM options.additionalParameters fun entry =>
          validateParameterKey deviceClass entry.1
        forM options.additionalLabels fun entry =>
          v.validateLabel deviceClass entry.1 entry.2

end Validator

/-- The number of devices a device class names. -/
def deviceCount (deviceClass : DeviceClass) : Nat :=
  match deviceClass.deviceSelector with
  | none => 0
  | some selector => selector.paths.length + selector.optionalPaths.length

/-- `size & (size - 1) != 0` or not positive. -/
def isNoPowerOf2 (size : Int) : Bool :=
  size ≤ 0 || (size.toNat &&& (size.toNat - 1)) != 0

/-- `fmt.Errorf("device class %q: %w", ...)`. -/
def refusedFor (deviceClass : DeviceClass) (cause : GoError) : GoError :=
  .wrap (deviceClassText deviceClass "") cause ""

/-- The checks of a RAID configuration. -/
def verifyRAIDConfigOf (deviceClass : DeviceClass) (config : RAIDConfig) :
    Except GoError Unit := do
  failIf deviceClass.thinPoolConfig.isSome
    (refusedFor deviceClass errRAIDAndThinPoolMutuallyExclusive)
  failIf (config.mirrors.isSome && config.type != .raid1 && config.type != .raid10)
    (refusedFor deviceClass errRAIDMirrorsOnlyForRAID1AndRAID10)
  failIf (config.stripes.isSome && config.type == .raid1)
    (refusedFor deviceClass errRAIDStripesNotForRAID1)
  failIf (config.stripeSize.isSome && config.type == .raid1)
    (refusedFor deviceClass errRAIDStripeSizeNotForRAID1)
  failIf (config.stripeSize.any (isNoPowerOf2 ·.value))
    (refusedFor deviceClass errRAIDStripeSizeNotPowerOf2)
  failIf (!deviceClass.hasExplicitPaths) (refusedFor deviceClass errRAIDDeviceSelectorRequired)
  let totalDevices := deviceCount deviceClass
  let mirrors := config.effectiveMirrors
  let minDevices := config.type.minDeviceCount mirrors config.stripes
  failIf ((totalDevices : Int) < minDevices)
    (.new (deviceClassText deviceClass (config.type.string ++
      " requires at least " ++ toString minDevices ++ " devices, got " ++
      toString totalDevices)))
  let divisor := wrapInt64 (mirrors + 1)
  failIf (config.type == .raid10 &&
      deviceClass.deviceSelector.all (·.optionalPaths.isEmpty) &&
      (totalDevices : Int).tmod divisor != 0)
    (.new (deviceClassText deviceClass ("raid10 with mirrors=" ++
      toString mirrors ++ " requires device count to be a multiple of " ++
      toString divisor ++ ", got " ++ toString totalDevices)))

/-- `verifyRAIDConfig`. -/
def verifyRAIDConfig (l : LVMCluster) : Except GoError Unit :=
  forM l.spec.deviceClasses fun deviceClass =>
    match deviceClass.raidConfig with
    | none => .ok ()
    | some config => verifyRAIDConfigOf deviceClass config

/-! ## Checks of a change -/

/-- `validateStorageClassOptionsUpgrade` of one device class; `old` has the options
of the same device class before, if it was there. -/
def validateOptionsUpgrade
    (old : Option (Option StorageClassOptions))
    (deviceClass : DeviceClass) : Except GoError Unit :=
  match deviceClass.storageClassOptions, old with
  | some options, some none => do
      failIf (options.reclaimPolicy.any (· != .delete))
        (.new (deviceClassText deviceClass "reclaimPolicy is immutable once set"))
      failIf (options.volumeBindingMode.any (· != .waitForFirstConsumer))
        (.new (deviceClassText deviceClass
          "volumeBindingMode is immutable once set"))
      failIf (!options.additionalParameters.isEmpty)
        (.new (deviceClassText deviceClass
          "additionalParameters is immutable once set"))
  | _, _ => .ok ()

/-- `validateStorageClassOptionsUpgrade`. In a map the last entry of a name
stays. -/
def validateStorageClassOptionsUpgrade (old new : List DeviceClass) :
    Except GoError Unit :=
  forM new fun deviceClass =>
    validateOptionsUpgrade
      ((old.reverse.find? (·.name == deviceClass.name)).map (·.storageClassOptions))
      deviceClass

/-- `validateDeviceClassRemoval`. -/
def validateDeviceClassRemoval (old new : List DeviceClass) :
    Except GoError Unit := do
  failIf new.isEmpty
    (.new ("cannot remove all device classes: at least one device class must " ++
      "remain"))
  forM old fun oldDeviceClass =>
    failIf (!new.any (·.name == oldDeviceClass.name) && oldDeviceClass.default)
      (.new ("cannot delete default device class " ++ oldDeviceClass.name))

/-- The device class with a name. -/
def deviceClassNamed (l : LVMCluster) (name : String) : Option DeviceClass :=
  l.spec.deviceClasses.find? (·.name == name)

/-- A part of the device class with a name; `notSet` is the error when the device
class has no such part. -/
def partOfDeviceClass {α : Type}
    (part : DeviceClass → Option α)
    (notSet : GoError)
    (l : LVMCluster)
    (name : String) : Except GoError α :=
  match deviceClassNamed l name with
  | none => .error errDeviceClassNotFound
  | some deviceClass =>
      match part deviceClass with
      | some value => .ok value
      | none => .error notSet

/-- `getThinPoolsConfigOfDeviceClass`. -/
def getThinPoolsConfigOfDeviceClass :
    LVMCluster → String → Except GoError ThinPoolConfig :=
  partOfDeviceClass (·.thinPoolConfig) errThinPoolConfigNotSet

/-- `getRAIDConfigOfDeviceClass`. -/
def getRAIDConfigOfDeviceClass : LVMCluster → String → Except GoError RAIDConfig :=
  partOfDeviceClass (·.raidConfig) errRAIDConfigNotSet

/-- `getNodeSelectorOfDeviceClass`. -/
def getNodeSelectorOfDeviceClass :
    LVMCluster → String → Except GoError NodeSelector :=
  partOfDeviceClass (·.nodeSelector) errNodeSelectorNotSet

/-- `getPathsOfDeviceClass`: the selector, empty when there is none. -/
def getPathsOfDeviceClass (l : LVMCluster) (name : String) :
    Except GoError DeviceSelector :=
  match deviceClassNamed l name with
  | none => .error errDeviceClassNotFound
  | some deviceClass => .ok (deviceClass.deviceSelector.getD {})

/-- A part has been added to a device class that was there, or removed from it. -/
def presenceChanged {α : Type} (new : Option α) (old : Except GoError α) : Bool :=
  match new, old with
  | some _, .error error => !error.is errDeviceClassNotFound
  | none, .ok _ => true
  | _, _ => false

/-- A static metadata size only grows; a size that is not set is the default. -/
def validateMetadataSizeUpdate (old new : ThinPoolConfig) : Admission Unit :=
  if new.metadataSizeCalculationPolicy = .static then do
    Checked.warn (if new.metadataSize.isNone then
      ["thin pool metadata size is unset. LVMS operator will automatically set " ++
        "it to 1Gb and grow metadata size if needed"] else [])
    failIf (old.metadataSizeCalculationPolicy = .static &&
        (new.metadataSize.getD thinPoolMetadataSizeDefault).value <
          (old.metadataSize.getD thinPoolMetadataSizeDefault).value)
      (GoError.wrapped "ThinPoolConfig.MetadataSize is invalid"
        errThinPoolMetadataSizeCanOnlyBeIncreased)
  else pure ()

/-- The thin pool of a device class that has one before and after the update. -/
def validateThinPoolUpdate (old new : ThinPoolConfig) : Admission Unit := do
  failIf (new.name != old.name)
    (GoError.wrapped "ThinPoolConfig.Name is invalid"
      errThinPoolConfigCannotBeChanged)
  failIf (new.sizePercent != old.sizePercent)
    (GoError.wrapped "ThinPoolConfig.SizePercent is invalid"
      errThinPoolConfigCannotBeChanged)
  failIf (new.chunkSizeCalculationPolicy != old.chunkSizeCalculationPolicy)
    (GoError.wrapped "ThinPoolConfig.ChunkSizeCalculationPolicy is invalid"
      errThinPoolConfigCannotBeChanged)
  failIf (new.chunkSize != old.chunkSize)
    (GoError.wrapped "ThinPoolConfig.ChunkSize is invalid"
      errThinPoolConfigCannotBeChanged)
  validateMetadataSizeUpdate old new

/-- The part of `ValidateUpdate` about the thin pool of a device class. -/
def validateThinPool (old : LVMCluster) (deviceClass : DeviceClass) :
    Admission Unit := do
  let oldConfig := getThinPoolsConfigOfDeviceClass old deviceClass.name
  failIf (presenceChanged deviceClass.thinPoolConfig oldConfig)
    errThinPoolConfigCannotBeChanged
  match deviceClass.thinPoolConfig, oldConfig with
  | some new, .ok old => validateThinPoolUpdate old new
  | _, _ => pure ()

/-- The part of `ValidateUpdate` about the RAID configuration of a device
class. -/
def validateRAID (old : LVMCluster) (deviceClass : DeviceClass) :
    Except GoError Unit := do
  let oldConfig := getRAIDConfigOfDeviceClass old deviceClass.name
  failIf (presenceChanged deviceClass.raidConfig oldConfig)
    errRAIDConfigCannotBeChanged
  match deviceClass.raidConfig, oldConfig with
  | some new, .ok old =>
      failIf (new != old)
        (GoError.wrapped "RAIDConfig fields are immutable"
          errRAIDConfigCannotBeChanged)
  | _, _ => .ok ()

/-- The part of `ValidateUpdate` about the node selector of a device class. -/
def validateNodeSelector (old : LVMCluster) (deviceClass : DeviceClass) :
    Except GoError Unit := do
  let oldSelector := getNodeSelectorOfDeviceClass old deviceClass.name
  failIf (presenceChanged deviceClass.nodeSelector oldSelector)
    errNodeSelectorCannotBeChanged
  match deviceClass.nodeSelector, oldSelector with
  | some new, .ok old => failIf (new != old) errNodeSelectorCannotBeChanged
  | _, _ => .ok ()

/-- The part of `ValidateUpdate` about the devices of a device class. A new device
class is not checked. -/
def validateDevices (old : LVMCluster) (deviceClass : DeviceClass) :
    Except GoError Unit :=
  let new := deviceClass.deviceSelector.getD {}
  match getPathsOfDeviceClass old deviceClass.name with
  | .error _ => .ok ()
  | .ok old => do
      failIf (old.forceWipeDevicesAndDestroyAllData !=
          new.forceWipeDevicesAndDestroyAllData)
        errForceWipeOptionCannotBeChanged
      failIf (hasNoPaths old && !hasNoPaths new) errDevicePathsCannotBeAddedInUpdate
      failIf (!hasNoPaths old && hasNoPaths new)
        (.new ("cannot remove all device paths from device class " ++
          deviceClass.name ++ ": at least one device path must remain"))

/-- The loop body of `ValidateUpdate`. -/
def validateDeviceClassUpdate (old : LVMCluster) (deviceClass : DeviceClass) :
    Admission Unit := do
  validateThinPool old deviceClass
  validateRAID old deviceClass
  validateNodeSelector old deviceClass
  validateDevices old deviceClass

/-! ## The webhooks -/

/-- `Default`. -/
def default (l : LVMCluster) : LVMCluster :=
  { l with spec := { l.spec with
      deviceClasses := l.spec.deviceClasses.map fun deviceClass =>
        if deviceClass.deviceDiscoveryPolicy.isNone && !deviceClass.hasExplicitPaths then
          { deviceClass with deviceDiscoveryPolicy := some .static }
        else deviceClass } }

/-- A second cluster is refused. -/
def refuseDuplicate : List LVMCluster → Except GoError Unit
  | [] => .ok ()
  | other :: _ =>
      .error (GoError.wrapped ("LVMCluster exists at " ++
        quoted (other.metadata.inNamespace ++ "/" ++ other.metadata.name))
        errDuplicateLVMCluster)

namespace Validator

variable (v : Validator)

/-- `ValidateCreate`; `existing` is the answer to the list of the clusters in the
namespace. -/
def validateCreate
    (existing : Except GoError (List LVMCluster))
    (l : LVMCluster) : Admission Unit := do
  let operatorNamespace ← v.getOperatorNamespace.mapError
    (GoError.wrapped "could not verify namespace of lvmcluster")
  failIf (operatorNamespace != l.metadata.inNamespace)
    (GoError.wrapped ("creating LVMCluster is only supported within namespace " ++
      quoted operatorNamespace) errInvalidNamespace)
  let existing ← existing.mapError
    (GoError.wrap "could not verify that LVMCluster was not already created " · "")
  refuseDuplicate existing
  Checked.warn (← verifyDeviceClass l)
  verifyRAIDConfig l
  Checked.warn (← verifyPathsAreNotEmpty l)
  verifyAbsolutePath l
  verifyNoDeviceOverlap l
  verifyFstype l
  verifyChunkSize l
  Checked.warn (← verifyMetadataSize l)
  Checked.warn (verifyDeviceDiscoveryPolicy l)
  v.validateAdditionalParamsAndLabels l

/-- `ValidateUpdate`. -/
def validateUpdate (old l : LVMCluster) : Admission Unit := do
  Checked.warn (← verifyDeviceClass l)
  verifyRAIDConfig l
  Checked.warn (← verifyPathsAreNotEmpty l)
  verifyAbsolutePath l
  verifyNoDeviceOverlap l
  verifyFstype l
  v.validateAdditionalParamsAndLabels l
  (validateStorageClassOptionsUpgrade old.spec.deviceClasses
    l.spec.deviceClasses).mapError
      (GoError.wrapped "storageClassOptions upgrade validation failed")
  (validateDeviceClassRemoval old.spec.deviceClasses l.spec.deviceClasses).mapError
    (GoError.wrapped "device class removal validation failed")
  forM l.spec.deviceClasses (validateDeviceClassUpdate old)

end Validator
end Webhook
end Lvms
