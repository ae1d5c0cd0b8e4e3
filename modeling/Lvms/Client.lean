import Lvms.World

/-!
# The client of the API server

The verbs of the client, generic in the kind of the object, and the helpers of
controller-runtime that are made of them.
-/

namespace Lvms

open Interaction

/-- Objects of a kind can be compared, as `equality.Semantic.DeepEqual` does. -/
instance Kind.decidableEqObject : (kind : Kind) → DecidableEq kind.Object
  | .lvmCluster => inferInstanceAs (DecidableEq LVMCluster)
  | .volumeGroup => inferInstanceAs (DecidableEq LVMVolumeGroup)
  | .nodeStatus => inferInstanceAs (DecidableEq LVMVolumeGroupNodeStatus)
  | .node => inferInstanceAs (DecidableEq Node)
  | .storageClass => inferInstanceAs (DecidableEq StorageClass)
  | .volumeSnapshotClass => inferInstanceAs (DecidableEq VolumeSnapshotClass)
  | .daemonSet => inferInstanceAs (DecidableEq DaemonSet)
  | .pod => inferInstanceAs (DecidableEq Pod)
  | .persistentVolumeClaim => inferInstanceAs (DecidableEq PersistentVolumeClaim)
  | .persistentVolume => inferInstanceAs (DecidableEq PersistentVolume)
  | .logicalVolume => inferInstanceAs (DecidableEq TopolvmLogicalVolume)

namespace Client

/-- `client.Get`. -/
def get (kind : Kind) (name : String) : Go kind.Object :=
  .ofProgram (call (.api (.get kind name)))

/-- `client.List`. -/
def list (kind : Kind) : Go (List kind.Object) :=
  .ofProgram (call (.api (.list kind)))

/-- `client.Create`. -/
def create (kind : Kind) (object : kind.Object) : Go kind.Object :=
  .ofProgram (call (.api (.create kind object)))

/-- `client.Update`. -/
def update (kind : Kind) (object : kind.Object) : Go kind.Object :=
  .ofProgram (call (.api (.update kind object)))

/-- `client.Delete`. -/
def delete (kind : Kind) (name : String) : Go Unit :=
  .ofProgram (call (.api (.delete kind name)))

/-- `client.Patch` with `client.Apply`, of a storage class. -/
def applyStorageClass (storageClass : StorageClass) : Go Unit :=
  .ofProgram (call (.api (.applyStorageClass storageClass)))

/-- `client.Status().Update`, of a cluster. -/
def updateStatus (cluster : LVMCluster) : Go Unit :=
  .ofProgram (call (.api (.updateStatus cluster)))

/-- `client.List` of the claims with a storage class. -/
def listPVCs (storageClassName : String) : Go (List PersistentVolumeClaim) :=
  .ofProgram (call (.api (.listPVCs storageClassName)))

/-- `client.List` of the volumes with a storage class. -/
def listPVs (storageClassName : String) : Go (List PersistentVolume) :=
  .ofProgram (call (.api (.listPVs storageClassName)))

/-- `controllerutil.OperationResult`. -/
inductive OperationResult
  | none | created | updated
  deriving DecidableEq, Repr

/-- `controllerutil.CreateOrUpdate`: get the object, change it, and store it if
the change made a difference. The object is as the API server answered last. -/
def createOrUpdateObject
    (kind : Kind)
    (initial : kind.Object)
    (mutate : kind.Object → Except GoError kind.Object) :
    Go (OperationResult × kind.Object) := do
  match ← (get kind (kind.nameOf initial)).attempt with
  | .error error =>
      if !error.isNotFound then
        throw error
      let object ← (mutate initial : Except GoError kind.Object)
      let created ← create kind object
      return (.created, created)
  | .ok existing =>
      let object ← (mutate existing : Except GoError kind.Object)
      if object = existing then
        return (.none, existing)
      let updated ← update kind object
      return (.updated, updated)

/-- `controllerutil.CreateOrUpdate` for callers that do not use the object
afterwards. -/
def createOrUpdate
    (kind : Kind)
    (initial : kind.Object)
    (mutate : kind.Object → Except GoError kind.Object) :
    Go OperationResult := do
  let (result, _) ← createOrUpdateObject kind initial mutate
  return result

end Client

end Lvms
