import Lvms.Operator.Resources
import Lvms.VgManager.Controller

/-!
# The controller of persistent volume claims

For a pending claim of a storage class of TopoLVM the controller compares the requested
storage with the free storage that TopoLVM writes into annotations of the nodes, and
publishes an event when no node has enough. Parsing and printing of quantities and floats
are parameters.
-/

namespace Lvms

open Interaction

/-- The reconciler of claims, with the library functions it calls. -/
structure ClaimReconciler where
  /-- `resource.ParseQuantity`. -/
  parseQuantity : String → Except GoError Quantity
  /-- `Quantity.String`. -/
  format : Quantity → String
  /-- The conversion of an integer to `float64`. -/
  float64 : Int → Rat
  /-- The `%.1f` verb. -/
  fixed : Rat → String

/-- `CapacityAnnotation`. -/
def capacityAnnotation : String := "capacity.topolvm.io/"

/-- The annotation with the capacity of a device class. -/
def capacityKey (deviceClass : String) : String :=
  capacityAnnotation ++ deviceClass

/-- `topolvm.DefaultDeviceClassAnnotationName`. -/
def defaultDeviceClassAnnotationName : String := "00default"

/-- `Requests.Storage`, which is zero when there is no such request. -/
def PersistentVolumeClaim.requestedStorage (pvc : PersistentVolumeClaim) : Quantity :=
  pvc.requests.getD { nano := 0 }

namespace ClaimReconciler

variable (r : ClaimReconciler)

/-- The loop of `prettyByteSize`. -/
def prettyUnits (bf : Rat) : List String → String
  | [] => r.fixed bf ++ "YiB"
  | unit :: rest =>
      -- The width of the `%3.1f` verb never pads: its shortest text is `0.0`.
      if -1024 < bf ∧ bf < 1024 then r.fixed bf ++ unit ++ "B"
      else prettyUnits (bf / 1024) rest

/-- `prettyByteSize`. -/
def prettyByteSize (b : Int) : String :=
  r.prettyUnits (r.float64 b) ["", "Ki", "Mi", "Gi", "Ti", "Pi", "Ei", "Zi"]

/-- How the loop over the nodes ends. -/
inductive CapacityCheck
  | failedToParse
  | found
  | notFound (nodeMessage : List String)
  deriving DecidableEq, Repr

/-- The loop over the nodes. -/
def checkCapacity
    (key : String)
    (requestedStorage : Quantity)
    (nodeMessage : List String) : List Node → CapacityCheck
  | [] => .notFound nodeMessage
  | node :: rest =>
      match node.metadata.annotations.get? key with
      | none => checkCapacity key requestedStorage nodeMessage rest
      | some capacity =>
          match r.parseQuantity capacity with
          | .error _ => .failedToParse
          | .ok capacityQuantity =>
              if requestedStorage.nano < capacityQuantity.nano then .found
              else
                checkCapacity key requestedStorage
                  (nodeMessage ++ ["node " ++ node.metadata.name ++ " has " ++
                    r.prettyByteSize capacityQuantity.value ++ " free storage"]) rest

/-- The device class of a storage class. -/
def deviceClassOf (sc : StorageClass) : String :=
  (sc.parameters.get? deviceClassKey).getD defaultDeviceClassAnnotationName

/-- The text of the event. -/
def notEnoughCapacity (requestedStorage : Quantity) (nodeMessage : List String) : String :=
  "Requested storage (" ++ r.format requestedStorage ++
    ") is greater than available capacity on any node (" ++
    ",".intercalate (nodeMessage.insertionSort fun left right => left ≤ right) ++ ")."

/-- The end of `Reconcile`, after the loop over the nodes. -/
def reportCapacity (pvc : PersistentVolumeClaim) : CapacityCheck → Go Result
  | .failedToParse => return {}
  | .found => return { requeueAfter := 15 }
  | .notFound nodeMessage => do
      eventf pvc.metadata.name true "NotEnoughCapacity"
        (r.notEnoughCapacity pvc.requestedStorage nodeMessage)
      return { requeueAfter := 15 }

/-- The part of `Reconcile` for a claim of a storage class of TopoLVM. -/
def reconcilePending (pvc : PersistentVolumeClaim) (deviceClass : String) : Go Result := do
  if pvc.phase != .pending then
    return {}
  let nodeList ← Client.list .node
  r.reportCapacity pvc (r.checkCapacity (capacityKey deviceClass)
    pvc.requestedStorage [] nodeList)

/-- `Reconcile`, of the claim with a name. -/
def reconcile (name : String) : Go Result := do
  match ← (Client.get .persistentVolumeClaim name).attempt with
  | .error err =>
      if err.isNotFound then
        return {}
      throw err
  | .ok pvc =>
      if pvc.metadata.deletionTimestamp.isSome then
        return {}
      match pvc.storageClassName with
      | none => return {}
      | some storageClassName =>
          let sc ← Client.get .storageClass storageClassName
          if sc.provisioner != topolvmCSIDriverName then
            return {}
          r.reconcilePending pvc (deviceClassOf sc)

end ClaimReconciler
end Lvms
