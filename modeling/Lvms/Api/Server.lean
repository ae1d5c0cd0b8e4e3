import Lvms.Api.Types
import Mathlib.Logic.Function.Basic

/-!
# The API server

Objects are kept in one list per kind. The verbs of the client are requests,
generic in the kind, and every request can fail without an effect. Deletion only
marks an object while it has finalizers; an update that removes the last
finalizer of a marked object removes the object. Updates are rejected when the
object has changed since it was read.
-/

namespace Lvms

/-- The kinds of objects the controllers use. -/
inductive Kind
  | lvmCluster | volumeGroup | nodeStatus | node | storageClass
  | volumeSnapshotClass | daemonSet | pod | persistentVolumeClaim
  | persistentVolume | logicalVolume
  deriving DecidableEq, Repr

/-- The objects of a kind. -/
@[reducible] def Kind.Object : Kind → Type
  | .lvmCluster => LVMCluster
  | .volumeGroup => LVMVolumeGroup
  | .nodeStatus => LVMVolumeGroupNodeStatus
  | .node => Node
  | .storageClass => StorageClass
  | .volumeSnapshotClass => VolumeSnapshotClass
  | .daemonSet => DaemonSet
  | .pod => Pod
  | .persistentVolumeClaim => PersistentVolumeClaim
  | .persistentVolume => PersistentVolume
  | .logicalVolume => TopolvmLogicalVolume

/-- The metadata of an object. -/
def Kind.metadata : (kind : Kind) → kind.Object → ObjectMeta
  | .lvmCluster, object => object.metadata
  | .volumeGroup, object => object.metadata
  | .nodeStatus, object => object.metadata
  | .node, object => object.metadata
  | .storageClass, object => object.metadata
  | .volumeSnapshotClass, object => object.metadata
  | .daemonSet, object => object.metadata
  | .pod, object => object.metadata
  | .persistentVolumeClaim, object => object.metadata
  | .persistentVolume, object => object.metadata
  | .logicalVolume, object => object.metadata

/-- The object with other metadata. -/
def Kind.withMetadata : (kind : Kind) → kind.Object → ObjectMeta → kind.Object
  | .lvmCluster, object, metadata => { object with metadata }
  | .volumeGroup, object, metadata => { object with metadata }
  | .nodeStatus, object, metadata => { object with metadata }
  | .node, object, metadata => { object with metadata }
  | .storageClass, object, metadata => { object with metadata }
  | .volumeSnapshotClass, object, metadata => { object with metadata }
  | .daemonSet, object, metadata => { object with metadata }
  | .pod, object, metadata => { object with metadata }
  | .persistentVolumeClaim, object, metadata => { object with metadata }
  | .persistentVolume, object, metadata => { object with metadata }
  | .logicalVolume, object, metadata => { object with metadata }

/-- The object with the status of another one. Of the kinds whose status is modelled
only the cluster keeps it in a subresource that updates leave alone. -/
def Kind.withStatusOf : (kind : Kind) → kind.Object → kind.Object → kind.Object
  | .lvmCluster, old, new => { new with status := old.status }
  | _, _, new => new

/-- The name of an object. -/
def Kind.nameOf (kind : Kind) (object : kind.Object) : String :=
  (kind.metadata object).name

@[simp] theorem Kind.metadata_withMetadata
    (kind : Kind)
    (object : kind.Object)
    (metadata : ObjectMeta) :
    kind.metadata (kind.withMetadata object metadata) = metadata := by
  cases kind <;> rfl

/-- The state of the API server. -/
structure ApiServer where
  /-- The objects of each kind. -/
  objects : (kind : Kind) → List kind.Object

namespace ApiServer

/-- Replace the objects of one kind. -/
def set
    (server : ApiServer)
    (kind : Kind)
    (objects : List kind.Object) : ApiServer :=
  ⟨Function.update server.objects kind objects⟩

@[simp] theorem set_objects_self
    (server : ApiServer)
    (kind : Kind)
    (objects : List kind.Object) :
    (server.set kind objects).objects kind = objects := by
  simp only [set, Function.update_self]

theorem set_objects_other
    (server : ApiServer)
    {kind other : Kind}
    (objects : List kind.Object)
    (different : other ≠ kind) :
    (server.set kind objects).objects other = server.objects other := by
  simp only [set, Function.update_of_ne different]

/-- The object of a kind with a name. -/
def find? (server : ApiServer) (kind : Kind) (name : String) :
    Option kind.Object :=
  (server.objects kind).find? fun object => kind.nameOf object == name

end ApiServer

/-- The free choices of the environment. A failure has a text; the other fields
give the values that the program under verification does not determine. -/
structure Choice where
  /-- The call fails with this text. -/
  failure : Option String := none
  /-- The exit code of a failing command. -/
  exitCode : Int := 1
  /-- A generated value: a UID, a size, a point in time. -/
  fresh : String := ""
  /-- The time of a deletion. -/
  now : Nat := 0
  /-- The order in which a Go map is ranged over. -/
  order : List String := []
  /-- The devices a failing `pvremove` has nevertheless cleared. -/
  cleared : List String := []
  /-- The columns in which a command shows its effect. -/
  columns : StringMap := []
  /-- Whose turn it is. -/
  turn : Bool := true
  deriving DecidableEq, Repr

/-- The verbs of the client. -/
inductive ApiRequest
  | get (kind : Kind) (name : String)
  | list (kind : Kind)
  | create (kind : Kind) (object : kind.Object)
  | update (kind : Kind) (object : kind.Object)
  | delete (kind : Kind) (name : String)
  /-- Server-side apply of a storage class. -/
  | applyStorageClass (storageClass : StorageClass)
  /-- Update of the status subresource of the cluster. -/
  | updateStatus (cluster : LVMCluster)
  /-- Claims with a storage class, from the field index. -/
  | listPVCs (storageClassName : String)
  /-- Volumes with a storage class, from the field index. -/
  | listPVs (storageClassName : String)

/-- The answers of the API server. -/
@[reducible] def ApiRequest.Response : ApiRequest → Type
  | .get kind _ => Except GoError kind.Object
  | .list kind => Except GoError (List kind.Object)
  | .create kind _ => Except GoError kind.Object
  | .update kind _ => Except GoError kind.Object
  | .delete _ _ => Except GoError Unit
  | .applyStorageClass _ => Except GoError Unit
  | .updateStatus _ => Except GoError Unit
  | .listPVCs _ => Except GoError (List PersistentVolumeClaim)
  | .listPVs _ => Except GoError (List PersistentVolume)

namespace ApiServer

variable {server : ApiServer} {kind : Kind} {name : String} {object new old : kind.Object}

/-- The not-found error of an object. -/
def missing (name : String) : GoError :=
  .notFound ("\"" ++ name ++ "\" not found")

/-- Replace the objects with a name by the result of a function, which may
remove them. -/
def alter
    (server : ApiServer)
    (kind : Kind)
    (name : String)
    (change : kind.Object → Option kind.Object) : ApiServer :=
  server.set kind ((server.objects kind).filterMap fun object =>
    if kind.nameOf object == name then change object else some object)

/-- An object that is found has the name it was looked up by. -/
theorem nameOf_of_find?
    (found : server.find? kind name = some object) :
    kind.nameOf object = name := by
  simpa using List.find?_some found

/-- An object that is found after a change is the result of the change. -/
theorem exists_of_find?_alter
    {change : kind.Object → Option kind.Object}
    (found : (server.alter kind name change).find? kind name = some new) :
    ∃ old ∈ server.objects kind, kind.nameOf old = name ∧
      change old = some new := by
  have named := nameOf_of_find? found
  have member := List.mem_of_find?_eq_some found
  simp only [alter, set_objects_self, List.mem_filterMap] at member
  obtain ⟨old, oldMember, changed⟩ := member
  split at changed
  · rename_i oldNamed
    exact ⟨old, oldMember, by simpa using oldNamed, changed⟩
  · rename_i other
    obtain rfl := Option.some.inj changed
    exact absurd named (by simpa using other)

/-- A change that keeps the name and never removes an object is found. -/
theorem find?_alter_of_keeps
    (server : ApiServer)
    (kind : Kind)
    (name : String)
    {change : kind.Object → kind.Object}
    (keeps : ∀ old, kind.nameOf (change old) = kind.nameOf old) :
    (server.alter kind name fun old => some (change old)).find? kind name =
      (server.find? kind name).map change := by
  simp only [find?, alter, set_objects_self]
  induction server.objects kind with
  | nil => rfl
  | cons old rest inductionHypothesis =>
      by_cases named : kind.nameOf old = name
      · have stillNamed : kind.nameOf (change old) = name := by rw [keeps, named]
        simp [named, stillNamed]
      · simpa [named] using inductionHypothesis

/-- An object that is found is found changed. -/
theorem find?_alter_of_some
    {change : kind.Object → Option kind.Object}
    (found : server.find? kind name = some old)
    (changed : change old = some new)
    (named : kind.nameOf new = name) :
    (server.alter kind name change).find? kind name = some new := by
  simp only [find?, alter, set_objects_self] at found ⊢
  generalize server.objects kind = objects at found
  induction objects with
  | nil => cases found
  | cons head rest inductionHypothesis =>
      by_cases isNamed : kind.nameOf head = name
      · obtain rfl : head = old := by simpa [isNamed] using found
        simp [isNamed, changed, named]
      · have later : rest.find? (kind.nameOf · == name) = some old := by
          simpa [isNamed] using found
        simpa [isNamed] using inductionHypothesis later

/-- An object that is added is found. -/
theorem find?_set_append
    (missing : server.find? kind name = none)
    (named : kind.nameOf new = name) :
    (server.set kind (server.objects kind ++ [new])).find? kind name = some new := by
  simp only [find?, set_objects_self, List.find?_append] at missing ⊢
  simp [missing, named]

theorem find?_set_append_of_ne
    (other : kind.nameOf new ≠ name) :
    (server.set kind (server.objects kind ++ [new])).find? kind name =
      server.find? kind name := by
  simp [find?, List.find?_append, other]

/-- What an update stores: the UID, the deletion mark and the status are not the
client's to change, and a marked object without finalizers is gone. -/
def stored (kind : Kind) (old new : kind.Object) : Option kind.Object :=
  let metadata := { kind.metadata new with
    uid := (kind.metadata old).uid
    deletionTimestamp := (kind.metadata old).deletionTimestamp
    resourceVersion := (kind.metadata old).resourceVersion + 1 }
  if metadata.deletionTimestamp.isSome && metadata.finalizers.isEmpty then none
  else some (kind.withMetadata (kind.withStatusOf old new) metadata)

/-- What is stored is what was given, up to the metadata of the server. -/
theorem eq_of_stored
    (becomes : stored kind old new = some object) :
    object = kind.withMetadata (kind.withStatusOf old new) { kind.metadata new with
      uid := (kind.metadata old).uid
      deletionTimestamp := (kind.metadata old).deletionTimestamp
      resourceVersion := (kind.metadata old).resourceVersion + 1 } := by
  simp only [stored] at becomes
  split at becomes
  · cases becomes
  · exact (Option.some.inj becomes).symm

/-- What an update stores has the finalizers it was given. -/
theorem finalizers_of_stored
    (updated : stored kind old new = some object) :
    (kind.metadata object).finalizers = (kind.metadata new).finalizers := by
  rw [eq_of_stored updated, Kind.metadata_withMetadata]

/-- An update only makes an object go away that has no finalizers left. -/
theorem finalizers_eq_nil_of_stored
    (gone : stored kind old new = none) :
    (kind.metadata new).finalizers = [] := by
  simp only [stored] at gone
  split at gone
  · rename_i bare
    rw [Bool.and_eq_true, List.isEmpty_iff] at bare
    exact bare.2
  · cases gone

/-- A deleted object is only kept for its finalizers. -/
def Collected (server : ApiServer) (kind : Kind) : Prop :=
  ∀ object ∈ server.objects kind,
    (kind.metadata object).deletionTimestamp.isSome →
      (kind.metadata object).finalizers ≠ []

/-- What a deletion stores: the mark, while there are finalizers. A marked object is
left as it is. -/
def deleted (kind : Kind) (now : Nat) (old : kind.Object) :
    Option kind.Object :=
  let metadata := kind.metadata old
  if metadata.finalizers.isEmpty then none
  else if metadata.deletionTimestamp.isSome then some old
  else some (kind.withMetadata old { metadata with
    deletionTimestamp := some now
    resourceVersion := metadata.resourceVersion + 1 })

/-- The fields of a storage class that the API server does not let change. -/
def sameImmutableFields (old new : StorageClass) : Bool :=
  old.provisioner == new.provisioner &&
    old.reclaimPolicy == new.reclaimPolicy &&
    old.volumeBindingMode == new.volumeBindingMode &&
    old.parameters == new.parameters

/-- The answer to a request that does not fail for a reason of its own. -/
def answer (server : ApiServer) (choice : Choice) :
    (request : ApiRequest) → request.Response × ApiServer
  | .get kind name =>
      match server.find? kind name with
      | some object => (.ok object, server)
      | none => (.error (missing name), server)
  | .list kind => (.ok (server.objects kind), server)
  | .create kind object =>
      match server.find? kind (kind.nameOf object) with
      | some _ => (.error (.new "already exists"), server)
      | none =>
          let metadata := { kind.metadata object with
            uid := choice.fresh
            resourceVersion := 1
            deletionTimestamp := none }
          let created := kind.withMetadata object metadata
          (.ok created, server.set kind (server.objects kind ++ [created]))
  | .update kind object =>
      match server.find? kind (kind.nameOf object) with
      | none => (.error (missing (kind.nameOf object)), server)
      | some old =>
          if (kind.metadata old).resourceVersion ==
              (kind.metadata object).resourceVersion then
            ((.ok ((stored kind old object).getD object)),
              server.alter kind (kind.nameOf object) fun old =>
                stored kind old object)
          else (.error (.new "the object has been modified"), server)
  | .delete kind name =>
      match server.find? kind name with
      | none => (.error (missing name), server)
      | some _ => (.ok (), server.alter kind name (deleted kind choice.now))
  | .applyStorageClass storageClass =>
      match server.find? .storageClass storageClass.metadata.name with
      | none => (.ok (), server.set .storageClass
          (server.objects .storageClass ++ [storageClass]))
      | some old =>
          if sameImmutableFields old storageClass then
            -- A server-side apply would keep the labels that others have set.
            (.ok (), server.alter .storageClass storageClass.metadata.name
              fun old => some { old with metadata := { old.metadata with
                labels := storageClass.metadata.labels
                annotations := storageClass.metadata.annotations } })
          else (.error (.new "updates to this field are forbidden"), server)
  | .updateStatus cluster =>
      match server.find? .lvmCluster cluster.metadata.name with
      | none => (.error (missing cluster.metadata.name), server)
      | some old =>
          if old.metadata.resourceVersion == cluster.metadata.resourceVersion then
            (.ok (), server.alter .lvmCluster cluster.metadata.name fun old =>
              some { old with
                status := cluster.status
                metadata := { old.metadata with
                  resourceVersion := old.metadata.resourceVersion + 1 } })
          else (.error (.new "the object has been modified"), server)
  | .listPVCs storageClassName =>
      (.ok ((server.objects .persistentVolumeClaim).filter
        (·.storageClassName == some storageClassName)), server)
  | .listPVs storageClassName =>
      (.ok ((server.objects .persistentVolume).filter
        (·.storageClassName == storageClassName)), server)

/-- The error answer to a request. -/
def refuse (error : GoError) : (request : ApiRequest) → request.Response
  | .get _ _ => .error error
  | .list _ => .error error
  | .create _ _ => .error error
  | .update _ _ => .error error
  | .delete _ _ => .error error
  | .applyStorageClass _ => .error error
  | .updateStatus _ => .error error
  | .listPVCs _ => .error error
  | .listPVs _ => .error error

/-- The answer to a request under a choice: a failure has no effect. -/
def respond (choice : Choice) (server : ApiServer) (request : ApiRequest) :
    request.Response × ApiServer :=
  match choice.failure with
  | some text => (refuse (.new text) request, server)
  | none => server.answer choice request

end ApiServer
end Lvms
