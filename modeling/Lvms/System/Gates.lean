import Lvms.Operator.Orphans
import Lvms.System
import Lvms.System.Defaults
import Lvms.System.Teardown

/-!
# The gates of volume groups

A volume group is not to be deleted while a claim uses its storage class or, if its device
class retains volumes, while a volume does. The operator asks for this before it removes
the device classes that a deleted cluster has. It does not ask before it removes those
that a cluster has no longer.
-/

namespace Lvms

open Interaction Interaction.Program

/-! ## Histories of specs -/

/-- The last device class with a name in a history of specs, the newest one first. -/
def lastDeclared (history : List LVMClusterSpec) (name : String) : Option DeviceClass :=
  history.findSome? fun spec => spec.deviceClasses.find? (·.name == name)

/-- No claim uses the storage class of a volume group and, if its device class retains
volumes, no volume does. -/
structure Gated (history : List LVMClusterSpec) (world : World) (name : String) : Prop where
  claims : ∀ claim ∈ world.api.objects .persistentVolumeClaim,
    claim.storageClassName ≠ getStorageClassName name
  volumes : ∀ deviceClass ∈ lastDeclared history name, deviceClass.retains = true →
    ∀ volume ∈ world.api.objects .persistentVolume,
      volume.storageClassName ≠ getStorageClassName name

instance (history : List LVMClusterSpec) (world : World) (name : String) :
    Decidable (Gated history world name) :=
  decidable_of_iff
    ((∀ claim ∈ world.api.objects .persistentVolumeClaim,
        claim.storageClassName ≠ getStorageClassName name) ∧
      ∀ deviceClass ∈ lastDeclared history name, deviceClass.retains = true →
        ∀ volume ∈ world.api.objects .persistentVolume,
          volume.storageClassName ≠ getStorageClassName name)
    ⟨fun ⟨claims, volumes⟩ => ⟨claims, volumes⟩, fun ⟨claims, volumes⟩ => ⟨claims, volumes⟩⟩

/-- Every volume group that is deleted has its gates open. -/
def DeletionsGated
    (history : List LVMClusterSpec)
    (world : World)
    (events : List (Event sig World)) : Prop :=
  ∀ name, Operator.DeletesIn events name → Gated history world name

/-- The specs of a cluster: the one it has, and older ones. -/
def specs (name : String) (world : World) (older : List LVMClusterSpec) :
    List LVMClusterSpec :=
  ((world.api.find? .lvmCluster name).map (·.spec)).toList ++ older

/-- If the cluster is not deleted, the gates are open for the volume groups of all device
classes that were removed from it. -/
def OrphansGated
    (name : String)
    (world : World)
    (older : List LVMClusterSpec) : Prop :=
  ∀ cluster, world.api.find? .lvmCluster name = some cluster →
    cluster.metadata.deletionTimestamp = none →
    ∀ vg ∈ world.api.objects .volumeGroup, Operator.Removable cluster vg →
      Gated (specs name world older) world vg.name

namespace Operator

variable {r : Operator} {cluster : LVMCluster} {host name : String} {world after : World}
variable {events : List (Event sig World)}

/-! ## The deletion of the cluster -/

/-- The gates of the cluster are those of its device classes. -/
theorem GatesOpen.gated
    {older : List LVMClusterSpec}
    (gates : GatesOpen cluster world)
    (declared : name ∈ classNames cluster) :
    Gated (cluster.spec :: older) world name := by
  obtain ⟨declaring, isClass, rfl⟩ := List.mem_map.mp declared
  refine ⟨gates.claims declaring isClass, fun deviceClass isLast retains => ?_⟩
  obtain ⟨first, isFirst⟩ : ∃ first, cluster.spec.deviceClasses.find?
      (·.name == declaring.name) = some first := by
    rw [← Option.isSome_iff_exists, List.find?_isSome]
    exact ⟨declaring, isClass, beq_self_eq_true _⟩
  have isLast : deviceClass = first := by
    simpa [lastDeclared, isFirst, eq_comm] using isLast
  subst isLast
  have named : deviceClass.name = declaring.name := by simpa using List.find?_some isFirst
  rw [← named]
  exact gates.volumes deviceClass (List.mem_of_find?_eq_some isFirst) retains

theorem deleteVolumeGroupObject_obeys
    {names : List String}
    {vg : LVMVolumeGroup}
    (member : vg.name ∈ names) :
    (deleteVolumeGroupObject vg).Obeys (lookingUp (Deleting (· ∈ names))) := by
  have looks : (Client.get .volumeGroup vg.name).run.Obeys
      (lookingUp (Deleting (· ∈ names))) (OnOk fun existing => existing.name = vg.name) :=
    .call nofun fun _ isExpected => isExpected
  refine .run_bind (.run_attempt looks) fun answer named => ?_
  cases answer with
  | error err =>
      dsimp only
      split <;> trivial
  | ok existing =>
      have deletes : (Client.delete .volumeGroup existing.name).Obeys
          (lookingUp (Deleting (· ∈ names))) := by
        refine .call ?_ fun response _ => by cases response <;> trivial
        rintro _ ⟨⟩
        rw [show existing.name = vg.name from named]
        exact member
      dsimp only
      split
      · exact .run_bind (.run_mapError deletes) fun _ _ => trivial
      · trivial

theorem volumeGroupsPendingDelete_obeys
    {ns : String}
    {names : List String}
    {vgs : List LVMVolumeGroup}
    (members : ∀ vg ∈ vgs, vg.name ∈ names) :
    (volumeGroupsPendingDelete ns vgs).Obeys (lookingUp (Deleting (· ∈ names))) := by
  induction vgs with
  | nil => trivial
  | cons vg rest inductionHypothesis =>
      obtain ⟨member, others⟩ := List.forall_mem_cons.mp members
      exact .run_bind (deleteVolumeGroupObject_obeys member) fun _ _ =>
        .run_bind (inductionHypothesis others) fun _ _ => trivial

theorem lvmVGs_ensureDeleted_obeys :
    (r.lvmVGs.ensureDeleted cluster).Obeys (lookingUp (Deleting (· ∈ classNames cluster))) := by
  refine .run_bind (volumeGroupsPendingDelete_obeys fun vg member => ?_) fun pending _ => ?_
  · obtain ⟨deviceClass, isClass, rfl⟩ := List.mem_map.mp member
    exact List.mem_map_of_mem isClass
  · split <;> trivial

/-- With the cluster only volume groups of its device classes are deleted. -/
theorem deleteResources_obeys :
    (forM r.resourceDeletionList (deleteResource cluster)).Obeys
      (lookingUp (Deleting (· ∈ classNames cluster))) := by
  have quiet {effects : List Effect}
      (absent : .delete .volumeGroup ∉ effects)
      (request : Request)
      (isWithin : Within effects request) :
      (lookingUp (Deleting (· ∈ classNames cluster))).allowed request := by
    rintro _ rfl
    exact absurd isWithin absent
  refine .run_forM fun manager member => ?_
  rw [resourceDeletionList, List.cons_append, List.cons_append, List.nil_append,
    List.mem_cons] at member
  rcases member with rfl | later
  · refine .run_bind (.run_attempt lvmVGs_ensureDeleted_obeys) fun answer _ => ?_
    cases answer with
    | ok done => trivial
    | error err =>
        exact .run_bind (.run_lift (.of_uses (warningEvent_uses ..) (quiet (by decide))))
          fun _ _ => trivial
  · exact .run_of_uses (afterVolumeGroups_uses later) (quiet (by decide))

/-- A deleted cluster deletes volume groups of its device classes, and only when its gates
are open. -/
theorem reconcileDeleted_deletes
    {result : Except GoError Result}
    (ran : Exec (environment host) (r.reconcileDeleted cluster).run world events result
      after)
    (deletes : DeletesIn events name) :
    name ∈ classNames cluster ∧ GatesOpen cluster world := by
  obtain ⟨event, member, asked⟩ := deletes
  have isDeletion : event.request.effect = .delete .volumeGroup := by rw [asked]; rfl
  obtain ⟨middle, during, ended, prepared, processing, inside⟩ :=
    reconcileDeleted_reached ran member (by rw [isDeletion]; decide)
  obtain ⟨_, _, _, removes, inside⟩ :=
    processDelete_removes processing inside (by rw [isDeletion]; decide)
  have kept (choice : Choice) (current : World) (request : Request)
      (_ : (lookingUp (Deleting (· ∈ classNames cluster))).allowed request)
      (_ : True) :
      (lookingUp (Deleting (· ∈ classNames cluster))).expected request
          (World.respond host choice current request).1 ∧ True :=
    ⟨lookingUp_expected _ request, trivial⟩
  obtain ⟨allowed, -⟩ := deleteResources_obeys.sound kept removes trivial
  refine ⟨(allowed event inside).1 name asked, ?_⟩
  obtain ⟨claims, volumes⟩ := prepared.gates
  rw [prepared.frame.objects .persistentVolumeClaim (by decide)] at claims
  rw [prepared.frame.objects .persistentVolume (by decide)] at volumes
  exact ⟨claims, volumes⟩

/-! ## One reconciliation -/

theorem not_deletesIn_of_reading (reads : Reading events) : ¬ DeletesIn events name := by
  rintro ⟨event, member, asked⟩
  have reading := reads event member
  simp [asked, Request.effect, ApiRequest.effect] at reading

/-- For whatever specs the cluster had before: when the gates are open for the volume groups
of removed device classes, a reconciliation deletes only volume groups with open gates. One
that succeeds does so exactly then. -/
theorem reconcileRequest_gated
    {older : List LVMClusterSpec}
    {result : Except GoError Result}
    (ran : Exec (environment host) (r.reconcileRequest name).run world events result after) :
    (OrphansGated name world older →
      DeletionsGated (specs name world older) world events) ∧
    ((∃ value, result = .ok value) →
      (DeletionsGated (specs name world older) world events ↔
        OrphansGated name world older)) := by
  have sufficient (gated : OrphansGated name world older) :
      DeletionsGated (specs name world older) world events := by
    obtain ⟨first, rest, rfl, reads, stopsOr⟩ := reconcileRequest_cases ran
    intro group deletes
    have late := (deletesIn_append.mp deletes).resolve_left (not_deletesIn_of_reading reads)
    rcases stopsOr with ⟨rfl, -⟩ | reconciled
    · simp [DeletesIn] at late
    cases reconciled with
    | deleted found single marked reconciling =>
        obtain ⟨declared, gates⟩ := reconcileDeleted_deletes reconciling late
        rw [specs, found]
        exact gates.gated declared
    | live found single unmarked reconciling =>
        obtain rfl := ApiServer.nameOf_of_find? found
        obtain ⟨vg, member, removable, rfl⟩ :=
          (reconcile_deletes found reconciling).1 group late
        exact gated _ found unmarked vg member removable
  refine ⟨sufficient, fun succeeds => ⟨fun gated => ?_, sufficient⟩⟩
  obtain ⟨value, rfl⟩ := succeeds
  intro cluster found unmarked vg member removable
  obtain ⟨rest, isSuffix, reconciled⟩ := reconcileRequest_ok ran found
  cases reconciled with
  | deleted isFound single marked _ =>
      obtain rfl := Option.some.inj (isFound.symm.trans found)
      simp [unmarked] at marked
  | live isFound single _ reconciling =>
      obtain rfl := Option.some.inj (isFound.symm.trans found)
      obtain rfl := ApiServer.nameOf_of_find? found
      have late := (reconcile_deletes found reconciling).2 ⟨value, rfl⟩ vg member removable
      exact gated vg.name (late.of_part isSuffix.isInfix)

end Operator

/-! ## A device class in use -/

/-- A device class that retains its volumes. -/
def retainingClass (name path : String) : DeviceClass :=
  { thickClass name path false with
    storageClassOptions := some { reclaimPolicy := some .retain } }

/-- One node, and a claim and its volume of the second device class. -/
def claimedWorld : World where
  api := ⟨fun
    | .persistentVolumeClaim =>
        [{ metadata := { name := "data" }, storageClassName := some "lvms-vg2" }]
    | .persistentVolume => [⟨{ name := "pv" }, "lvms-vg2"⟩]
    | kind => oneNodeWorld.api.objects kind⟩
  host := oneNodeWorld.host
  memory := oneNodeWorld.memory

/-- The specs with and without this device class. -/
def bothClasses : LVMClusterSpec :=
  { deviceClasses := [thickClass "vg1" "/dev/sda" true, retainingClass "vg2" "/dev/sdb"] }

def firstClass : LVMClusterSpec :=
  { deviceClasses := [thickClass "vg1" "/dev/sda" true] }

/-- A cluster with two device classes is set up, and the second one is removed. -/
def removeClaimed : List Action :=
  [.create { name := "cluster", inNamespace := "storage" } bothClasses,
    .operator "cluster",
    .update "cluster" firstClass]

/-- The world in which the operator meets the new spec. -/
def classRemoved : World :=
  (System.plain.performAll withoutFailures claimedWorld removeClaimed).2

/-- What the operator does then. -/
def reconciledRun (world : World) : List (Event sig World) × Except GoError Result × World :=
  Program.run (environment "") withoutFailures
    (System.plain.operator.reconcileRequest "cluster").run world

theorem Operator.reconcileRequest_gated_removed :
    (OrphansGated "cluster" classRemoved [bothClasses] →
      DeletionsGated (specs "cluster" classRemoved [bothClasses]) classRemoved
        (reconciledRun classRemoved).1) ∧
    ((∃ value, (reconciledRun classRemoved).2.1 = .ok value) →
      (DeletionsGated (specs "cluster" classRemoved [bothClasses]) classRemoved
          (reconciledRun classRemoved).1 ↔
        OrphansGated "cluster" classRemoved [bothClasses])) :=
  Operator.reconcileRequest_gated (Program.run_exec ..)

/-- The operator deletes the volume group although a claim uses its storage class and a
volume of it was retained. -/
theorem claimed_group_deleted :
    System.plain.Run (fun _ _ => True) claimedWorld
        (System.plain.performAll withoutFailures claimedWorld removeClaimed).1 classRemoved ∧
      ¬ DeletionsGated (specs "cluster" classRemoved [bothClasses]) classRemoved
        (reconciledRun classRemoved).1 := by
  refine ⟨System.performAll_run (by decide +kernel), fun gated => ?_⟩
  have deleted : Operator.DeletesIn (reconciledRun classRemoved).1 "vg2" := by
    decide +kernel
  have closed : ¬ Gated (specs "cluster" classRemoved [bothClasses]) classRemoved "vg2" := by
    decide +kernel
  exact closed (gated "vg2" deleted)

end Lvms
