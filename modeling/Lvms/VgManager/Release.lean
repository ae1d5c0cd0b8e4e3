import Lvms.VgManager.Deletion

/-!
# Releasing a deleted volume group

A reconciliation of a deleted volume group in which nothing goes wrong either
removes the finalizer of its node or stops because of retained logical volumes,
provided that the node still matches the selector of the volume group and the
configuration of lvmd is in order. The condition is exact.
-/

namespace Lvms

open Interaction

/-- A deleted volume group that waits for the node of a vg-manager. -/
structure Deleting
    (r : Reconciler)
    (name : String)
    (vg : LVMVolumeGroup)
    (node : Node)
    (world : World) : Prop where
  found : world.api.find? .volumeGroup name = some vg
  deleted : vg.metadata.deletionTimestamp.isSome = true
  registered : getFinalizer r.nodeName ∈ vg.metadata.finalizers
  nodeFound : world.api.find? .node r.nodeName = some node
  statusFound : ∃ status, world.api.find? .nodeStatus r.nodeName = some status
  named : vg.name ≠ ""
  poolNamed : ∀ config, vg.spec.thinPoolConfig = some config → config.name ≠ ""

/-- The logical volumes of a volume group that are not its thin pool. -/
def userVolumes (vg : LVMVolumeGroup) (host : Host) : List String :=
  Reconciler.userLVs vg
    ((host.logicalVolumes.filter (·.vgName == vg.name)).map (·.name))

/-- The storage class of a volume group retains. -/
def Retains (vg : LVMVolumeGroup) (world : World) : Prop :=
  ∃ storageClass, world.api.find? .storageClass (getStorageClassName vg.name) =
    some storageClass ∧ storageClass.reclaimPolicy = some .retain

/-- The tagged volume group has logical volumes that its storage class retains. -/
def Retained (node : String) (vg : LVMVolumeGroup) (world : World) : Prop :=
  (∃ row ∈ (world.host node).volumeGroups, row.name = vg.name ∧
    row.tags.contains defaultTag = true) ∧
  Retains vg world ∧
  userVolumes vg (world.host node) ≠ []

/-- The configuration of lvmd is cached, or its file is missing or can be read. -/
def Readable (node : String) (world : World) : Prop :=
  Lvmd.cached node world ≠ none ∨
    ∀ content, Lvmd.stored node world = some content →
      ∃ config, content = .config config

/-- The volume group is the last one of a cached configuration that has no
file. -/
def Orphaned (node name : String) (world : World) : Prop :=
  ∃ config, Lvmd.cached node world = some config ∧
    (Reconciler.withoutDeviceClass name config).deviceClasses = [] ∧
    Lvmd.stored node world = none

/-- What the reconciliation of a deleted volume group needs of its node. -/
structure Releasable
    (r : Reconciler)
    (vg : LVMVolumeGroup)
    (node : Node)
    (world : World) : Prop where
  /-- The selector of the volume group still matches the node. -/
  selected : ∀ selector, vg.spec.nodeSelector = some selector →
    r.matchNodeSelectorTerms node selector = .ok true
  readable : Readable r.nodeName world
  /-- Unless logical volumes are retained, there is a file to delete. -/
  removable : Retained r.nodeName vg world ∨ ¬Orphaned r.nodeName vg.name world

/-- The outcomes of a reconciliation that does its part: the finalizer is removed,
or retained logical volumes are reported. -/
def Settled
    (r : Reconciler)
    (vg : LVMVolumeGroup)
    (result : Except GoError Result)
    (after : World) : Prop :=
  (result = .ok {} ∧ ∀ left, after.api.find? .volumeGroup vg.name = some left →
    getFinalizer r.nodeName ∉ left.metadata.finalizers) ∨
  ∃ lvs, lvs ≠ [] ∧ result = .error (Reconciler.retainedError vg lvs)

section Steady

variable {node : String} {world : World}
variable {name : String} {found : Node}

/-! ## The configuration of lvmd -/

/-- What reading the file of lvmd gives. -/
theorem Lvmd.FileConfig.load_steady (file : Lvmd.FileConfig) :
    wp (environment node) (.assuming (steady node ·)) file.load.run
      (fun result after => after = world ∧
        match Lvmd.stored node world with
        | none => result = .ok none
        | some (.config config) => result = .ok (some config)
        | some _ => ∃ error, result = .error error)
      world := by
  simp only [Lvmd.FileConfig.load, wp.run_bind_iff, wp.run_mapError_iff]
  refine wp_query_steady ⟨by simp [Host.report, Except.mapError], ?_⟩
  rintro found ⟨⟩
  cases inFile : (world.host node).lvmdFile with
  | none => simp [Lvmd.stored, inFile]
  | some content =>
      simp only [Option.isSome_some, Bool.not_true, Bool.false_eq_true,
        if_false, wp.run_bind_iff, wp.run_mapError_iff]
      refine wp_query_steady ?_
      cases content <;> simp [Host.report, inFile, Lvmd.stored, Except.mapError]

/-- Loading a readable configuration succeeds, and what it returns is cached. -/
theorem Lvmd.CachedFileConfig.load_steady
    (file : Lvmd.FileConfig)
    (readable : Readable node world) :
    wp (environment node) (.assuming (steady node ·))
      (Lvmd.CachedFileConfig.load file).run
      (fun result after => after.host = world.host ∧ after.api = world.api ∧
        result = .ok (Lvmd.cached node after) ∧
        (Lvmd.cached node world ≠ none →
          Lvmd.cached node after = Lvmd.cached node world) ∧
        (Lvmd.cached node world = none →
          Lvmd.stored node world = (Lvmd.cached node after).map .config))
      world := by
  simp only [Lvmd.CachedFileConfig.load, wp.run_bind_iff, wp.run_lift_iff,
    wp_cachedConfig_iff]
  intro _ _
  refine ⟨by simp, ?_⟩
  rintro _ ⟨⟩
  cases inMemory : (world.memory node).config with
  | some config => simp [Lvmd.cached, inMemory]
  | none =>
      simp only [wp.run_bind_iff, wp.run_lift_iff, wp_cacheConfig_iff]
      refine (Lvmd.FileConfig.load_steady file).mono ?_
      rintro result after ⟨rfl, loaded⟩
      have readableFile := readable.resolve_left (by simp [Lvmd.cached, inMemory])
      cases inFile : Lvmd.stored node after with
      | none =>
          simp only [inFile] at loaded
          simp [loaded, Lvmd.cached, inMemory]
      | some content =>
          obtain ⟨config, rfl⟩ := readableFile content inFile
          simp only [inFile] at loaded
          simp [loaded, Lvmd.cached, inMemory]

/-- Loading a configuration that cannot be read fails. -/
theorem Lvmd.CachedFileConfig.load_unreadable
    (file : Lvmd.FileConfig)
    (unreadable : ¬Readable node world) :
    wp (environment node) (.assuming (steady node ·))
      (Lvmd.CachedFileConfig.load file).run
      (fun result _ => ∃ error, result = .error error) world := by
  simp only [Readable, not_or, not_not] at unreadable
  obtain ⟨nothing, unparsed⟩ := unreadable
  have inMemory : (world.memory node).config = none := nothing
  simp only [Lvmd.CachedFileConfig.load, wp.run_bind_iff, wp.run_lift_iff,
    wp_cachedConfig_iff]
  intro _ _
  refine ⟨by simp, ?_⟩
  rintro _ ⟨⟩
  simp only [inMemory, wp.run_bind_iff]
  refine (Lvmd.FileConfig.load_steady file).mono ?_
  rintro result after ⟨rfl, loaded⟩
  push Not at unparsed
  obtain ⟨content, inFile, notConfig⟩ := unparsed
  have failed : ∃ error, result = .error error := by
    cases content with
    | config config => exact absurd rfl (notConfig config)
    | tooLong | malformed => simpa [inFile] using loaded
  obtain ⟨error, rfl⟩ := failed
  simp

/-! ## The disks -/

variable {r : Reconciler} {vg : LVMVolumeGroup}

/-- The volume groups are listed as they are. -/
theorem Lvm.listVGs_steady :
    wp (environment node) (.assuming (steady node ·)) (Lvm.listVGs true).run
      (fun result after => after = world ∧
        result = .ok (lvmsVGs (world.host node))) world := by
  simp only [Lvm.listVGs, Lvm.listPVs, wp.run_bind_iff, wp.run_mapError_iff]
  refine wp_query_steady ⟨by simp [Host.report, Except.mapError], ?_⟩
  rintro _ ⟨⟩
  refine wp_query_steady ?_
  simp [Host.report, Except.mapError, lvmsVGs]

theorem Lvm.listLVsByName_steady
    {vgName : String}
    (named : vgName ≠ "") :
    wp (environment node) (.assuming (steady node ·))
      (Lvm.listLVsByName vgName).run
      (fun result after => after = world ∧ result = .ok
        (((world.host node).logicalVolumes.filter (·.vgName == vgName)).map
          (·.name))) world := by
  simp only [Lvm.listLVsByName, named, if_false, wp.run_bind_iff]
  refine wp_query_steady ?_
  simp [Host.report]

/-- The policy is read as it is. -/
theorem Reconciler.isRetainPolicy_steady :
    wp (environment node) (.assuming (steady node ·))
      (Reconciler.isRetainPolicy vg)
      (fun policy after => after = world ∧ (policy.1 = true ↔ Retains vg world))
      world := by
  simp only [Reconciler.isRetainPolicy, wp.bind_iff]
  cases found : world.api.find? .storageClass (getStorageClassName vg.name) with
  | some storageClass =>
      refine Client.wp_get_found found ?_
      simp [Retains, found]
  | none =>
      refine Client.wp_get_missing found ?_
      simp [Retains, found, ApiServer.missing, GoError.isNotFound]

/-- The check for retained volumes stops the deletion exactly when there are
some. -/
theorem Reconciler.checkRetained_steady
    (named : vg.name ≠ "") :
    wp (environment node) (.assuming (steady node ·)) (r.checkRetained vg).run
      (fun result _ =>
        (Retains vg world ∧ userVolumes vg (world.host node) ≠ [] →
          result = .error
            (Reconciler.retainedError vg (userVolumes vg (world.host node)))) ∧
        (¬(Retains vg world ∧ userVolumes vg (world.host node) ≠ []) →
          result = .ok ())) world := by
  simp only [Reconciler.checkRetained, wp.run_bind_iff, wp.run_lift_iff]
  refine Reconciler.isRetainPolicy_steady.mono ?_
  rintro ⟨retain, problem⟩ after ⟨rfl, policy⟩
  refine ⟨by simp, ?_⟩
  rintro _ ⟨⟩
  cases retain with
  | false =>
      have delete : ¬Retains vg after := fun retains => by simpa using policy.mpr retains
      simp [delete]
  | true =>
      have retains : Retains vg after := policy.mp rfl
      simp only [if_true, wp.run_bind_iff, wp.run_mapError_iff]
      refine (Lvm.listLVsByName_steady named).mono ?_
      rintro _ listed ⟨rfl, rfl⟩
      refine ⟨by simp [Except.mapError], ?_⟩
      rintro _ ⟨⟩
      simp only [← userVolumes.eq_1]
      split
      · rename_i some
        have volumes : userVolumes vg (listed.host node) ≠ [] := by simpa using some
        simp only [wp.run_bind_iff, wp.run_lift_iff, wp.run_throw_iff]
        exact (wp_frame (r.warningEvent_uses ..)).mono fun _ _ _ =>
          ⟨by simp, by simp [retains, volumes]⟩
      · rename_i none
        have empty : userVolumes vg (listed.host node) = [] := by simpa using none
        simp [empty]

/-- The classes of the calls of a deletion on the disks in which nothing goes
wrong. -/
def diskEffects : List Effect := [.read, .report, .destroy, .shrink]

/-- Commands that the host never refuses succeed. -/
theorem wp_command_succeeds
    {run : Command}
    (accepted : ∀ choice, ((world.host node).apply choice run).1 = .ok ()) :
    wp (environment node) (.assuming (steady node ·)) (command run).run
      (fun result _ => result = .ok ()) world :=
  wp_command_steady accepted

theorem Lvm.deleteLV_steady
    {lvName vgName : String}
    (lvNamed : lvName ≠ "")
    (vgNamed : vgName ≠ "") :
    wp (environment node) (.assuming (steady node ·))
      (Lvm.deleteLV lvName vgName).run (fun result _ => result = .ok ()) world := by
  simp only [Lvm.deleteLV, Lvm.checkNames, lvNamed, vgNamed, if_false,
    wp.run_bind_iff, wp.run_mapError_iff, Except.mapError_eq_ok_iff]
  refine ⟨by simp, fun _ _ => ?_⟩
  refine (wp_command_succeeds fun _ => rfl).mono ?_
  rintro _ after rfl
  refine ⟨by simp [Except.mapError], fun _ _ => ?_⟩
  exact wp_command_succeeds fun _ => rfl

theorem Lvm.deletePVIDs_steady
    (vgName : String)
    (pvs : List PhysicalVolume) :
    wp (environment node) (.assuming (steady node ·))
      (Lvm.deletePVIDs vgName pvs).run (fun result _ => result = .ok ()) world := by
  induction pvs generalizing world with
  | nil => rfl
  | cons pv rest inductionHypothesis =>
      simp only [Lvm.deletePVIDs, wp.run_bind_iff, wp.run_attempt_iff]
      refine (wp_command_succeeds fun _ => rfl).mono ?_
      rintro _ after rfl
      refine ⟨by simp, ?_⟩
      rintro _ ⟨⟩
      exact inductionHypothesis

/-- The deletion of the volume group succeeds. -/
theorem Lvm.deleteVG_steady (existing : VolumeGroup) :
    wp (environment node) (.assuming (steady node ·)) (Lvm.deleteVG existing).run
      (fun result _ => result = .ok ()) world := by
  simp only [Lvm.deleteVG, wp.run_bind_iff, wp.run_mapError_iff]
  refine (wp_command_succeeds fun _ => rfl).mono ?_
  rintro _ _ rfl
  refine ⟨by simp [Except.mapError], fun _ _ => ?_⟩
  refine (wp_command_succeeds fun _ => rfl).mono ?_
  rintro _ _ rfl
  refine ⟨by simp [Except.mapError], fun _ _ => ?_⟩
  refine (wp_command_succeeds fun _ => rfl).mono ?_
  rintro _ _ rfl
  exact ⟨by simp [Except.mapError], fun _ _ => Lvm.deletePVIDs_steady ..⟩

/-- The deletion of the thin pool succeeds. -/
theorem Reconciler.deleteThinPool_steady
    {config : ThinPoolConfig}
    (vgs : List VolumeGroup)
    (named : vg.name ≠ "")
    (poolNamed : config.name ≠ "") :
    wp (environment node) (.assuming (steady node ·))
      (r.deleteThinPool vg vgs config).run
      (fun result after => result = .ok () ∧ Frame diskEffects world after)
      world := by
  simp only [Reconciler.deleteThinPool, Lvm.lvExists, wp.run_bind_iff,
    wp.run_mapError_iff, Except.mapError_eq_ok_iff]
  refine (Lvm.listLVsByName_steady named).mono ?_
  rintro _ after ⟨rfl, rfl⟩
  refine ⟨by simp, fun lvs listed => ⟨by simp [Except.mapError], fun found _ => ?_⟩⟩
  split
  · simp only [wp.run_bind_iff, wp.run_attempt_iff]
    refine ((Lvm.deleteLV_steady poolNamed named).both
      (wp_frame (Lvm.deleteLV_uses ..))).mono ?_
    rintro _ removed ⟨rfl, frame⟩
    refine ⟨by simp, ?_⟩
    rintro _ ⟨⟩
    exact ⟨rfl, frame.widen (by decide)⟩
  · exact ⟨rfl, .refl⟩

/-- The cleanup of the disks succeeds. -/
theorem Reconciler.deleteDisks_steady
    (vgs : List VolumeGroup)
    (existing : VolumeGroup)
    (named : vg.name ≠ "")
    (poolNamed : ∀ config, vg.spec.thinPoolConfig = some config →
      config.name ≠ "") :
    wp (environment node) (.assuming (steady node ·))
      (r.deleteDisks vg vgs existing).run
      (fun result after => result = .ok () ∧ Frame diskEffects world after)
      world := by
  have deleted (middle : World) (frame : Frame diskEffects world middle) :
      wp (environment node) (.assuming (steady node ·))
        (r.deleteVolumeGroup vg vgs existing).run
        (fun result after => result = .ok () ∧ Frame diskEffects world after)
        middle := by
    simp only [Reconciler.deleteVolumeGroup, wp.run_bind_iff, wp.run_attempt_iff]
    refine ((Lvm.deleteVG_steady existing).both
      (wp_frame (Lvm.deleteVG_uses _))).mono ?_
    rintro _ removed ⟨rfl, later⟩
    refine ⟨by simp, ?_⟩
    rintro _ ⟨⟩
    exact ⟨rfl, frame.trans (later.widen (by decide))⟩
  dsimp only [Reconciler.deleteDisks]
  split
  · rename_i config isConfigured
    rw [wp.run_bind_iff]
    refine (Reconciler.deleteThinPool_steady vgs named
      (poolNamed config isConfigured)).mono ?_
    rintro _ middle ⟨rfl, frame⟩
    exact ⟨by simp, fun _ _ => deleted middle frame⟩
  · exact deleted world .refl

/-- Cleaning up the disks stops at retained volumes and succeeds otherwise. -/
theorem Reconciler.cleanUpDisks_steady
    (named : vg.name ≠ "")
    (poolNamed : ∀ config, vg.spec.thinPoolConfig = some config →
      config.name ≠ "") :
    wp (environment node) (.assuming (steady node ·)) (r.cleanUpDisks vg).run
      (fun result after =>
        (Retained node vg world → result = .error
          (Reconciler.retainedError vg (userVolumes vg (world.host node)))) ∧
        (¬Retained node vg world →
          result = .ok () ∧ Frame diskEffects world after)) world := by
  simp only [Reconciler.cleanUpDisks, wp.run_bind_iff, wp.run_mapError_iff,
    Except.mapError_eq_ok_iff]
  refine Lvm.listVGs_steady.mono ?_
  rintro _ after ⟨rfl, rfl⟩
  refine ⟨by simp [Except.mapError], ?_⟩
  rintro _ ⟨⟩
  split
  · rename_i absent
    have released : ¬Retained node vg after := fun retained =>
      untagged_of_find_lvmsVGs absent retained.1
    exact ⟨fun retained => absurd retained released, fun _ => ⟨rfl, .refl⟩⟩
  · rename_i existing found
    have tagged := (find_lvmsVGs found).2.1
    rw [wp.run_bind_iff]
    refine ((Reconciler.checkRetained_steady named).both
      (wp_frame (r.checkRetained_uses vg))).mono ?_
    rintro _ checked ⟨⟨stopped, passed⟩, frame⟩
    by_cases retains : Retains vg after ∧ userVolumes vg (after.host node) ≠ []
    · obtain rfl := stopped retains
      refine ⟨?_, by simp⟩
      rintro _ ⟨⟩
      exact ⟨fun _ => rfl, fun released => absurd ⟨tagged, retains⟩ released⟩
    · obtain rfl := passed retains
      refine ⟨by simp, fun _ _ => ?_⟩
      refine (Reconciler.deleteDisks_steady _ existing named poolNamed).mono ?_
      rintro _ deleted ⟨rfl, later⟩
      exact ⟨fun retained => absurd retained.2 retains, fun _ =>
        ⟨rfl, (frame.widen (by decide)).trans later⟩⟩

/-! ## Storing the rest of the configuration -/

/-- Storing the rest of a configuration fails exactly when there is no file to
delete. -/
theorem Reconciler.storeRemaining_steady (loaded : Option Lvmd.Config) :
    wp (environment node) (.assuming (steady node ·))
      (r.storeRemaining vg
        (loaded.map (Reconciler.withoutDeviceClass vg.name))).run
      (fun result _ =>
        ((∃ config, loaded = some config ∧
            (Reconciler.withoutDeviceClass vg.name config).deviceClasses = [] ∧
            Lvmd.stored node world = none) →
          ∃ text error, result = .error (.wrap text error "")) ∧
        ((¬∃ config, loaded = some config ∧
            (Reconciler.withoutDeviceClass vg.name config).deviceClasses = [] ∧
            Lvmd.stored node world = none) →
          result = .ok ())) world := by
  have announced (reason message : String) (middle : World) :
      wp (environment node) (.assuming (steady node ·))
        (liftM (r.normalEvent vg reason message) : Go Unit).run
        (fun result _ => result = .ok ()) middle := by
    rw [wp.run_lift_iff]
    exact (wp_frame (r.normalEvent_uses ..)).mono fun _ _ _ => rfl
  cases loaded with
  | none => simp [Reconciler.storeRemaining]
  | some config =>
      dsimp only [Option.map, Reconciler.storeRemaining]
      split
      · rename_i empty
        have last := List.isEmpty_iff.mp empty
        simp only [wp.run_bind_iff, wp.run_mapError_iff,
          Lvmd.CachedFileConfig.delete, Lvmd.FileConfig.delete,
          Except.mapError_eq_ok_iff]
        refine wp_command_steady fun choice => ?_
        cases inFile : (world.host node).lvmdFile with
        | none =>
            simp only [Host.apply, inFile]
            refine ⟨?_, by simp⟩
            rintro _ ⟨⟩
            exact ⟨fun _ => ⟨_, _, rfl⟩, fun present =>
              absurd ⟨config, rfl, last, inFile⟩ present⟩
        | some content =>
            simp only [Host.apply, inFile]
            refine ⟨by simp [Except.mapError], fun _ _ => ?_⟩
            refine (announced ..).mono ?_
            rintro _ _ rfl
            refine ⟨?_, fun _ => rfl⟩
            rintro ⟨_, _, _, missing⟩
            simp [Lvmd.stored, inFile] at missing
      · rename_i others
        have remaining : (Reconciler.withoutDeviceClass vg.name config).deviceClasses ≠ [] := by
          simpa using others
        have saved : wp (environment node) (.assuming (steady node ·))
            (Lvmd.CachedFileConfig.save r.lvmd
              (Reconciler.withoutDeviceClass vg.name config)).run
            (fun result _ => result = .ok ()) world := by
          simp only [Lvmd.CachedFileConfig.save, wp.run_bind_iff, wp.run_lift_iff,
            wp_cachedConfig_iff]
          intro _ _
          refine ⟨by simp, fun _ _ => ?_⟩
          split
          · rfl
          · simp only [wp.run_bind_iff, wp.run_lift_iff, wp_cacheConfig_iff,
              Lvmd.FileConfig.save, wp.run_mapError_iff,
              Except.mapError_eq_ok_iff]
            exact fun _ _ => ⟨by simp, fun _ _ => wp_command_succeeds fun _ => rfl⟩
        simp only [wp.run_bind_iff, wp.run_mapError_iff]
        refine saved.mono ?_
        rintro _ _ rfl
        refine ⟨by simp [Except.mapError], fun _ _ => ?_⟩
        refine (announced ..).mono ?_
        rintro _ _ rfl
        refine ⟨?_, fun _ => rfl⟩
        rintro ⟨_, ⟨⟩, none, _⟩
        exact absurd none remaining

/-! ## The status and the finalizer -/

/-- `CreateOrUpdate` of an object that is there succeeds. -/
theorem Client.createOrUpdate_steady
    {kind : Kind}
    {initial existing object : kind.Object}
    {mutate : kind.Object → Except GoError kind.Object}
    (found : world.api.find? kind (kind.nameOf initial) = some existing)
    (mutated : mutate existing = .ok object)
    (sameName : kind.nameOf object = kind.nameOf existing)
    (sameVersion : (kind.metadata existing).resourceVersion =
      (kind.metadata object).resourceVersion) :
    wp (environment node) (.assuming (steady node ·))
      (Client.createOrUpdate kind initial mutate).run
      (fun result _ => ∃ done, result = .ok done) world := by
  simp only [Client.createOrUpdate, Client.createOrUpdateObject, wp.run_bind_iff,
    wp.run_attempt_iff]
  refine Client.wp_get_found found ⟨by simp, ?_⟩
  rintro _ ⟨⟩
  simp only [mutated, wp.run_bind_iff]
  refine ⟨by simp, ?_⟩
  rintro _ ⟨⟩
  split
  · exact ⟨by simp, fun _ _ => ⟨_, rfl⟩⟩
  · rw [wp.run_bind_iff]
    have current : world.api.find? kind (kind.nameOf object) = some existing := by
      rw [sameName, ApiServer.nameOf_of_find? found]
      exact found
    exact Client.wp_update_current current sameVersion fun _ =>
      ⟨by simp, fun _ _ => ⟨by simp, fun _ _ => ⟨_, rfl⟩⟩⟩

/-- The removal of the entry from the status succeeds. -/
theorem Reconciler.removeVolumeGroupStatus_steady
    {status : LVMVolumeGroupNodeStatus}
    (found : world.api.find? .nodeStatus r.nodeName = some status) :
    wp (environment node) (.assuming (steady node ·))
      (r.removeVolumeGroupStatus vg).run (fun result _ => result = .ok ())
      world := by
  have updated : wp (environment node) (.assuming (steady node ·))
      (Client.createOrUpdate .nodeStatus { metadata := { name := r.nodeName } }
        fun nodeStatus => .ok <|
          if nodeStatus.lvmVGStatus.any (·.name == vg.name) then
            { nodeStatus with
              metadata := { nodeStatus.metadata with
                ownerReferences := nodeStatus.metadata.ownerReferences.eraseP
                  (·.uid == vg.metadata.uid) }
              lvmVGStatus := dropVGStatus vg.name nodeStatus.lvmVGStatus }
          else nodeStatus).run
      (fun result _ => ∃ done, result = .ok done) world := by
    refine Client.createOrUpdate_steady found rfl ?_ ?_ <;>
      simp only [Kind.nameOf, Kind.metadata] <;> split <;> rfl
  dsimp only [Reconciler.removeVolumeGroupStatus]
  split
  · simp only [wp.run_bind_iff, wp.run_lift_iff, wp.run_mapError_iff]
    refine wp_call_steady fun choice _ => ⟨by simp, fun _ _ => ?_⟩
    refine updated.mono ?_
    rintro _ _ ⟨done, rfl⟩
    exact ⟨by simp [Except.mapError], fun _ _ => rfl⟩
  · simp only [wp.run_bind_iff, wp.run_mapError_iff]
    refine updated.mono ?_
    rintro _ _ ⟨done, rfl⟩
    exact ⟨by simp [Except.mapError], fun _ _ => rfl⟩

/-- Releasing a volume group removes the finalizer of the node. -/
theorem Reconciler.releaseVolumeGroup_steady
    {status : LVMVolumeGroupNodeStatus}
    (found : world.api.find? .volumeGroup vg.name = some vg)
    (registered : getFinalizer r.nodeName ∈ vg.metadata.finalizers)
    (statusFound : world.api.find? .nodeStatus r.nodeName = some status) :
    wp (environment node) (.assuming (steady node ·)) (r.releaseVolumeGroup vg).run
      (fun result after => result = .ok () ∧
        ∀ left, after.api.find? .volumeGroup vg.name = some left →
          getFinalizer r.nodeName ∉ left.metadata.finalizers) world := by
  have removed := (ObjectMeta.removeFinalizer_iff _ _).mpr registered
  simp only [Reconciler.releaseVolumeGroup, wp.run_bind_iff, wp.run_mapError_iff]
  refine ((Reconciler.removeVolumeGroupStatus_steady statusFound).both
    (wp_frame (r.removeVolumeGroupStatus_uses vg))).mono ?_
  rintro _ middle ⟨rfl, frame⟩
  refine ⟨by simp [Except.mapError], fun _ _ => ?_⟩
  have current : middle.api.find? .volumeGroup vg.name = some vg :=
    (frame.find? .volumeGroup _ (by decide)).trans found
  simp only [removed, if_true, wp.run_bind_iff]
  refine Client.wp_update_current current rfl fun _ =>
    ⟨by simp, fun _ _ => ⟨rfl, fun left foundLeft => ?_⟩⟩
  obtain ⟨old, _, _, stored⟩ := ApiServer.exists_of_find?_alter foundLeft
  have same : left.metadata.finalizers = _ := ApiServer.finalizers_of_stored stored
  rw [same]
  exact vg.metadata.not_mem_removeFinalizer _

/-! ## The whole deletion -/

theorem Retained.congr
    {after : World}
    (sameHost : after.host = world.host)
    (sameApi : after.api = world.api) :
    Retained node vg after ↔ Retained node vg world := by
  rw [Retained, Retained, Retains, Retains, sameHost, sameApi]

/-- A deletion in which nothing goes wrong removes the finalizer or stops at
retained volumes. -/
theorem Reconciler.processDelete_settles
    {deletedNode : Node}
    (deleting : Deleting r vg.name vg deletedNode world)
    (readable : Readable r.nodeName world)
    (removable : Retained r.nodeName vg world ∨
      ¬Orphaned r.nodeName vg.name world) :
    wp (environment r.nodeName) (.assuming (steady r.nodeName ·))
      (r.processDelete vg).run
      (fun result after =>
        (result = .ok () ∧
          ∀ left, after.api.find? .volumeGroup vg.name = some left →
            getFinalizer r.nodeName ∉ left.metadata.finalizers) ∨
        ∃ lvs, lvs ≠ [] ∧ result = .error (Reconciler.retainedError vg lvs))
      world := by
  simp only [Reconciler.processDelete, wp.run_bind_iff, wp.run_mapError_iff,
    Except.mapError_eq_ok_iff]
  refine (Lvmd.CachedFileConfig.load_steady r.lvmd readable).mono ?_
  rintro _ opened ⟨sameHost, sameApi, rfl, sameCache, fromFile⟩
  refine ⟨by simp [Except.mapError], ?_⟩
  rintro _ ⟨⟩
  refine (Reconciler.cleanUpDisks_steady deleting.named deleting.poolNamed).mono ?_
  rintro _ cleaned ⟨stopped, passed⟩
  rw [Retained.congr sameHost sameApi] at stopped passed
  by_cases retained : Retained r.nodeName vg world
  · obtain rfl := stopped retained
    refine ⟨?_, by simp⟩
    rintro _ ⟨⟩
    exact .inr ⟨_, sameHost ▸ retained.2.2, rfl⟩
  · obtain ⟨rfl, frame⟩ := passed retained
    have sameFile : Lvmd.stored r.nodeName cleaned = Lvmd.stored r.nodeName world := by
      rw [Lvmd.stored, frame.lvmdFile (by decide), sameHost, Lvmd.stored]
    refine ⟨by simp, fun _ _ => ?_⟩
    refine ((Reconciler.storeRemaining_steady _).both
      (wp_frame (r.storeRemaining_uses vg _))).mono ?_
    rintro result stored ⟨⟨_, succeeds⟩, laterFrame⟩
    have succeeded : result = .ok () := by
      refine succeeds ?_
      rintro ⟨config, isCached, last, missing⟩
      rw [sameFile] at missing
      by_cases nothing : Lvmd.cached r.nodeName world = none
      · simp [fromFile nothing, isCached] at missing
      · exact removable.resolve_left retained
          ⟨config, (sameCache nothing).symm.trans isCached, last, missing⟩
    subst succeeded
    refine ⟨by simp, fun _ _ => ?_⟩
    have same (kind : Kind) (name : String) :
        stored.api.find? kind name = world.api.find? kind name := by
      rw [laterFrame.find? kind name (by cases kind <;> decide),
        frame.find? kind name (by cases kind <;> decide), sameApi]
    obtain ⟨status, statusFound⟩ := deleting.statusFound
    refine (Reconciler.releaseVolumeGroup_steady ((same ..).trans deleting.found)
      deleting.registered ((same ..).trans statusFound)).mono ?_
    exact fun _ _ released => .inl released

/-- A deletion fails when the configuration of lvmd cannot be read, or when its
last device class is to be removed and there is no file. -/
theorem Reconciler.processDelete_stuck
    {deletedNode : Node}
    (deleting : Deleting r vg.name vg deletedNode world)
    (stuck : ¬Readable r.nodeName world ∨
      ¬(Retained r.nodeName vg world ∨ ¬Orphaned r.nodeName vg.name world)) :
    wp (environment r.nodeName) (.assuming (steady r.nodeName ·))
      (r.processDelete vg).run
      (fun result _ => ∃ text error, result = .error (.wrap text error ""))
      world := by
  simp only [Reconciler.processDelete, wp.run_bind_iff, wp.run_mapError_iff,
    Except.mapError_eq_ok_iff]
  by_cases readable : Readable r.nodeName world
  · obtain ⟨released, config, isCached, last, missing⟩ :
        ¬Retained r.nodeName vg world ∧ Orphaned r.nodeName vg.name world := by
      simpa [readable] using stuck
    refine (Lvmd.CachedFileConfig.load_steady r.lvmd readable).mono ?_
    rintro _ opened ⟨sameHost, sameApi, rfl, sameCache, _⟩
    refine ⟨by simp [Except.mapError], ?_⟩
    rintro _ ⟨⟩
    refine (Reconciler.cleanUpDisks_steady deleting.named
      deleting.poolNamed).mono ?_
    rintro _ cleaned ⟨_, passed⟩
    rw [Retained.congr sameHost sameApi] at passed
    obtain ⟨rfl, frame⟩ := passed released
    have stillMissing : Lvmd.stored r.nodeName cleaned = none := by
      rw [Lvmd.stored, frame.lvmdFile (by decide), sameHost]
      exact missing
    have stillCached : Lvmd.cached r.nodeName opened = some config :=
      (sameCache (by simp [isCached])).trans isCached
    refine ⟨by simp, fun _ _ => ?_⟩
    refine (Reconciler.storeRemaining_steady _).mono ?_
    rintro _ stored ⟨fails, _⟩
    obtain ⟨text, error, rfl⟩ := fails ⟨config, stillCached, last, stillMissing⟩
    refine ⟨?_, by simp⟩
    rintro _ ⟨⟩
    exact ⟨_, _, rfl⟩
  · refine (Lvmd.CachedFileConfig.load_unreadable r.lvmd readable).mono ?_
    rintro _ after ⟨error, rfl⟩
    refine ⟨?_, by simp⟩
    rintro _ ⟨⟩
    exact ⟨_, _, rfl⟩

/-! ## The reconciliation -/

@[simp] theorem World.cached_withNewResolver :
    Lvmd.cached node (world.withNewResolver node) = Lvmd.cached node world := by
  simp [Lvmd.cached, World.withNewResolver, World.setMemory]

@[simp] theorem World.stored_withNewResolver :
    Lvmd.stored node (world.withNewResolver node) = Lvmd.stored node world :=
  rfl

theorem Readable.withNewResolver_iff :
    Readable node (world.withNewResolver node) ↔ Readable node world := by
  simp [Readable]

theorem Orphaned.withNewResolver_iff {name : String} :
    Orphaned node name (world.withNewResolver node) ↔ Orphaned node name world := by
  simp [Orphaned]

theorem Deleting.withNewResolver
    (deleting : Deleting r name vg found world) :
    Deleting r name vg found (world.withNewResolver node) :=
  { deleting with }

theorem wp_newResolver_steady
    {post : Unit → World → Prop}
    (holds : post () (world.withNewResolver node)) :
    wp (environment node) (.assuming (steady node ·)) newResolver post world :=
  wp_call_steady fun _ _ => holds

/-- `matchesThisNode` compares the selector with the node. -/
theorem Reconciler.matchesThisNode_steady
    (selector : Option NodeSelector)
    (nodeFound : world.api.find? .node r.nodeName = some found) :
    wp (environment node) (.assuming (steady node ·))
      (r.matchesThisNode selector).run
      (fun result after => after = world ∧
        result = match selector with
          | none => .ok true
          | some selector => r.matchNodeSelectorTerms found selector) world := by
  simp only [Reconciler.matchesThisNode, wp.run_bind_iff]
  refine Client.wp_get_found nodeFound ⟨by simp, ?_⟩
  rintro _ ⟨⟩
  cases selector <;> exact ⟨rfl, rfl⟩

/-- On a node that matches, the reconciliation of a deleted volume group is
`processDelete`. -/
theorem Reconciler.reconcileRequest_selected
    {post : Except GoError Result → World → Prop}
    (deleting : Deleting r name vg found world)
    (selected : ∀ selector, vg.spec.nodeSelector = some selector →
      r.matchNodeSelectorTerms found selector = .ok true)
    (deletes : wp (environment node) (.assuming (steady node ·))
      (r.processDelete vg).run
      (fun result after => post (result.map fun _ => {}) after)
      (world.withNewResolver node)) :
    wp (environment node) (.assuming (steady node ·)) (r.reconcileRequest name).run
      post world := by
  have matched : (match vg.spec.nodeSelector with
      | none => Except.ok true
      | some selector => r.matchNodeSelectorTerms found selector) = .ok true := by
    cases isSelector : vg.spec.nodeSelector with
    | none => rfl
    | some selector => exact selected selector isSelector
  obtain ⟨status, statusFound⟩ := deleting.statusFound
  simp only [Reconciler.reconcileRequest, wp.run_bind_iff, wp.run_lift_iff,
    wp.run_attempt_iff]
  refine wp_newResolver_steady ⟨by simp, fun _ _ => ?_⟩
  refine Client.wp_get_found deleting.found ⟨by simp, ?_⟩
  rintro _ ⟨⟩
  simp only [wp.run_bind_iff, wp.run_mapError_iff]
  have nodeFound : (world.withNewResolver node).api.find? .node r.nodeName =
    some found := deleting.nodeFound
  refine (Reconciler.matchesThisNode_steady _ nodeFound).mono ?_
  rintro _ after ⟨rfl, rfl⟩
  rw [matched]
  refine ⟨by simp [Except.mapError], ?_⟩
  rintro _ ⟨⟩
  simp only [Bool.not_true, Bool.false_eq_true, if_false, wp.run_bind_iff,
    wp.run_mapError_iff]
  refine Client.wp_get_found statusFound ⟨by simp [Except.mapError], fun _ _ => ?_⟩
  simp only [Reconciler.reconcile, deleting.deleted, if_true, wp.run_bind_iff]
  refine deletes.mono ?_
  intro result after holds
  exact ⟨fun error failed => by simpa [failed, Except.map] using holds,
    fun value succeeded => by simpa [succeeded, Except.map] using holds⟩

/-- On a node that does not match, the reconciliation leaves the volume group
alone. -/
theorem Reconciler.reconcileRequest_unselected
    (deleting : Deleting r name vg found world)
    (unselected : ¬∀ selector, vg.spec.nodeSelector = some selector →
      r.matchNodeSelectorTerms found selector = .ok true) :
    wp (environment node) (.assuming (steady node ·)) (r.reconcileRequest name).run
      (fun result after => (result = .ok {} ∧ after.api = world.api) ∨
        ∃ text error, result = .error (.wrap text error "")) world := by
  push Not at unselected
  obtain ⟨selector, isSelector, mismatch⟩ := unselected
  simp only [Reconciler.reconcileRequest, wp.run_bind_iff, wp.run_lift_iff,
    wp.run_attempt_iff]
  refine wp_newResolver_steady ⟨by simp, fun _ _ => ?_⟩
  refine Client.wp_get_found deleting.found ⟨by simp, ?_⟩
  rintro _ ⟨⟩
  simp only [wp.run_bind_iff, wp.run_mapError_iff]
  have nodeFound : (world.withNewResolver node).api.find? .node r.nodeName =
    some found := deleting.nodeFound
  refine (Reconciler.matchesThisNode_steady _ nodeFound).mono ?_
  rintro _ after ⟨rfl, rfl⟩
  simp only [isSelector]
  cases compared : r.matchNodeSelectorTerms found selector with
  | error error =>
      refine ⟨?_, by simp [Except.mapError]⟩
      rintro _ ⟨⟩
      exact .inr ⟨_, _, rfl⟩
  | ok same =>
      have different : same = false := by simpa [compared] using mismatch
      subst different
      refine ⟨by simp [Except.mapError], ?_⟩
      rintro _ ⟨⟩
      exact .inl ⟨rfl, rfl⟩

/-- A wrapped error is not the one that reports retained logical volumes. -/
theorem Settled.not_wrapped
    {text : String}
    {error : GoError}
    {after : World} :
    ¬Settled r vg (.error (.wrap text error "")) after := by
  rintro (⟨failed, _⟩ | ⟨lvs, _, failed⟩)
  · cases failed
  · rw [Reconciler.retainedError] at failed
    cases failed

/-- A reconciliation settles the deletion on a node that can be released. -/
theorem Reconciler.reconcileRequest_settles
    (deleting : Deleting r vg.name vg found world)
    (releasable : Releasable r vg found world) :
    wp (environment r.nodeName) (.assuming (steady r.nodeName ·))
      (r.reconcileRequest vg.name).run (Settled r vg) world := by
  refine Reconciler.reconcileRequest_selected deleting releasable.selected ?_
  have removable : Retained r.nodeName vg (world.withNewResolver r.nodeName) ∨
      ¬Orphaned r.nodeName vg.name (world.withNewResolver r.nodeName) := by
    rw [Retained.congr rfl rfl, Orphaned.withNewResolver_iff]
    exact releasable.removable
  refine (Reconciler.processDelete_settles deleting.withNewResolver
    (Readable.withNewResolver_iff.mpr releasable.readable) removable).mono ?_
  rintro _ after (⟨rfl, released⟩ | ⟨lvs, some, rfl⟩)
  · exact .inl ⟨rfl, released⟩
  · exact .inr ⟨lvs, some, rfl⟩

/-- A reconciliation does not settle the deletion on a node that cannot be
released. -/
theorem Reconciler.reconcileRequest_stuck
    (deleting : Deleting r vg.name vg found world)
    (blocked : ¬Releasable r vg found world) :
    wp (environment r.nodeName) (.assuming (steady r.nodeName ·))
      (r.reconcileRequest vg.name).run
      (fun result after => ¬Settled r vg result after) world := by
  by_cases selected : ∀ selector, vg.spec.nodeSelector = some selector →
    r.matchNodeSelectorTerms found selector = .ok true
  · refine Reconciler.reconcileRequest_selected deleting selected ?_
    refine (Reconciler.processDelete_stuck deleting.withNewResolver ?_).mono ?_
    · rw [Retained.congr rfl rfl, Orphaned.withNewResolver_iff,
        Readable.withNewResolver_iff]
      by_contra free
      push Not at free
      exact blocked ⟨selected, free.1, free.2⟩
    · rintro _ after ⟨text, error, rfl⟩
      exact Settled.not_wrapped
  · refine (Reconciler.reconcileRequest_unselected deleting selected).mono ?_
    rintro _ after (⟨rfl, unchanged⟩ | ⟨text, error, rfl⟩)
    · rintro (⟨_, removed⟩ | ⟨_, _, failed⟩)
      · exact removed vg (unchanged ▸ deleting.found) deleting.registered
      · cases failed
    · exact Settled.not_wrapped

end Steady

/-- A reconciliation of a deleted volume group in which nothing goes wrong does its
part exactly if the node is still selected and the configuration of lvmd can be
read and removed. -/
theorem reconcileRequest_settled_iff
    (r : Reconciler)
    (name : String)
    (vg : LVMVolumeGroup)
    (found : Node)
    (world : World)
    (deleting : Deleting r name vg found world) :
    (∀ events result after,
      Exec (environment r.nodeName) (r.reconcileRequest name).run world events
        result after →
      (∀ event ∈ events, steady r.nodeName event) → Settled r vg result after) ↔
    Releasable r vg found world := by
  have named : vg.name = name := ApiServer.nameOf_of_find? deleting.found
  subst named
  constructor
  · intro settles
    by_contra blocked
    -- The run in which every call succeeds is one that the claim is about.
    have settled := settles _ _ _ (Program.run_exec _ (fun _ _ => {}) _ _)
      (Program.run_events _ _ _ (fun _ _ => steady_of_no_failure rfl _ _) _ _)
    have stuck := (Reconciler.reconcileRequest_stuck deleting blocked).sound
      (Program.run_exec _ (fun _ _ => {}) _ _)
      (Program.run_events _ _ _ (fun _ _ => steady_of_no_failure rfl _ _) _ _)
    exact stuck.2 settled
  · intro releasable events result after ran undisturbed
    exact ((Reconciler.reconcileRequest_settles deleting releasable).sound ran
      undisturbed).2

/-! ### A node whose label changes -/

/-- Whether the labels of a node meet a requirement of a selector. -/
def NodeSelectorRequirement.meets
    (labels : StringMap)
    (requirement : NodeSelectorRequirement) : Bool :=
  let value := labels.get? requirement.key
  match requirement.operator with
  | .inValues => value.any requirement.values.contains
  | .notInValues => !value.any requirement.values.contains
  | .existsKey => value.isSome
  | .doesNotExist => value.isNone
  | .gt => value.any fun value => requirement.values.any fun bound =>
      bound.toInt?.any fun bound => value.toInt?.any (bound < ·)
  | .lt => value.any fun value => requirement.values.any fun bound =>
      bound.toInt?.any fun bound => value.toInt?.any (· < bound)

/-- Whether a node matches one of the terms of a selector; a term without
requirements matches nothing. -/
def NodeSelector.matchesNode (node : Node) (selector : NodeSelector) : Bool :=
  selector.nodeSelectorTerms.any fun term =>
    !(term.matchExpressions.isEmpty && term.matchFields.isEmpty) &&
      term.matchExpressions.all (·.meets node.metadata.labels) &&
      term.matchFields.all (·.meets [("metadata.name", node.metadata.name)])

/-- A vg-manager that compares selectors with labels. -/
def Reconciler.labelled (nodeName : String) : Reconciler :=
  { Reconciler.plain nodeName with
    matchNodeSelectorTerms := fun node selector => .ok (selector.matchesNode node) }

/-- A deleted volume group for the nodes of a zone. -/
def zonedVG : LVMVolumeGroup :=
  { deletedVG with
    spec := { nodeSelector := some ⟨[{ matchExpressions :=
      [{ key := "zone", operator := .inValues, values := ["a"] }] }]⟩ } }

def zonedNode (zone : String) : Node where
  metadata := { name := "node", labels := [("zone", zone)] }

/-- The node of `deletionWorld`, in a zone. -/
def zonedWorld (zone : String) : World :=
  { deletionWorld with
    api := ⟨fun
      | .volumeGroup => [zonedVG]
      | .nodeStatus => [{ metadata := { name := "node" } }]
      | .node => [zonedNode zone]
      | _ => []⟩ }

theorem zonedWorld_deleting (zone : String) :
    Deleting (.labelled "node") "vg1" zonedVG (zonedNode zone)
      (zonedWorld zone) where
  found := rfl
  deleted := rfl
  registered := .head _
  nodeFound := rfl
  statusFound := ⟨_, rfl⟩
  named := by decide
  poolNamed := by
    rintro config ⟨⟩

/-- In its zone, the node removes its finalizer. -/
theorem reconcileRequest_settled_iff_zone :
    Releasable (.labelled "node") zonedVG (zonedNode "a") (zonedWorld "a") ∧
      ∀ events result after,
        Exec (environment "node")
          ((Reconciler.labelled "node").reconcileRequest "vg1").run
          (zonedWorld "a") events result after →
        (∀ event ∈ events, steady "node" event) →
        Settled (.labelled "node") zonedVG result after := by
  have releasable :
      Releasable (.labelled "node") zonedVG (zonedNode "a") (zonedWorld "a") := {
    selected := by
      rintro selector ⟨⟩
      rfl
    readable := by
      refine .inr ?_
      rintro content ⟨⟩
      exact ⟨_, rfl⟩
    removable := by
      refine .inr ?_
      rintro ⟨config, cached, _⟩
      cases cached }
  exact ⟨releasable, (reconcileRequest_settled_iff (.labelled "node") "vg1" zonedVG
    (zonedNode "a") (zonedWorld "a") (zonedWorld_deleting "a")).mpr releasable⟩

/-- The label of the node has changed since it registered its finalizer. Its
vg-manager returns success at the check of the selector and the finalizer
stays. -/
theorem reconcileRequest_unsettled :
    ¬∀ (r : Reconciler) (name : String) (vg : LVMVolumeGroup) (found : Node)
      (world : World), Deleting r name vg found world →
      ∀ events result after,
        Exec (environment r.nodeName) (r.reconcileRequest name).run world events
          result after →
        (∀ event ∈ events, steady r.nodeName event) → Settled r vg result after := by
  intro claimed
  let ran := Program.run (environment "node") (fun _ _ => {})
    ((Reconciler.labelled "node").reconcileRequest "vg1").run (zonedWorld "b")
  have returned : ran.2.1.toBool = true := by decide +kernel
  have settled := claimed _ _ _ _ _ (zonedWorld_deleting "b") ran.1 ran.2.1 ran.2.2
    (Program.run_exec ..)
    (Program.run_events _ _ _ (fun _ _ => steady_of_no_failure rfl _ _) _ _)
  rcases settled with ⟨_, removed⟩ | ⟨lvs, _, failed⟩
  · exact removed zonedVG (by decide +kernel) (.head _)
  · rw [failed] at returned
    cases returned

end Lvms
