import Lvms.System.Gates
import Lvms.VgManager.Release

/-!
# Retained data

Before the vg-manager deletes a volume group it looks at the storage class. If that
retains volumes, logical volumes other than the thin pool stop the deletion. The operator
deletes the storage class of a removed device class before the volume group, and a missing
storage class retains nothing. This module says when the data is safe in a whole run.
-/

namespace Lvms

open Interaction Interaction.Program

/-! ## Calls that destroy data -/

/-- The call is one of `DeleteLV` or `DeleteVG` for logical volumes of a volume group. -/
def destroys (name : String) : Request → Bool
  | .command (.lvchangeDeactivate vgName _) | .command (.lvremove vgName _)
  | .command (.vgchangeDeactivate vgName) | .command (.vgremove vgName) => vgName == name
  | _ => false

/-- Data is only destroyed by calls that may destroy. -/
theorem effect_of_destroys
    {name : String}
    {request : Request}
    (isDestroyed : destroys name request = true) :
    request.effect = .destroy := by
  unfold destroys at isDestroyed
  split at isDestroyed
  · rfl
  · rfl
  · rfl
  · rfl
  · cases isDestroyed

/-- A vg-manager destroys a volume group only when it has no logical volumes but the thin
pool. -/
def SparesData (name : String) : Occurrence → Prop
  | .call (.vgManager node) event => destroys name event.request = true →
      ∃ vg ∈ event.before.api.find? .volumeGroup name,
        userVolumes vg (event.before.host node) = []
  | _ => True

instance (name : String) : DecidablePred (SparesData name)
  | .call (.vgManager node) event =>
      inferInstanceAs (Decidable (destroys name event.request = true →
        ∃ vg ∈ event.before.api.find? .volumeGroup name,
          userVolumes vg (event.before.host node) = []))
  | .call .user _ | .call .operator _ | .change _ => inferInstanceAs (Decidable True)

/-- When the vg-manager meets a volume group that is deleted, its storage class is there and
retains, or there is nothing to retain. -/
def PolicyKept (name : String) : Action → World → Prop
  | .vgManager node group, world => group = name →
      ∀ vg, world.api.find? .volumeGroup name = some vg →
        vg.metadata.deletionTimestamp.isSome = true →
        Retains vg world ∨ userVolumes vg (world.host node) = []
  | _, _ => True

instance (vg : LVMVolumeGroup) (world : World) : Decidable (Retains vg world) :=
  inferInstanceAs (Decidable (∃ storageClass ∈ world.api.find? .storageClass
    (getStorageClassName vg.name), storageClass.reclaimPolicy = some .retain))

instance (name : String) (action : Action) (world : World) :
    Decidable (PolicyKept name action world) :=
  match action with
  | .vgManager node group =>
      inferInstanceAs (Decidable (group = name →
        ∀ vg ∈ world.api.find? .volumeGroup name,
          vg.metadata.deletionTimestamp.isSome = true →
          Retains vg world ∨ userVolumes vg (world.host node) = []))
  | .create _ _ | .update _ _ | .delete _ | .operator _ | .change =>
      inferInstanceAs (Decidable True)

/-! ## The check of the policy -/

section Check

variable {r : Reconciler} {vg : LVMVolumeGroup} {node : String} {world after : World}
variable {events : List (Event sig World)}
variable {event : Event sig World} {name : String}

/-- All logical volumes of the volume group are listed. -/
theorem Lvm.listLVsByName_ok
    {vgName : String}
    {lvs : List String}
    (ran : Exec (environment node) (Lvm.listLVsByName vgName).run world events (.ok lvs)
      after) :
    lvs = ((world.host node).logicalVolumes.filter (·.vgName == vgName)).map (·.name) := by
  dsimp only [Lvm.listLVsByName] at ran
  split at ran
  · exact absurd ran Exec.run_throw_bind_not_ok
  obtain ⟨report, first, between, second, head, tail, rfl⟩ := Exec.run_bind_ok_iff.mp ran
  obtain ⟨choice, -, answered, -⟩ := exec_call_iff.mp head
  obtain ⟨-, isNames, -⟩ := Exec.run_pure_iff.mp tail
  obtain rfl := Except.ok.inj isNames
  simp only [World.respond, Host.answer] at answered
  cases failure : choice.failure with
  | some text => simp [failure] at answered
  | none =>
      simp only [failure, Host.report, Except.ok.injEq] at answered
      simp [answered]

theorem Reconciler.isRetainPolicy_exec
    {policy : Bool × Option GoError}
    (ran : Exec (environment node) (Reconciler.isRetainPolicy vg) world events policy after)
    (retains : Retains vg world) :
    after = world ∧ policy.1 = true := by
  obtain ⟨storageClass, found, isRetain⟩ := retains
  obtain ⟨first, answer, between, second, head, tail, rfl⟩ := Exec.bind_iff.mp ran
  obtain ⟨rfl, -, -, -, -, outcome⟩ := Client.get_cases head
  rcases outcome with ⟨error, rfl, isOther⟩ | ⟨rfl, missing⟩ | ⟨object, rfl, isObject⟩
  · simp only [isOther, Bool.false_eq_true, if_false] at tail
    obtain ⟨-, rfl, rfl⟩ := Exec.pure_iff.mp tail
    exact ⟨rfl, rfl⟩
  · rw [found] at missing
    cases missing
  · obtain rfl := Option.some.inj (isObject.symm.trans found)
    obtain ⟨-, rfl, rfl⟩ := Exec.pure_iff.mp tail
    exact ⟨rfl, by simp [isRetain]⟩

/-- With a storage class that retains, the check only passes when there are no logical
volumes but the thin pool. -/
theorem Reconciler.checkRetained_ok
    (ran : Exec (environment node) (r.checkRetained vg).run world events (.ok ()) after)
    (retains : Retains vg world) :
    userVolumes vg (world.host node) = [] := by
  obtain ⟨policy, first, between, second, head, tail, rfl⟩ := Exec.run_lift_bind_iff.mp ran
  obtain ⟨rfl, isRetain⟩ := Reconciler.isRetainPolicy_exec head retains
  dsimp only at tail
  rw [if_pos isRetain] at tail
  obtain ⟨lvs, _, _, _, lists, checked, -⟩ := Exec.run_bind_ok_iff.mp tail
  obtain rfl := Lvm.listLVsByName_ok (Exec.run_mapError_ok_iff.mp lists)
  split at checked
  · obtain ⟨_, _, _, _, -, throws, -⟩ := Exec.run_bind_ok_iff.mp checked
    exact absurd throws Exec.run_throw_not_ok
  · rename_i none
    simpa [userVolumes] using none

/-! ## The deletion -/

/-- A deletion leaves no logical volumes that were not there. -/
theorem Host.execute_subset
    {choice : Choice}
    {host : Host}
    {command : Command}
    (removes : command.effect ∈ [.shrink, .destroy]) :
    ∀ lv ∈ (host.execute choice command).2.logicalVolumes,
      ∃ old ∈ host.logicalVolumes, old.name = lv.name ∧ old.vgName = lv.vgName := by
  have unchanged {lvs : List LogicalVolume} (same : lvs ⊆ host.logicalVolumes) :
      ∀ lv ∈ lvs, ∃ old ∈ host.logicalVolumes, old.name = lv.name ∧ old.vgName = lv.vgName :=
    fun lv member => ⟨lv, same member, rfl, rfl⟩
  cases failure : choice.failure with
  | some text =>
      apply unchanged
      simp only [Host.execute, failure, Host.afterFailure]
      split <;> exact List.Subset.refl _
  | none =>
      simp only [Host.execute, failure]
      cases command with
      | vgreduce | pvremove | vgchangeDeactivate | lvmdevicesDelpvid =>
          exact unchanged (List.Subset.refl _)
      | vgremove | lvremove => exact unchanged (List.filter_subset_self _)
      | lvchangeDeactivate vgName lvName =>
          intro lv member
          obtain ⟨old, isOld, becomes⟩ := List.mem_map.mp member
          refine ⟨old, isOld, ?_⟩
          rw [← becomes]
          split <;> exact ⟨rfl, rfl⟩
      | _ => simp [Command.effect] at removes

/-- Only the thin pool is not a volume of a user. -/
theorem userVolumes_eq_nil_iff
    {host : Host} :
    userVolumes vg host = [] ↔ ∀ lv ∈ host.logicalVolumes, lv.vgName = vg.name →
      ∃ config, vg.spec.thinPoolConfig = some config ∧ lv.name = config.name := by
  rw [userVolumes, Reconciler.userLVs, List.filter_eq_nil_iff, List.forall_mem_map]
  cases vg.spec.thinPoolConfig with
  | none => simp
  | some config => simp

/-- Without such logical volumes there are none during a deletion. -/
theorem userVolumes_respond
    {choice : Choice}
    {request : Request}
    (allowed : Within (.shrink :: .destroy :: statusEffects) request)
    (none : userVolumes vg (world.host node) = []) :
    userVolumes vg ((World.respond node choice world request).2.host node) = [] := by
  by_cases touches : request.effect.touchesDisks = true
  · have removes : request.effect ∈ [.shrink, .destroy] := by
      have only : ∀ effect ∈ .shrink :: .destroy :: statusEffects,
          effect.touchesDisks = true → effect ∈ [.shrink, .destroy] := by
        decide
      exact only _ allowed touches
    cases request with
    | command command =>
        rw [userVolumes_eq_nil_iff] at none ⊢
        intro lv member named
        simp only [World.respond, World.setHost, Function.update_self] at member
        obtain ⟨old, isOld, sameName, sameGroup⟩ := Host.execute_subset removes lv member
        rw [← sameGroup] at named
        rw [← sameName]
        exact none old isOld named
    | api inner => cases inner <;> cases touches
    | _ => cases touches
  · have framed := respond_frame node choice world request (List.mem_singleton_self _)
    have sameDisks := congrArg Host.logicalVolumes
      (framed.disks (by simpa using touches) node)
    have sameVolumes : ((World.respond node choice world request).2.host
        node).logicalVolumes = (world.host node).logicalVolumes := sameDisks
    rw [userVolumes, sameVolumes]
    exact none

/-- The disks are destroyed only when nothing is retained. -/
theorem Reconciler.cleanUpDisks_spares
    {result : Except GoError Unit}
    (ran : Exec (environment node) (r.cleanUpDisks vg).run world events result after)
    (kept : Retains vg world ∨ userVolumes vg (world.host node) = [])
    (member : event ∈ events)
    (destroyed : event.request.effect = .destroy) :
    userVolumes vg (event.before.host node) = [] := by
  have late {effects : List Effect} (absent : .destroy ∉ effects) :
      ¬ Within effects event.request := by
    rwa [Within, destroyed]
  obtain ⟨vgs, _, _, _, lists, found, -, member⟩ :=
    (Uses.run_mapError (Lvm.listVGs_uses true)).run_bind_reached ran member (late (by decide))
  obtain ⟨rfl, -⟩ := Exec.of_reading lists
    (within (.run_mapError (Lvm.listVGs_uses true)) (by decide))
  split at found
  · obtain ⟨rfl, -, -⟩ := Exec.run_pure_iff.mp found
    cases member
  obtain ⟨_, _, _, _, checks, deletes, -, member⟩ :=
    (r.checkRetained_uses vg).run_bind_reached found member (late (by decide))
  obtain ⟨rfl, -⟩ := Exec.of_reading checks (r.checkRetained_uses vg)
  have none := kept.elim (Reconciler.checkRetained_ok checks) id
  have keeps (choice : Choice) (current : World) (request : Request)
      (allowed : Within (.shrink :: .destroy :: statusEffects) request)
      (none : userVolumes vg (current.host node) = []) :
      userVolumes vg ((World.respond node choice current request).2.host node) = [] :=
    userVolumes_respond allowed none
  exact ((r.deleteDisks_uses vg _ _).preserves keeps deletes none).1 event member

/-! ## Which volume group is destroyed -/

/-- The call destroys at most the volume group with a name. -/
def Destroying (name : String) (request : Request) : Prop :=
  ∀ other, destroys other request = true → other = name

/-- Programs that do not destroy spare every volume group. -/
theorem destroying_of_within
    {α : Type}
    {effects : List Effect}
    {program : Program sig α}
    (uses : program.Uses (Within effects))
    (absent : .destroy ∉ effects) :
    program.Uses (Destroying name) := by
  refine uses.mono fun request allowed other isDestroyed => ?_
  rw [Within, effect_of_destroys isDestroyed] at allowed
  exact absurd allowed absent

theorem command_destroying
    {run : Command}
    (named : ∀ other, destroys other (.command run) = true → other = name) :
    (command run).run.Uses (Destroying name) :=
  ⟨named, fun _ => trivial⟩

theorem Lvm.deleteLV_destroying (lvName vgName : String) :
    (Lvm.deleteLV lvName vgName).run.Uses (Destroying vgName) := by
  refine .run_bind (Lvm.checkNames_uses ..) fun _ => ?_
  refine .run_bind (.run_mapError (command_destroying ?_)) fun _ =>
    .run_mapError (command_destroying ?_)
  · simp [destroys]
  · simp [destroys]

theorem Lvm.deletePVIDs_destroying
    (vgName : String)
    (pvs : List PhysicalVolume) :
    (Lvm.deletePVIDs vgName pvs).run.Uses (Destroying name) := by
  induction pvs with
  | nil => trivial
  | cons pv rest inductionHypothesis =>
      refine .run_bind (.run_attempt (command_destroying nofun)) fun removed => ?_
      cases removed with
      | ok _ => exact inductionHypothesis
      | error error =>
          dsimp only
          split
          · exact inductionHypothesis
          · trivial

/-- The deletion of a volume group spares the others. -/
theorem Lvm.deleteVG_destroying (existing : VolumeGroup) :
    (Lvm.deleteVG existing).run.Uses (Destroying existing.name) := by
  refine .run_bind (.run_mapError (command_destroying ?_)) fun _ =>
    .run_bind (.run_mapError (command_destroying ?_)) fun _ =>
    .run_bind (.run_mapError (command_destroying nofun)) fun _ =>
    Lvm.deletePVIDs_destroying ..
  · simp [destroys]
  · simp [destroys]

theorem Reconciler.deleteThinPool_destroying
    (vgs : List VolumeGroup)
    (config : ThinPoolConfig) :
    (r.deleteThinPool vg vgs config).run.Uses (Destroying vg.name) := by
  refine .run_bind (.run_mapError (destroying_of_within (Lvm.lvExists_uses ..) (by decide)))
    fun found => ?_
  split
  · refine .run_bind (.run_attempt (Lvm.deleteLV_destroying ..)) fun removed => ?_
    cases removed with
    | ok _ => trivial
    | error error =>
        exact .run_bind (.run_lift (destroying_of_within (r.reportFailure_uses ..)
          (by decide))) fun _ => trivial
  · trivial

theorem Reconciler.deleteVolumeGroup_destroying
    (vgs : List VolumeGroup)
    (existing : VolumeGroup) :
    (r.deleteVolumeGroup vg vgs existing).run.Uses (Destroying existing.name) := by
  refine .run_bind (.run_attempt (Lvm.deleteVG_destroying existing)) fun removed => ?_
  cases removed with
  | ok _ => trivial
  | error error =>
      exact .run_bind (.run_lift (destroying_of_within (r.reportFailure_uses ..)
        (by decide))) fun _ => trivial

theorem Reconciler.cleanUpDisks_destroying :
    (r.cleanUpDisks vg).run.Uses (Destroying vg.name) := by
  refine .run_bind (.run_mapError (destroying_of_within (Lvm.listVGs_uses _) (by decide)))
    fun vgs => ?_
  split
  · trivial
  · rename_i existing found
    have named : existing.name = vg.name := by simpa using List.find?_some found
    refine .run_bind (destroying_of_within (r.checkRetained_uses _) (by decide)) fun _ => ?_
    have removes : (r.deleteVolumeGroup vg vgs existing).run.Uses (Destroying vg.name) :=
      named ▸ r.deleteVolumeGroup_destroying vgs existing
    dsimp only [Reconciler.deleteDisks]
    split
    · exact .run_bind (r.deleteThinPool_destroying vgs _) fun _ => removes
    · exact removes

/-- A cleanup spares the other volume groups. -/
theorem Reconciler.processDelete_destroying :
    (r.processDelete vg).run.Uses (Destroying vg.name) :=
  .run_bind (.run_mapError
      (destroying_of_within (Lvmd.CachedFileConfig.load_uses _) (by decide))) fun _ =>
    .run_bind r.cleanUpDisks_destroying fun _ =>
    .run_bind (destroying_of_within (r.storeRemaining_uses ..) (by decide)) fun _ =>
    destroying_of_within (r.releaseVolumeGroup_uses _) (by decide)

/-! ## One reconciliation -/

theorem Reconciler.afterCleanup_uses (vg : LVMVolumeGroup) (remaining : Option Lvmd.Config) :
    (do r.storeRemaining vg remaining; r.releaseVolumeGroup vg : Go Unit).run.Uses
      (Within (.update .volumeGroup :: .removeFile :: configEffects)) :=
  .run_bind (within (r.storeRemaining_uses ..) (by decide)) fun _ =>
    within (r.releaseVolumeGroup_uses vg) (by decide)

/-- What a deletion destroys, the cleanup of the disks destroys. -/
theorem Reconciler.processDelete_cleaning
    {result : Except GoError Unit}
    (ran : Exec (environment node) (r.processDelete vg).run world events result after)
    (member : event ∈ events)
    (destroyed : event.request.effect = .destroy) :
    ∃ started cleaning cleaned last, Frame [.read, .cacheConfig] world started ∧
      Exec (environment node) (r.cleanUpDisks vg).run started cleaning cleaned last ∧
      event ∈ cleaning := by
  have late {effects : List Effect} (absent : .destroy ∉ effects) :
      ¬ Within effects event.request := by
    rwa [Within, destroyed]
  obtain ⟨_, _, started, _, loads, cleans, -, inRest⟩ :=
    (Uses.run_mapError (Lvmd.CachedFileConfig.load_uses r.lvmd)).run_bind_reached ran member
      (late (by decide))
  have framed := Exec.frame loads (.run_mapError (Lvmd.CachedFileConfig.load_uses r.lvmd))
  rcases Exec.run_bind_iff.mp cleans with
    ⟨error, -, failed⟩ | ⟨_, first, cleaned, second, cleaning, releases, rfl⟩
  · exact ⟨_, _, _, _, framed, failed, inRest⟩
  · rcases List.mem_append.mp inRest with early | behind
    · exact ⟨_, _, _, _, framed, cleaning, early⟩
    · have released := (r.afterCleanup_uses vg _).events_allowed releases event behind
      exact absurd released (late (by decide))

/-- A deletion that destroys data finds no logical volumes but the thin pool. -/
theorem Reconciler.processDelete_spares
    {result : Except GoError Unit}
    (ran : Exec (environment node) (r.processDelete vg).run world events result after)
    (kept : Retains vg world ∨ userVolumes vg (world.host node) = [])
    (member : event ∈ events)
    (destroyed : event.request.effect = .destroy) :
    userVolumes vg (event.before.host node) = [] := by
  obtain ⟨started, _, _, _, framed, cleaning, inside⟩ :=
    Reconciler.processDelete_cleaning ran member destroyed
  have sameClasses := framed.objects .storageClass (by decide)
  have sameDisks := congrArg Host.logicalVolumes (framed.disks (by decide) node)
  have sameVolumes : (started.host node).logicalVolumes = (world.host node).logicalVolumes :=
    sameDisks
  refine Reconciler.cleanUpDisks_spares cleaning ?_ inside destroyed
  rwa [Retains, ApiServer.find?, sameClasses, userVolumes, sameVolumes]

/-- A reconciliation destroys only the volume group it is for, which is being deleted. -/
theorem ReconcileStep.deleting
    {group : String}
    (step : ReconcileStep r name world events after)
    (member : event ∈ events)
    (destroyed : destroys group event.request = true) :
    ∃ vg rest result, world.api.find? .volumeGroup group = some vg ∧ group = name ∧
      vg.metadata.deletionTimestamp.isSome ∧
      Exec (environment r.nodeName) (r.processDelete vg).run
        (world.withNewResolver r.nodeName) rest result after ∧
      event ∈ rest ∧ event.before.api.find? .volumeGroup group = some vg := by
  have isDestroy := effect_of_destroys destroyed
  obtain ⟨first, rest, rfl, reads, stopsOr⟩ := step.cases
  rcases List.mem_append.mp member with early | late
  · have reading := reads event early
    simp [isDestroy] at reading
  rcases stopsOr with ⟨rfl, -⟩ | ⟨vg, result, found, ran⟩
  · cases late
  by_cases marked : vg.metadata.deletionTimestamp.isSome
  · dsimp only [Reconciler.reconcile] at ran
    rw [if_pos marked] at ran
    obtain ⟨_, -, deleting⟩ := Exec.run_bind_pure_iff.mp ran
    have named : vg.name = name := ApiServer.nameOf_of_find? found
    obtain rfl : group = vg.name :=
      r.processDelete_destroying.events_allowed deleting event late group destroyed
    rw [← named] at found
    obtain ⟨started, _, _, _, framed, cleaning, inside⟩ :=
      Reconciler.processDelete_cleaning deleting late isDestroy
    refine ⟨vg, rest, _, found, named, marked, deleting, late, ?_⟩
    rw [ApiServer.find?, Exec.objects_throughout cleaning (r.cleanUpDisks_uses vg) (by decide)
      event inside, framed.objects .volumeGroup (by decide)]
    exact found
  · have quiet : (r.reconcile vg).run.Uses
        (Within (.wipe :: .update .volumeGroup :: setUpEffects)) :=
      r.reconcile_uses_of_present marked
        (fun _ => within (wipeDevices_uses ..) (by decide)) (by decide)
    have allowed := quiet.events_allowed ran event late
    rw [Within, isDestroy] at allowed
    exact absurd allowed (by decide)

/-- A reconciliation destroys the volume group only without logical volumes but the thin
pool. -/
theorem ReconcileStep.spares
    {group : String}
    (step : ReconcileStep r name world events after)
    (kept : PolicyKept group (.vgManager r.nodeName name) world)
    (member : event ∈ events)
    (destroyed : destroys group event.request = true) :
    ∃ vg ∈ event.before.api.find? .volumeGroup group,
      userVolumes vg (event.before.host r.nodeName) = [] := by
  obtain ⟨vg, rest, _, found, isName, marked, deleting, late, stored⟩ :=
    step.deleting member destroyed
  exact ⟨vg, stored, Reconciler.processDelete_spares deleting (kept isName.symm vg found marked)
    late (effect_of_destroys destroyed)⟩

end Check

/-! ## Whole runs -/

/-- One action destroys no retained data. -/
theorem System.Step.spares
    {system : System}
    {name : String}
    {action : Action}
    {before after : World}
    {occurrences : List Occurrence}
    (step : system.Step before action occurrences after)
    (kept : PolicyKept name action before) :
    ∀ occurrence ∈ occurrences, SparesData name occurrence := by
  cases step with
  | vgManager step =>
      rename_i node group events
      intro occurrence member
      obtain ⟨event, isEvent, rfl⟩ := List.mem_map.mp member
      intro destroyed
      have named := system.nodeName_vgManager node
      rw [← named] at kept
      have spared := step.spares kept isEvent destroyed
      rwa [named] at spared
  | create | update | delete | operator =>
      intro occurrence member
      obtain ⟨event, -, rfl⟩ := List.mem_map.mp member
      trivial
  | change =>
      intro occurrence member
      obtain rfl := List.mem_singleton.mp member
      trivial

/-- In a run in which, whenever a vg-manager meets the deleted volume group, its storage
class is still there and retains, or there is nothing to retain, no vg-manager destroys the
volume group while it has a logical volume other than the thin pool. -/
theorem retained_data_spared
    {system : System}
    {name : String}
    {start last : World}
    {occurrences : List Occurrence}
    (run : system.Run (PolicyKept name) start occurrences last) :
    ∀ occurrence ∈ occurrences, SparesData name occurrence := by
  refine History.all_events (fun _ => True) (SparesData name) trivial ?_ run
  rintro middle added next - ⟨action, kept, step⟩
  exact ⟨trivial, step.spares kept⟩

/-! ## Data of a device class -/

/-- Two device classes, of which the second one retains its volumes, are declared, and the
node sets up the second one. -/
def setUpSecond : List Action :=
  [.create { name := "cluster", inNamespace := "storage" } bothClasses,
    .operator "cluster",
    .vgManager "node" "vg2",
    .vgManager "node" "vg2",
    .vgManager "node" "vg2"]

/-- A logical volume with data is created in the second volume group. -/
def withData (world : World) : World :=
  { world with
    host := fun node => { world.host node with
      logicalVolumes :=
        (world.host node).logicalVolumes ++ [{ name := "data", vgName := "vg2" }] } }

theorem withData_surroundings (world : World) : Surroundings world (withData world) :=
  ⟨fun _ _ => rfl, fun _ => rfl, fun _ => .inl rfl⟩

/-- The world with the data. -/
def dataWorld : World :=
  withData (System.plain.performAll withoutFailures oneNodeWorld setUpSecond).2

/-- The node is set up, data is written, and then some actions are taken. -/
def runWithData (later : List Action) : List Occurrence × World :=
  let (early, world) := System.plain.performAll withoutFailures oneNodeWorld setUpSecond
  let (late, last) := System.plain.performAll withoutFailures (withData world) later
  (early ++ ([.change world] ++ late), last)

theorem runWithData_run
    {meets : Action → World → Prop}
    {later : List Action}
    (setsUp : System.plain.AdmitsAll withoutFailures meets oneNodeWorld setUpSecond)
    (changes : ∀ world, meets .change world)
    (goesOn : System.plain.AdmitsAll withoutFailures meets dataWorld later) :
    System.plain.Run meets oneNodeWorld (runWithData later).1 (runWithData later).2 :=
  (System.performAll_run setsUp).append
    ((History.single ⟨.change, changes _, .change (withData_surroundings _)⟩).append
      (System.performAll_run goesOn))

/-- The cluster is deleted. -/
def deleteCluster : List Action :=
  [.delete "cluster", .operator "cluster", .vgManager "node" "vg2"]

/-- The data is there after the cluster was deleted. -/
theorem retained_data_spared_deleted :
    (∀ occurrence ∈ (runWithData deleteCluster).1, SparesData "vg2" occurrence) ∧
      "data" ∈ (((runWithData deleteCluster).2.host "node").logicalVolumes.map (·.name)) :=
  ⟨retained_data_spared (runWithData_run (by decide +kernel) (fun _ => trivial)
    (by decide +kernel)), by decide +kernel⟩

/-- The second device class is removed. -/
def removeSecond : List Action :=
  [.update "cluster" firstClass, .operator "cluster", .vgManager "node" "vg2"]

/-- The data of a removed device class is destroyed although the class retains its
volumes. -/
theorem retained_data_destroyed :
    (∃ deviceClass ∈ bothClasses.deviceClasses, deviceClass.name = "vg2" ∧
      deviceClass.retains = true) ∧
    System.plain.Run (fun _ _ => True) oneNodeWorld (runWithData removeSecond).1
      (runWithData removeSecond).2 ∧
    ¬ ∀ occurrence ∈ (runWithData removeSecond).1, SparesData "vg2" occurrence :=
  ⟨by decide +kernel,
    runWithData_run (by decide +kernel) (fun _ => trivial) (by decide +kernel),
    by decide +kernel⟩

end Lvms
