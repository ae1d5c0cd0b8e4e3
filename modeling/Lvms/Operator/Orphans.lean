import Lvms.Operator.Steps
import Lvms.Outcomes

/-!
# Volume groups of removed device classes

The operator writes only the volume groups of the device classes of a cluster. Those of
device classes that were removed stay as they are until all resources have been made, and
are then deleted.
-/

namespace Lvms

open Interaction Interaction.Program

/-! ## Other volume groups stay -/

/-- Calls of some sort, when the volume groups that are looked up have the names they are
looked up by. -/
def lookingUp (allowed : Request → Prop) : Protocol sig where
  allowed := allowed
  expected
    | .api (.get .volumeGroup name), response =>
        OnOk (fun object : LVMVolumeGroup => object.name = name) response
    | _, _ => True

/-- Only volume groups with some names are written. -/
def Naming (names : List String) : Request → Prop
  | .api (.create .volumeGroup object) | .api (.update .volumeGroup object) =>
      object.name ∈ names
  | _ => True

/-- The volume groups with other names are the same. -/
def SameOutside (names : List String) (world current : World) : Prop :=
  ∀ vg : LVMVolumeGroup, vg.name ∉ names →
    (vg ∈ current.api.objects .volumeGroup ↔ vg ∈ world.api.objects .volumeGroup)

section Naming

variable {names : List String} {node : String} {choice : Choice} {world current : World}

/-- Allowed calls keep the other volume groups. -/
theorem SameOutside.respond
    {request : Request}
    (isAllowed : Naming names request)
    (keeps : request.effect ≠ .delete .volumeGroup)
    (same : SameOutside names world current) :
    SameOutside names world (World.respond node choice current request).2 := by
  intro vg isOther
  rw [← same vg isOther]
  by_cases touches : request.effect.touchesKind .volumeGroup = true
  · rcases Request.cases_of_touches touches with ⟨object, rfl⟩ | ⟨object, rfl⟩ | ⟨name, rfl⟩
    · have ran : Exec (environment node) (Client.create .volumeGroup object).run current _ _
          _ :=
        exec_call_iff.mpr ⟨choice, rfl, rfl, rfl⟩
      obtain ⟨-, -, -, -, ⟨_, -, unchanged⟩ | ⟨uid, -, -, added⟩⟩ := Client.create_cases ran
      · rw [unchanged]
      · have isNew : vg ≠ ApiServer.createdAs .volumeGroup uid object := by
          rintro rfl
          exact isOther isAllowed
        rw [added]
        simp [isNew]
    · have ran : Exec (environment node) (Client.update .volumeGroup object).run current _ _
          _ :=
        exec_call_iff.mpr ⟨choice, rfl, rfl, rfl⟩
      have different : vg.name ≠ object.name := fun isSame => isOther (isSame ▸ isAllowed)
      obtain ⟨-, -, -, -, ⟨_, -, unchanged⟩ | ⟨old, -, -, -, stored⟩⟩ :=
        Client.update_cases ran
      · rw [unchanged]
      · rw [stored]
        exact ApiServer.mem_alter_of_ne different fun _ _ _ => ApiServer.nameOf_of_stored
    · exact absurd rfl keeps
  · have framed := respond_frame node choice current request (List.mem_singleton_self _)
    rw [framed.objects .volumeGroup (by simpa using touches)]

theorem lookingUp_expected (allowed : Request → Prop) (request : Request) :
    (lookingUp allowed).expected request (World.respond node choice current request).1 := by
  unfold lookingUp
  dsimp only
  split
  · simp only [World.respond, ApiServer.respond, ApiServer.answer]
    split
    · trivial
    · split
      · rename_i found
        exact ApiServer.nameOf_of_find? found
      · trivial
  · trivial

end Naming

namespace Operator

variable {r : Operator} {cluster : LVMCluster} {node : String} {world after : World}
variable {events : List (Event sig World)}
variable {stored : LVMCluster} {name : String} {succeeded : Prop}

/-- The names of the device classes of a cluster. -/
def classNames (cluster : LVMCluster) : List String :=
  cluster.spec.deviceClasses.map (·.name)

theorem permitsResources_naming (r : Operator) (cluster : LVMCluster) :
    r.PermitsResources (lookingUp (Naming (classNames cluster))) (· = cluster.spec) where
  others request untouched := by
    dsimp only [lookingUp]
    unfold Naming
    split
    · exact absurd (by simp [Request.effect, ApiRequest.effect, writeEffects]) untouched
    · exact absurd (by simp [Request.effect, ApiRequest.effect, writeEffects]) untouched
    · trivial
  applies := by
    rintro _ rfl vg member
    have declared : vg.name ∈ classNames cluster := by
      obtain ⟨deviceClass, isClass, rfl⟩ := List.mem_map.mp member
      exact List.mem_map_of_mem isClass
    refine ⟨fun existing named => ?_, fun metadata named => ?_⟩
    · have renamed : (updateVolumeGroup vg existing).name = vg.name := named
      rw [← renamed] at declared
      exact declared
    · have renamed : (updateVolumeGroup vg { metadata, spec := {} }).name = vg.name := named
      rw [← renamed] at declared
      exact declared

/-- Volume groups of device classes are written and none is deleted. -/
def makingResources (cluster : LVMCluster) : Protocol sig :=
  (lookingUp (Naming (classNames cluster))).both { allowed := Within createEffects }

/-- The resources are made without the volume groups of removed device classes. -/
theorem createResources_outside
    {results : List (Except GoError Unit)}
    (ran : Exec (environment node) (r.createResources cluster) world events results after) :
    SameOutside (classNames cluster) world after := by
  have names := createResources_obeys (r.permitsResources_naming cluster)
    (rfl : cluster.spec = cluster.spec)
  have classes : (r.createResources cluster).Obeys { allowed := Within createEffects }
      fun _ => True :=
    .of_uses (r.createResources_uses cluster) fun _ => id
  have kept (choice : Choice) (current : World) (request : Request)
      (isAllowed : (makingResources cluster).allowed request)
      (same : SameOutside (classNames cluster) world current) :
      (makingResources cluster).expected request
          (World.respond node choice current request).1 ∧
        SameOutside (classNames cluster) world
          (World.respond node choice current request).2 := by
    refine ⟨⟨lookingUp_expected _ request, trivial⟩, same.respond isAllowed.1 ?_⟩
    have others : ∀ effect ∈ createEffects, effect ≠ .delete .volumeGroup := by decide
    exact others _ isAllowed.2
  exact ((names.both classes).sound kept ran fun _ _ => Iff.rfl).2.1

/-! ## The cluster with its finalizer -/

/-- The cluster is stored with the spec it is given and with its UID. -/
theorem update_cluster_ok
    {object old : LVMCluster}
    (ran : Exec (environment node) (Client.update .lvmCluster object).run world events
      (.ok stored) after)
    (found : world.api.find? .lvmCluster object.metadata.name = some old)
    (uid : old.metadata.uid = object.metadata.uid) :
    stored.spec = object.spec ∧ stored.metadata.uid = object.metadata.uid := by
  obtain ⟨-, -, -, -, ⟨_, isError, -⟩ | ⟨replaced, isReplaced, -, isOk, -⟩⟩ :=
    Client.update_cases ran
  · cases isError
  · obtain rfl : replaced = old := Option.some.inj (isReplaced.symm.trans found)
    obtain rfl := Except.ok.inj isOk
    cases becomes : ApiServer.stored .lvmCluster replaced object with
    | none => exact ⟨rfl, rfl⟩
    | some new =>
        obtain rfl := ApiServer.eq_of_stored becomes
        exact ⟨rfl, uid⟩

theorem ensureFinalizer_ok
    {old : LVMCluster}
    (ran : Exec (environment node) (ensureFinalizer cluster).run world events (.ok stored)
      after)
    (found : world.api.find? .lvmCluster cluster.metadata.name = some old)
    (uid : old.metadata.uid = cluster.metadata.uid) :
    stored.spec = cluster.spec ∧ stored.metadata.uid = cluster.metadata.uid := by
  dsimp only [ensureFinalizer] at ran
  split at ran
  · simpa using update_cluster_ok (Exec.run_mapError_ok_iff.mp ran) (by simpa using found)
      (by simpa using uid)
  · obtain ⟨-, isOk, -⟩ := Exec.run_pure_iff.mp ran
    obtain rfl := Except.ok.inj isOk
    exact ⟨rfl, rfl⟩

/-! ## Deletions of volume groups -/

/-- The call deletes a volume group only under some condition on its name. -/
def Deleting (good : String → Prop) (request : Request) : Prop :=
  ∀ name, request = .api (.delete .volumeGroup name) → good name

/-- One of the calls deletes the volume group with a name. -/
def DeletesIn (events : List (Event sig World)) (name : String) : Prop :=
  ∃ event ∈ events, event.request = .api (.delete .volumeGroup name)

/-- The name of the volume group that a call deletes. -/
def deletedGroup : Request → Option String
  | .api (.delete .volumeGroup name) => some name
  | _ => none

theorem deletedGroup_eq_some_iff
    {request : Request}
    {name : String} :
    deletedGroup request = some name ↔ request = .api (.delete .volumeGroup name) := by
  unfold deletedGroup
  split
  · simp
  · rename_i isOther
    constructor
    · nofun
    · rintro rfl
      exact absurd rfl (isOther name)

instance (events : List (Event sig World)) (name : String) :
    Decidable (DeletesIn events name) :=
  decidable_of_iff (∃ event ∈ events, deletedGroup event.request = some name)
    (by simp only [deletedGroup_eq_some_iff, DeletesIn])

/-- Deletions of two parts. -/
theorem deletesIn_append
    {first second : List (Event sig World)}
    {name : String} :
    DeletesIn (first ++ second) name ↔ DeletesIn first name ∨ DeletesIn second name := by
  simp only [DeletesIn, List.mem_append, or_and_right, exists_or]

theorem DeletesIn.of_part
    {part : List (Event sig World)}
    (deletes : DeletesIn part name)
    (inside : part <:+: events) :
    DeletesIn events name := by
  obtain ⟨event, member, asked⟩ := deletes
  exact ⟨event, inside.subset member, asked⟩

theorem not_deletesIn_of_within
    {α : Type}
    {effects : List Effect}
    {program : Program sig α}
    {value : α}
    (ran : Exec (environment node) program world events value after)
    (uses : program.Uses (Within effects))
    (absent : .delete .volumeGroup ∉ effects) :
    ¬ DeletesIn events name := by
  rintro ⟨event, member, asked⟩
  have allowed := uses.events_allowed ran event member
  rw [Within, asked] at allowed
  exact absent allowed

/-! ## Volume groups of removed device classes -/

/-- The volume group belongs to none of the device classes and is not deleted yet. -/
def Removable (cluster : LVMCluster) (vg : LVMVolumeGroup) : Prop :=
  isOrphan cluster vg = true ∧ vg.metadata.deletionTimestamp.isNone = true

/-- Only volume groups of removed device classes are deleted and, after a success, all of
them. -/
def DeletesOrphans
    (cluster : LVMCluster)
    (world : World)
    (events : List (Event sig World))
    (succeeded : Prop) : Prop :=
  (∀ name, DeletesIn events name →
    ∃ vg ∈ world.api.objects .volumeGroup, Removable cluster vg ∧ vg.name = name) ∧
  (succeeded → ∀ vg ∈ world.api.objects .volumeGroup, Removable cluster vg →
    DeletesIn events vg.name)

/-- Only a volume group that is not deleted yet is deleted. -/
theorem deleteOrphan_deleting
    {good : String → Prop}
    {vg : LVMVolumeGroup}
    (isGood : vg.metadata.deletionTimestamp.isNone = true → good vg.name) :
    (r.deleteOrphan vg).run.Uses (Deleting good) := by
  have classes (kind : Kind) (getError deleteError name : String)
      (isOther : .delete .volumeGroup ∉ [Effect.read, .delete kind]) :
      (deleteIfPresent kind getError deleteError name).run.Uses (Deleting good) := by
    refine (deleteIfPresent_uses kind getError deleteError name).mono ?_
    rintro _ allowed name rfl
    exact absurd allowed isOther
  have deletes : (if vg.metadata.deletionTimestamp.isNone then
      Fallible.mapError
        (GoError.wrapped ("failed to delete orphaned LVMVolumeGroup " ++ vg.name))
        (Client.delete .volumeGroup vg.name)
      else pure () : Go Unit).run.Uses (Deleting good) := by
    split
    · rename_i unmarked
      refine .run_mapError ⟨?_, fun _ => trivial⟩
      rintro _ ⟨⟩
      exact isGood unmarked
    · trivial
  refine .run_bind (classes _ _ _ _ (by decide)) fun _ => ?_
  dsimp only
  split
  · exact .run_bind (classes _ _ _ _ (by decide)) fun _ => deletes
  · exact deletes

/-- Without an error it has been deleted. -/
theorem deleteOrphan_ok
    {vg : LVMVolumeGroup}
    (ran : Exec (environment node) (r.deleteOrphan vg).run world events (.ok ()) after)
    (unmarked : vg.metadata.deletionTimestamp.isNone = true) :
    DeletesIn events vg.name := by
  have deletes {before : World} {calls : List (Event sig World)}
      (ran : Exec (environment node) (Fallible.mapError
        (GoError.wrapped ("failed to delete orphaned LVMVolumeGroup " ++ vg.name))
        (Client.delete .volumeGroup vg.name)).run before calls (.ok ()) after) :
      DeletesIn calls vg.name := by
    obtain ⟨write, rfl, asked, -⟩ := Client.delete_cases (Exec.run_mapError_ok_iff.mp ran)
    exact ⟨write, List.mem_singleton_self write, asked⟩
  simp only [deleteOrphan, unmarked, if_true] at ran
  obtain ⟨_, first, between, second, -, tail, rfl⟩ := Exec.run_bind_ok_iff.mp ran
  rw [deletesIn_append]
  split at tail
  · obtain ⟨_, third, _, fourth, -, last, rfl⟩ := Exec.run_bind_ok_iff.mp tail
    rw [deletesIn_append]
    exact .inr (.inr (deletes last))
  · exact .inr (deletes tail)

/-- The check deletes the orphans. -/
theorem checkForDeletedDeviceClasses_exec
    {result : Except GoError Unit}
    (ran : Exec (environment node) (r.checkForDeletedDeviceClasses cluster).run world events
      result after) :
    DeletesOrphans cluster world events (result = .ok ()) := by
  have lists : (Fallible.mapError (GoError.wrapped "failed to list existing LVMVolumeGroups")
      (Client.list .volumeGroup)).run.Uses (Within [.read]) :=
    .run_mapError (Client.list_uses _)
  rcases Exec.run_bind_iff.mp ran with
    ⟨error, rfl, failed⟩ | ⟨vgs, first, between, second, head, tail, rfl⟩
  · refine ⟨fun name deletes => ?_, nofun⟩
    exact absurd deletes (not_deletesIn_of_within failed lists (by decide))
  obtain ⟨rfl, rfl⟩ := Client.list_ok (Exec.run_mapError_ok_iff.mp head)
  constructor
  · intro name deletes
    rw [deletesIn_append] at deletes
    rcases deletes with early | ⟨event, member, asked⟩
    · exact absurd early (not_deletesIn_of_within head lists (by decide))
    · have deleting : (forM ((between.api.objects .volumeGroup).filter (isOrphan cluster))
          r.deleteOrphan).run.Uses (Deleting fun name =>
            ∃ vg ∈ between.api.objects .volumeGroup,
              Removable cluster vg ∧ vg.name = name) := by
        refine .run_forM fun vg isListed => ?_
        obtain ⟨isStored, orphan⟩ := List.mem_filter.mp isListed
        exact deleteOrphan_deleting fun unmarked => ⟨vg, isStored, ⟨orphan, unmarked⟩, rfl⟩
      exact deleting.events_allowed tail event member name asked
  · rintro rfl vg isStored ⟨orphan, unmarked⟩
    obtain ⟨during, _, _, inside, removes⟩ :=
      Exec.run_forM_ok tail vg (List.mem_filter.mpr ⟨isStored, orphan⟩)
    rw [deletesIn_append]
    exact .inr ((deleteOrphan_ok removes unmarked).of_part inside)

/-! ## The whole reconciliation -/

theorem reportIncomplete_not_ok
    {errs : GoError}
    {value : Result} :
    ¬ Exec (environment node) (r.reportIncomplete cluster errs).run world events (.ok value)
      after := by
  intro ran
  obtain ⟨_, _, _, _, -, tail, -⟩ := Exec.run_bind_ok_iff.mp ran
  obtain ⟨_, _, _, _, -, throws, -⟩ := Exec.run_bind_ok_iff.mp tail
  exact Exec.run_throw_not_ok throws

/-- Calls before the cleanup that delete no volume groups do not matter. -/
theorem DeletesOrphans.preceded
    {early : List (Event sig World)}
    (deletes : DeletesOrphans cluster world events succeeded)
    (none : ∀ name, ¬ DeletesIn early name) :
    DeletesOrphans cluster world (early ++ events) succeeded := by
  simpa only [DeletesOrphans, deletesIn_append, none, false_or] using deletes

/-- The same for calls after it. -/
theorem DeletesOrphans.followed
    {late : List (Event sig World)}
    {finished : Prop}
    (deletes : DeletesOrphans cluster world events succeeded)
    (none : ∀ name, ¬ DeletesIn late name)
    (implies : finished → succeeded) :
    DeletesOrphans cluster world (events ++ late) finished := by
  simp only [DeletesOrphans, deletesIn_append, none, or_false]
  exact ⟨deletes.1, fun isFinished => deletes.2 (implies isFinished)⟩

/-- Nothing is deleted before a failure. -/
theorem DeletesOrphans.of_none
    (none : ∀ name, ¬ DeletesIn events name)
    (failed : ¬ succeeded) :
    DeletesOrphans cluster world events succeeded :=
  ⟨fun name deletes => absurd deletes (none name), fun succeeds => absurd succeeds failed⟩

/-- The same volume groups are removed for the cluster as it was stored and after the
resources have been made. -/
theorem DeletesOrphans.of_same
    {current : World}
    (deletes : DeletesOrphans stored current events succeeded)
    (spec : stored.spec = cluster.spec)
    (uid : stored.metadata.uid = cluster.metadata.uid)
    (same : SameOutside (classNames cluster) world current) :
    DeletesOrphans cluster world events succeeded := by
  have outside {vg : LVMVolumeGroup} (removable : Removable cluster vg) :
      vg ∈ current.api.objects .volumeGroup ↔ vg ∈ world.api.objects .volumeGroup := by
    apply same
    have orphan := removable.1
    simp only [isOrphan, Bool.and_eq_true, Bool.not_eq_true', List.any_eq_false,
      beq_iff_eq] at orphan
    intro declared
    obtain ⟨deviceClass, member, named⟩ := List.mem_map.mp declared
    exact orphan.2 deviceClass member named
  have removableIff (vg : LVMVolumeGroup) : Removable stored vg ↔ Removable cluster vg := by
    rw [Removable, Removable, isOrphan, isOrphan, spec, uid]
  constructor
  · intro name isDeleted
    obtain ⟨vg, member, removable, named⟩ := deletes.1 name isDeleted
    have removable := (removableIff vg).mp removable
    exact ⟨vg, (outside removable).mp member, removable, named⟩
  · intro succeeds vg member removable
    exact deletes.2 succeeds vg ((outside removable).mpr member)
      ((removableIff vg).mpr removable)

/-- The end of a reconciliation deletes the orphans. -/
theorem finishReconcile_deletes
    {result : Except GoError Result}
    (ran : Exec (environment node) (r.finishReconcile cluster).run world events result
      after) :
    DeletesOrphans cluster world events (∃ value, result = .ok value) := by
  rcases Exec.run_bind_iff.mp ran with
    ⟨error, rfl, failed⟩ | ⟨_, first, between, second, head, tail, rfl⟩
  · obtain ⟨checked, -, checking⟩ := Exec.run_mapError_iff.mp failed
    exact ⟨(checkForDeletedDeviceClasses_exec checking).1, nofun⟩
  · have cleanup := checkForDeletedDeviceClasses_exec (Exec.run_mapError_ok_iff.mp head)
    have reports : ∀ name, ¬ DeletesIn second name := fun name =>
      not_deletesIn_of_within tail
        (.run_bind (.run_lift (within (r.normalEvent_uses ..) (by decide))) fun _ =>
          .run_bind (r.updateLVMClusterStatus_uses _) fun _ => trivial)
        (by decide)
    exact cleanup.followed reports fun _ => rfl

/-- A reconciliation of a cluster that is not deleted deletes only volume groups of device
classes that were removed before it and, without an error, all of them. -/
theorem reconcile_deletes
    {result : Except GoError Result}
    (found : world.api.find? .lvmCluster cluster.metadata.name = some cluster)
    (ran : Exec (environment node) (r.reconcile cluster).run world events result after) :
    DeletesOrphans cluster world events (∃ value, result = .ok value) := by
  rcases Exec.run_bind_iff.mp ran with
    ⟨error, rfl, failed⟩ | ⟨stored, first, noted, _, head, tail, rfl⟩
  · exact .of_none (fun name => not_deletesIn_of_within failed ensureFinalizer_uses
      (by decide)) (by simp)
  have finalizing : ∀ name, ¬ DeletesIn first name := fun name =>
    not_deletesIn_of_within head ensureFinalizer_uses (by decide)
  have unchanged : noted.api.objects .volumeGroup = world.api.objects .volumeGroup :=
    (Exec.frame head ensureFinalizer_uses).objects .volumeGroup (by decide)
  have copied := ensureFinalizer_ok head found rfl
  obtain ⟨spec, uid⟩ : stored.spec = cluster.spec ∧
      stored.metadata.uid = cluster.metadata.uid := copied
  obtain ⟨results, second, made, third, creating, ending, rfl⟩ :=
    Exec.run_lift_bind_iff.mp tail
  have making : ∀ name, ¬ DeletesIn second name := fun name =>
    not_deletesIn_of_within creating (r.createResources_uses stored) (by decide)
  have outside : SameOutside (classNames cluster) world made := by
    intro vg isOther
    rw [← unchanged]
    have names : classNames stored = classNames cluster := by rw [classNames, spec, classNames]
    exact createResources_outside creating vg (names ▸ isOther)
  refine .preceded (.preceded ?_ making) finalizing
  split at ending
  · refine .of_none (fun name => not_deletesIn_of_within ending (reportIncomplete_uses _)
      (by decide)) ?_
    rintro ⟨value, rfl⟩
    exact reportIncomplete_not_ok ending
  · exact (finishReconcile_deletes ending).of_same spec uid outside

/-- A request that succeeds reconciles the cluster if there is one. -/
theorem reconcileRequest_ok
    {value : Result}
    (ran : Exec (environment node) (r.reconcileRequest name).run world events (.ok value)
      after)
    (found : world.api.find? .lvmCluster name = some cluster) :
    ∃ rest, rest <:+ events ∧ Reconciles r node name world rest (.ok value) after := by
  obtain ⟨clusters, first, _, _, lists, counted, rfl⟩ := Exec.run_bind_ok_iff.mp ran
  obtain ⟨rfl, rfl⟩ := Client.list_ok (Exec.run_mapError_ok_iff.mp lists)
  dsimp only at counted
  split at counted
  · exact absurd counted Exec.run_throw_bind_not_ok
  rename_i single
  obtain ⟨answer, second, _, _, gets, answered, rfl⟩ := Exec.run_attempt_bind_iff.mp counted
  obtain ⟨rfl, look, rfl, -, -, outcome⟩ := Client.get_cases gets
  rcases outcome with ⟨err, rfl, isOther⟩ | ⟨rfl, missing⟩ | ⟨object, rfl, isObject⟩
  · simp only [isOther, Bool.false_eq_true, if_false] at answered
    exact absurd answered Exec.run_throw_not_ok
  · rw [found] at missing
    cases missing
  · obtain ⟨started, third, _, rest, starts, reconciled, rfl⟩ :=
      Exec.run_bind_ok_iff.mp answered
    obtain ⟨rfl, -⟩ := Exec.of_reading starts
      (within (.run_mapError setRunningPodImage_uses) (by decide))
    obtain ⟨image, rfl⟩ := setRunningPodImage_yields.sound
      (Exec.run_mapError_ok_iff.mp starts) started rfl
    refine ⟨rest, ⟨first ++ look :: third, by simp⟩, ?_⟩
    split at reconciled
    · rename_i marked
      exact .deleted isObject (by omega) marked reconciled
    · rename_i unmarked
      exact .live isObject (by omega) (by simpa using unmarked) reconciled

end Operator

end Lvms
