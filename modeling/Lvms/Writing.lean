import Lvms.Interaction.Protocol
import Lvms.Outcomes

/-!
# Writing volume groups

Both controllers write volume groups, and the operator also writes the cluster. A rule
for volume groups that the written ones keep is kept by all stored ones. This is stated
as a protocol, since a controller writes back what it has read.
-/

namespace Lvms

open Interaction Interaction.Program

variable {fits : String → LVMVolumeGroupSpec → Prop} {declared : LVMClusterSpec → Prop}
variable {world : World} {node : String} {request : Request}

/-- The volume groups that are written fit, and of a cluster only declared specs are
written. Answers have the name that was asked for, and what is stored fits. -/
def writing
    (fits : String → LVMVolumeGroupSpec → Prop)
    (declared : LVMClusterSpec → Prop) : Protocol sig where
  allowed
    | .api (.create .volumeGroup object) | .api (.update .volumeGroup object) =>
        fits object.name object.spec
    | .api (.update .lvmCluster object) => declared object.spec
    | .api (.create .lvmCluster _) => False
    | _ => True
  expected
    | .api (.get .volumeGroup name), response =>
        OnOk (fun object : LVMVolumeGroup =>
          object.name = name ∧ fits object.name object.spec) response
    | .api (.get .lvmCluster _), response =>
        OnOk (fun object : LVMCluster => declared object.spec) response
    | .api (.list .volumeGroup), response =>
        OnOk (fun objects : List LVMVolumeGroup =>
          ∀ object ∈ objects, fits object.name object.spec) response
    | .api (.update .volumeGroup object), response =>
        OnOk (fun updated : LVMVolumeGroup =>
          updated.name = object.name ∧ updated.spec = object.spec) response
    | .api (.update .lvmCluster object), response =>
        OnOk (fun updated : LVMCluster => updated.spec = object.spec) response
    | _, _ => True

/-- The stored volume groups fit, and the stored specs are declared. Volume groups
have unique names, and there is at most one cluster. -/
structure Fitting
    (fits : String → LVMVolumeGroupSpec → Prop)
    (declared : LVMClusterSpec → Prop)
    (world : World) : Prop where
  volumeGroups : ∀ vg ∈ world.api.objects .volumeGroup, fits vg.name vg.spec
  clusters : ∀ cluster ∈ world.api.objects .lvmCluster, declared cluster.spec
  unique : world.api.Unique .volumeGroup
  single : (world.api.objects .lvmCluster).length ≤ 1

/-- A volume group that is found fits the name it was looked up by. -/
theorem Fitting.of_find?
    {name : String}
    {vg : LVMVolumeGroup}
    (fitting : Fitting fits declared world)
    (found : world.api.find? .volumeGroup name = some vg) :
    fits name vg.spec := by
  have named : vg.name = name := ApiServer.nameOf_of_find? found
  rw [← named]
  exact fitting.volumeGroups vg (List.mem_of_find?_eq_some found)

theorem respond_fitting
    {choice : Choice}
    (isAllowed : (writing fits declared).allowed request)
    (fitting : Fitting fits declared world) :
    Fitting fits declared (World.respond node choice world request).2 := by
  cases request with
  | api request =>
      refine ⟨?_, ?_, fitting.unique.respond request, ?_⟩
      · intro vg member
        cases ApiServer.arises member with
        | kept wasThere => exact fitting.volumeGroups vg wasThere
        | created missing => exact isAllowed
        | updated wasThere named becomes =>
            rw [ApiServer.eq_of_stored becomes]
            exact isAllowed
        | marked wasThere named becomes =>
            have same := fitting.volumeGroups _ wasThere
            rcases ApiServer.eq_of_deleted becomes with rfl | rfl
            · exact same
            · exact same
      · intro cluster member
        cases ApiServer.arises member with
        | kept wasThere => exact fitting.clusters cluster wasThere
        | created missing => exact isAllowed.elim
        | updated wasThere named becomes =>
            rw [ApiServer.eq_of_stored becomes]
            exact isAllowed
        | marked wasThere named becomes =>
            have same := fitting.clusters _ wasThere
            rcases ApiServer.eq_of_deleted becomes with rfl | rfl
            · exact same
            · exact same
        | reported wasThere named =>
            have same := fitting.clusters _ wasThere
            exact same
      · have createsNone : request.effect ≠ .create .lvmCluster := by
          intro creates
          cases request <;> cases creates
          exact isAllowed
        exact (ApiServer.length_clusters_le request createsNone).trans fitting.single
  | otherManager =>
      simp only [World.respond]
      split <;> exact fitting
  | query | command | newResolver | loadResolved | storeResolved | cachedConfig
  | cacheConfig | mapOrder | now | event | raidMetrics | dropRAIDMetrics | turn =>
      exact ⟨fitting.volumeGroups, fitting.clusters, fitting.unique, fitting.single⟩

theorem respond_expected
    {choice : Choice}
    (fitting : Fitting fits declared world) :
    (writing fits declared).expected request
      (World.respond node choice world request).1 := by
  unfold writing
  dsimp only
  split
  · simp only [World.respond, ApiServer.respond, ApiServer.answer]
    split
    · trivial
    · split
      · rename_i found
        exact ⟨ApiServer.nameOf_of_find? found,
          fitting.volumeGroups _ (List.mem_of_find?_eq_some found)⟩
      · trivial
  · simp only [World.respond, ApiServer.respond, ApiServer.answer]
    split
    · trivial
    · split
      · rename_i found
        exact fitting.clusters _ (List.mem_of_find?_eq_some found)
      · trivial
  · simp only [World.respond, ApiServer.respond, ApiServer.answer]
    split
    · trivial
    · exact fitting.volumeGroups
  · simp only [World.respond, ApiServer.respond, ApiServer.answer]
    repeat' split
    · trivial
    · trivial
    · rename_i old _ _
      cases becomes : ApiServer.stored .volumeGroup old _ with
      | none => exact ⟨rfl, rfl⟩
      | some updated =>
          obtain rfl := ApiServer.eq_of_stored becomes
          exact ⟨rfl, rfl⟩
    · trivial
  · simp only [World.respond, ApiServer.respond, ApiServer.answer]
    repeat' split
    · trivial
    · trivial
    · rename_i old _ _
      cases becomes : ApiServer.stored .lvmCluster old _ with
      | none => exact rfl
      | some updated =>
          obtain rfl := ApiServer.eq_of_stored becomes
          exact rfl
    · trivial
  · trivial

/-- The calls that write volume groups or clusters. -/
def writeEffects : List Effect :=
  [.create .volumeGroup, .update .volumeGroup, .create .lvmCluster, .update .lvmCluster]

theorem not_mem_writeEffects_of_read
    (isRead : request.effect = .read) :
    request.effect ∉ writeEffects := by
  rw [isRead]
  decide

/-- A call that writes no volume group and no cluster is allowed. -/
theorem writing_allowed
    (untouched : request.effect ∉ writeEffects) :
    (writing fits declared).allowed request := by
  unfold writing
  dsimp only
  split <;> simp_all [writeEffects, Request.effect, ApiRequest.effect]

section Programs

variable {fits : String → LVMVolumeGroupSpec → Prop} {declared : LVMClusterSpec → Prop}
variable {protocol : Protocol sig} {kind : Kind}

/-- A footprint without such calls. -/
theorem obeys_of_within
    {α : Type}
    {effects : List Effect}
    {program : Go α}
    (others : ∀ request : Request, request.effect ∉ writeEffects →
      protocol.allowed request)
    (uses : program.run.Uses (Within effects))
    (untouched : ∀ effect ∈ effects, effect ∉ writeEffects) :
    program.Obeys protocol :=
  .run_of_uses uses fun _ allowed => others _ (untouched _ allowed)

theorem Client.update_obeys
    {object : kind.Object}
    {good : kind.Object → Prop}
    (isAllowed : protocol.allowed (.api (.update kind object)))
    (isGood : ∀ updated, protocol.expected (.api (.update kind object)) (.ok updated) →
      good updated) :
    (update kind object).run.Obeys protocol (OnOk good) := by
  refine ⟨isAllowed, fun updated isExpected => ?_⟩
  cases updated with
  | error error => trivial
  | ok updated => exact isGood updated isExpected

theorem Client.list_obeys
    {good : List kind.Object → Prop}
    (isAllowed : protocol.allowed (.api (.list kind)))
    (areGood : ∀ objects, protocol.expected (.api (.list kind)) (.ok objects) →
      good objects) :
    (list kind).run.Obeys protocol (OnOk good) := by
  refine ⟨isAllowed, fun objects isExpected => ?_⟩
  cases objects with
  | error error => trivial
  | ok objects => exact areGood objects isExpected

/-- The object is read, and what the change makes of it is stored. -/
theorem Client.createOrUpdateObject_obeys
    {initial : kind.Object}
    {mutate : kind.Object → Except GoError kind.Object}
    (reads : protocol.allowed (.api (.get kind (kind.nameOf initial))))
    (updates : ∀ existing object,
      protocol.expected (.api (.get kind (kind.nameOf initial))) (.ok existing) →
      mutate existing = .ok object → protocol.allowed (.api (.update kind object)))
    (creates : ∀ object, mutate initial = .ok object →
      protocol.allowed (.api (.create kind object))) :
    (createOrUpdateObject kind initial mutate).Obeys protocol := by
  refine .run_bind (.run_attempt ⟨reads, fun _ isExpected => isExpected⟩)
    fun found isExpected => ?_
  cases found with
  | ok existing =>
      dsimp only
      cases changed : mutate existing with
      | error error => trivial
      | ok object =>
          have stores : (if object = existing then pure (.none, existing)
              else do
                let updated ← update kind object
                return (.updated, updated) :
                  Go (OperationResult × kind.Object)).Obeys protocol := by
            split
            · trivial
            · exact ⟨updates existing object isExpected changed, fun updated _ => by
                cases updated <;> trivial⟩
          exact stores
  | error error =>
      dsimp only
      split
      · trivial
      · cases changed : mutate initial with
        | error error => trivial
        | ok object =>
            exact ⟨creates object changed, fun created _ => by cases created <;> trivial⟩

theorem Client.createOrUpdate_obeys
    {initial : kind.Object}
    {mutate : kind.Object → Except GoError kind.Object}
    (reads : protocol.allowed (.api (.get kind (kind.nameOf initial))))
    (updates : ∀ existing object,
      protocol.expected (.api (.get kind (kind.nameOf initial))) (.ok existing) →
      mutate existing = .ok object → protocol.allowed (.api (.update kind object)))
    (creates : ∀ object, mutate initial = .ok object →
      protocol.allowed (.api (.create kind object))) :
    (createOrUpdate kind initial mutate).Obeys protocol :=
  .run_bind (createOrUpdateObject_obeys reads updates creates) fun _ _ => trivial

end Programs

/-- Programs that write only what fits keep the rules. -/
theorem Fitting.of_obeys
    {α : Type}
    {good : α → Prop}
    {program : Program sig α}
    {after : World}
    {events : List (Event sig World)}
    {value : α}
    (fitting : Fitting fits declared world)
    (obeys : program.Obeys (writing fits declared) good)
    (ran : Exec (environment node) program world events value after) :
    (∀ event ∈ events, Fitting fits declared event.before) ∧
      Fitting fits declared after := by
  have kept (choice : Choice) (world : World) (request : Request)
      (isAllowed : (writing fits declared).allowed request)
      (holds : Fitting fits declared world) :
      (writing fits declared).expected request
          (World.respond node choice world request).1 ∧
        Fitting fits declared (World.respond node choice world request).2 :=
    ⟨respond_expected holds, respond_fitting isAllowed holds⟩
  obtain ⟨throughout, final, -⟩ := obeys.sound kept ran fitting
  exact ⟨fun event member => (throughout event member).2, final⟩

end Lvms
