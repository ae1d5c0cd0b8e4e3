import Lvms.Effects
import Lvms.Interaction.Keyed
import Mathlib.Data.List.Nodup

/-!
# What a request changes

The API server changes objects in a few ways only. Every object that is there after a
request was there before, or is the result of what the request asks for; and names
stay unique.
-/

namespace Lvms

open Interaction

namespace ApiServer

variable {server : ApiServer} {kind : Kind} {choice : Choice}

/-! ## Where objects come from -/

/-- What a creation stores. -/
def createdAs (kind : Kind) (uid : String) (object : kind.Object) : kind.Object :=
  kind.withMetadata object { kind.metadata object with
    uid, resourceVersion := 1, deletionTimestamp := none }

/-- Where the objects come from that are there after a request. -/
inductive Arises (server : ApiServer) (choice : Choice) :
    (request : ApiRequest) → (kind : Kind) → kind.Object → Prop
  | kept {request kind object}
      (member : object ∈ server.objects kind) :
      Arises server choice request kind object
  | created {kind object}
      (missing : server.find? kind (kind.nameOf object) = none) :
      Arises server choice (.create kind object) kind
        (createdAs kind choice.fresh object)
  | updated {kind new old object}
      (member : old ∈ server.objects kind)
      (named : kind.nameOf old = kind.nameOf new)
      (becomes : stored kind old new = some object) :
      Arises server choice (.update kind new) kind object
  | marked {kind name old object}
      (member : old ∈ server.objects kind)
      (named : kind.nameOf old = name)
      (becomes : deleted kind choice.now old = some object) :
      Arises server choice (.delete kind name) kind object
  | applied {storageClass}
      (missing : server.find? .storageClass storageClass.metadata.name = none) :
      Arises server choice (.applyStorageClass storageClass) .storageClass storageClass
  | relabelled {storageClass old}
      (member : old ∈ server.objects .storageClass)
      (named : old.metadata.name = storageClass.metadata.name) :
      Arises server choice (.applyStorageClass storageClass) .storageClass
        { old with metadata := { old.metadata with
            labels := storageClass.metadata.labels
            annotations := storageClass.metadata.annotations } }
  | reported {cluster old}
      (member : old ∈ server.objects .lvmCluster)
      (named : old.metadata.name = cluster.metadata.name) :
      Arises server choice (.updateStatus cluster) .lvmCluster
        { old with
          status := cluster.status
          metadata := { old.metadata with
            resourceVersion := old.metadata.resourceVersion + 1 } }

variable {now : Nat} {old object new : kind.Object} {name : String}
variable {change : kind.Object → Option kind.Object}

/-- A deletion only marks. -/
theorem eq_of_deleted
    (becomes : deleted kind now old = some object) :
    object = old ∨
      object = kind.withMetadata old { kind.metadata old with
        deletionTimestamp := some now
        resourceVersion := (kind.metadata old).resourceVersion + 1 } := by
  simp only [deleted] at becomes
  split at becomes
  · cases becomes
  · split at becomes
    · exact .inl (Option.some.inj becomes).symm
    · exact .inr (Option.some.inj becomes).symm

/-- An object with a finalizer is only marked. -/
theorem exists_deleted_of_finalizers
    (now : Nat)
    (hasFinalizer : (kind.metadata old).finalizers ≠ []) :
    ∃ object, deleted kind now old = some object := by
  simp only [deleted]
  split
  · rename_i bare
    exact absurd (List.isEmpty_iff.mp bare) hasFinalizer
  · split <;> exact ⟨_, rfl⟩

/-- A deletion that marks an object gives it a new version. -/
theorem resourceVersion_of_deleted
    (unmarked : (kind.metadata old).deletionTimestamp.isNone = true)
    (becomes : deleted kind now old = some object) :
    (kind.metadata object).resourceVersion = (kind.metadata old).resourceVersion + 1 := by
  simp only [deleted] at becomes
  split at becomes
  · cases becomes
  · split at becomes
    · rename_i marked
      rw [← Option.not_isSome, marked] at unmarked
      cases unmarked
    · obtain rfl := Option.some.inj becomes
      rw [Kind.metadata_withMetadata]

/-- An object that keeps a finalizer is stored. -/
theorem exists_stored_of_finalizers
    (old : kind.Object)
    (hasFinalizer : (kind.metadata new).finalizers ≠ []) :
    ∃ object, stored kind old new = some object := by
  have notEmpty : (kind.metadata new).finalizers.isEmpty = false := by
    simpa using hasFinalizer
  simp [stored, notEmpty]

theorem exists_stored_of_unmarked
    (new : kind.Object)
    (unmarked : (kind.metadata old).deletionTimestamp = none) :
    ∃ object, stored kind old new = some object := by
  simp [stored, unmarked]

theorem nameOf_of_stored
    (becomes : stored kind old new = some object) :
    kind.nameOf object = kind.nameOf new := by
  rw [eq_of_stored becomes, Kind.nameOf, Kind.metadata_withMetadata]
  rfl

/-- The answer to an update has the name of the object. -/
theorem nameOf_getD_stored (old object : kind.Object) :
    kind.nameOf ((stored kind old object).getD object) = kind.nameOf object := by
  cases becomes : stored kind old object with
  | none => rfl
  | some new => exact nameOf_of_stored becomes

theorem nameOf_of_deleted
    (becomes : deleted kind now old = some object) :
    kind.nameOf object = kind.nameOf old := by
  rcases eq_of_deleted becomes with rfl | rfl
  · rfl
  · rw [Kind.nameOf, Kind.metadata_withMetadata]
    rfl

/-- The objects after a change: those with other names, and the results of the change. -/
theorem mem_alter_iff
    {object : kind.Object} :
    object ∈ (server.alter kind name change).objects kind ↔
      (object ∈ server.objects kind ∧ kind.nameOf object ≠ name) ∨
      ∃ old ∈ server.objects kind, kind.nameOf old = name ∧ change old = some object := by
  simp only [alter, set_objects_self, List.mem_filterMap]
  constructor
  · rintro ⟨old, member, becomes⟩
    split at becomes
    · rename_i named
      exact .inr ⟨old, member, by simpa using named, becomes⟩
    · rename_i other
      obtain rfl := Option.some.inj becomes
      exact .inl ⟨member, by simpa using other⟩
  · rintro (⟨member, other⟩ | ⟨old, member, named, becomes⟩)
    · exact ⟨object, member, by simp [other]⟩
    · exact ⟨old, member, by simpa [named] using becomes⟩

/-- An object of a changed kind is the result of the change or was there. -/
theorem mem_alter
    (member : object ∈ (server.alter kind name change).objects kind) :
    object ∈ server.objects kind ∨
      ∃ old ∈ server.objects kind, kind.nameOf old = name ∧ change old = some object :=
  (mem_alter_iff.mp member).imp_left And.left

/-- A change of the objects with a name leaves the others. -/
theorem mem_alter_of_ne
    {other : kind.Object}
    (different : kind.nameOf other ≠ name)
    (keeps : ∀ old new, kind.nameOf old = name → change old = some new →
      kind.nameOf new = name) :
    other ∈ (server.alter kind name change).objects kind ↔ other ∈ server.objects kind := by
  rw [mem_alter_iff]
  constructor
  · rintro (⟨member, -⟩ | ⟨old, -, named, becomes⟩)
    · exact member
    · exact absurd (keeps old other named becomes) different
  · exact fun member => .inl ⟨member, different⟩

/-- Requests change objects in no other way. -/
theorem arises
    {request : ApiRequest}
    (member : object ∈ (server.respond choice request).2.objects kind) :
    server.Arises choice request kind object := by
  by_cases touched : request.effect.touchesKind kind = true
  · rw [respond] at member
    cases failure : choice.failure with
    | some text =>
        rw [failure] at member
        exact .kept member
    | none =>
        rw [failure] at member
        cases request with
        | get | list | listPVCs | listPVs => cases touched
        | create other new =>
            obtain rfl : kind = other := by
              simpa [ApiRequest.effect, Effect.touchesKind] using touched
            simp only [answer] at member
            cases missing : server.find? kind (kind.nameOf new) with
            | some old =>
                simp only [missing] at member
                exact .kept member
            | none =>
                simp only [missing, set_objects_self] at member
                rcases List.mem_append.mp member with old | new
                · exact .kept old
                · obtain rfl := List.mem_singleton.mp new
                  exact .created missing
        | update other new =>
            obtain rfl : kind = other := by
              simpa [ApiRequest.effect, Effect.touchesKind] using touched
            simp only [answer] at member
            split at member
            · exact .kept member
            · split at member
              · rcases mem_alter member with old | ⟨old, oldMember, named, becomes⟩
                · exact .kept old
                · exact .updated oldMember named becomes
              · exact .kept member
        | delete other name =>
            obtain rfl : kind = other := by
              simpa [ApiRequest.effect, Effect.touchesKind] using touched
            simp only [answer] at member
            split at member
            · exact .kept member
            · rcases mem_alter member with old | ⟨old, oldMember, named, becomes⟩
              · exact .kept old
              · exact .marked oldMember named becomes
        | applyStorageClass storageClass =>
            obtain rfl : kind = .storageClass := by
              simpa [ApiRequest.effect, Effect.touchesKind] using touched
            simp only [answer] at member
            split at member
            · rename_i missing
              rw [set_objects_self] at member
              rcases List.mem_append.mp member with old | new
              · exact .kept old
              · obtain rfl := List.mem_singleton.mp new
                exact .applied missing
            · split at member
              · rcases mem_alter member with old | ⟨old, oldMember, named, becomes⟩
                · exact .kept old
                · obtain rfl := Option.some.inj becomes
                  exact .relabelled oldMember named
              · exact .kept member
        | updateStatus cluster =>
            obtain rfl : kind = .lvmCluster := by
              simpa [ApiRequest.effect, Effect.touchesKind] using touched
            simp only [answer] at member
            split at member
            · exact .kept member
            · split at member
              · rcases mem_alter member with old | ⟨old, oldMember, named, becomes⟩
                · exact .kept old
                · obtain rfl := Option.some.inj becomes
                  exact .reported oldMember named
              · exact .kept member
  · rw [respond_objects choice server request kind (by simpa using touched)] at member
    exact .kept member

/-! ## Unique names -/

/-- No two objects of a kind have one name. -/
def Unique (server : ApiServer) (kind : Kind) : Prop :=
  ((server.objects kind).map kind.nameOf).Nodup

instance : Decidable (server.Unique kind) :=
  inferInstanceAs (Decidable (List.Nodup _))

/-- The object with a name is the only one. -/
theorem Unique.find?_of_mem
    (unique : server.Unique kind)
    (member : object ∈ server.objects kind) :
    server.find? kind (kind.nameOf object) = some object :=
  find?_key_of_mem unique member

theorem Unique.alter
    (unique : server.Unique kind)
    (keeps : ∀ old new, kind.nameOf old = name → change old = some new →
      kind.nameOf new = name) :
    (server.alter kind name change).Unique kind := by
  have named (old new : kind.Object)
      (becomes : (if kind.nameOf old == name then change old else some old) = some new) :
      kind.nameOf new = kind.nameOf old := by
    split at becomes
    · rename_i isNamed
      have isNamed : kind.nameOf old = name := by simpa using isNamed
      rw [keeps old new isNamed becomes, isNamed]
    · rw [Option.some.inj becomes]
  rw [Unique, ApiServer.alter, set_objects_self, List.Nodup, List.pairwise_map]
  refine List.Pairwise.filterMap _ ?_ (List.pairwise_map.mp unique)
  intro left right different left' isLeft right' isRight
  rwa [named left left' isLeft, named right right' isRight]

theorem Unique.append
    (unique : server.Unique kind)
    (missing : server.find? kind (kind.nameOf new) = none) :
    (server.set kind (server.objects kind ++ [new])).Unique kind := by
  rw [Unique, set_objects_self, List.map_append, List.map_singleton, List.nodup_append]
  refine ⟨unique, by simp, ?_⟩
  intro oldName oldMember newName newMember same
  obtain ⟨old, isOld, rfl⟩ := List.mem_map.mp oldMember
  obtain rfl := List.mem_singleton.mp newMember
  simpa [same] using List.find?_eq_none.mp missing old isOld

theorem Unique.find?_eq_some_iff
    (unique : server.Unique kind) :
    server.find? kind name = some object ↔
      object ∈ server.objects kind ∧ kind.nameOf object = name := by
  constructor
  · intro found
    exact ⟨List.mem_of_find?_eq_some found, nameOf_of_find? found⟩
  · rintro ⟨member, rfl⟩
    exact unique.find?_of_mem member

/-- The object with a name after a change of it. -/
theorem Unique.find?_alter
    (unique : server.Unique kind)
    (keeps : ∀ old new, kind.nameOf old = name → change old = some new →
      kind.nameOf new = name) :
    (server.alter kind name change).find? kind name =
      (server.find? kind name).bind change := by
  ext new
  rw [Option.bind_eq_some_iff]
  constructor
  · intro found
    obtain ⟨old, member, named, becomes⟩ := exists_of_find?_alter found
    exact ⟨old, unique.find?_eq_some_iff.mpr ⟨member, named⟩, becomes⟩
  · rintro ⟨old, found, becomes⟩
    exact find?_alter_of_some found becomes (keeps old new (nameOf_of_find? found) becomes)

/-- The objects with other names are the same. -/
theorem Unique.find?_alter_of_ne
    {other : String}
    (unique : server.Unique kind)
    (keeps : ∀ old new, kind.nameOf old = name → change old = some new →
      kind.nameOf new = name)
    (different : other ≠ name) :
    (server.alter kind name change).find? kind other = server.find? kind other := by
  ext object
  rw [(unique.alter keeps).find?_eq_some_iff, unique.find?_eq_some_iff]
  refine and_congr_left ?_
  rintro rfl
  exact mem_alter_of_ne different keeps

/-- The object with the name after an update. -/
theorem Unique.find?_update
    (unique : server.Unique kind)
    (found : server.find? kind (kind.nameOf object) = some old) :
    (server.alter kind (kind.nameOf object) fun old => stored kind old object).find? kind
      (kind.nameOf object) = stored kind old object := by
  rw [unique.find?_alter fun _ _ _ => nameOf_of_stored, found, Option.bind_some]

/-- The object with the name after a deletion. -/
theorem Unique.find?_delete
    (now : Nat)
    (unique : server.Unique kind)
    (found : server.find? kind name = some old) :
    (server.alter kind name (deleted kind now)).find? kind name = deleted kind now old := by
  rw [unique.find?_alter fun _ _ named becomes => (nameOf_of_deleted becomes).trans named,
    found, Option.bind_some]

/-- Requests keep the names unique. -/
theorem Unique.respond
    (unique : server.Unique kind)
    (request : ApiRequest) :
    (server.respond choice request).2.Unique kind := by
  by_cases touched : request.effect.touchesKind kind = true
  · rw [ApiServer.respond]
    cases choice.failure with
    | some text => exact unique
    | none =>
        cases request with
        | get | list | listPVCs | listPVs => cases touched
        | create other new =>
            obtain rfl : kind = other := by
              simpa [ApiRequest.effect, Effect.touchesKind] using touched
            simp only [answer]
            split
            · exact unique
            · rename_i missing
              refine unique.append ?_
              rw [Kind.nameOf, Kind.metadata_withMetadata]
              exact missing
        | update other new =>
            obtain rfl : kind = other := by
              simpa [ApiRequest.effect, Effect.touchesKind] using touched
            simp only [answer]
            repeat' split
            · exact unique
            · exact unique.alter fun _ _ _ becomes => nameOf_of_stored becomes
            · exact unique
        | delete other name =>
            obtain rfl : kind = other := by
              simpa [ApiRequest.effect, Effect.touchesKind] using touched
            simp only [answer]
            split
            · exact unique
            · exact unique.alter fun _ _ named becomes =>
                (nameOf_of_deleted becomes).trans named
        | applyStorageClass storageClass =>
            obtain rfl : kind = .storageClass := by
              simpa [ApiRequest.effect, Effect.touchesKind] using touched
            simp only [answer]
            repeat' split
            · rename_i missing
              exact unique.append missing
            · refine unique.alter fun _ _ named becomes => ?_
              rw [← Option.some.inj becomes]
              exact named
            · exact unique
        | updateStatus cluster =>
            obtain rfl : kind = .lvmCluster := by
              simpa [ApiRequest.effect, Effect.touchesKind] using touched
            simp only [answer]
            repeat' split
            · exact unique
            · refine unique.alter fun _ _ named becomes => ?_
              rw [← Option.some.inj becomes]
              exact named
            · exact unique
  · rw [Unique, respond_objects choice server request kind (by simpa using touched)]
    exact unique

/-! ## The number of objects -/

theorem length_alter_le
    (name : String)
    (change : kind.Object → Option kind.Object) :
    ((server.alter kind name change).objects kind).length ≤
      (server.objects kind).length := by
  rw [alter, set_objects_self]
  exact List.length_filterMap_le ..

/-- Without a creation there are no more clusters than before. -/
theorem length_clusters_le
    (request : ApiRequest)
    (createsNone : request.effect ≠ .create .lvmCluster) :
    ((server.respond choice request).2.objects .lvmCluster).length ≤
      (server.objects .lvmCluster).length := by
  by_cases touched : request.effect.touchesKind .lvmCluster = true
  · rw [respond]
    cases choice.failure with
    | some text => exact Nat.le_refl _
    | none =>
        cases request with
        | get | list | listPVCs | listPVs | applyStorageClass => cases touched
        | create other new =>
            obtain rfl : .lvmCluster = other := by
              simpa [ApiRequest.effect, Effect.touchesKind] using touched
            exact absurd rfl createsNone
        | update other new =>
            obtain rfl : .lvmCluster = other := by
              simpa [ApiRequest.effect, Effect.touchesKind] using touched
            simp only [answer]
            repeat' split
            · exact Nat.le_refl _
            · exact length_alter_le ..
            · exact Nat.le_refl _
        | delete other name =>
            obtain rfl : .lvmCluster = other := by
              simpa [ApiRequest.effect, Effect.touchesKind] using touched
            simp only [answer]
            split
            · exact Nat.le_refl _
            · exact length_alter_le ..
        | updateStatus cluster =>
            simp only [answer]
            repeat' split
            · exact Nat.le_refl _
            · exact length_alter_le ..
            · exact Nat.le_refl _
  · rw [respond_objects choice server request .lvmCluster (by simpa using touched)]

end ApiServer

/-- Executions keep the names unique. -/
theorem Exec.unique
    {α : Type}
    {kind : Kind}
    {node : String}
    {program : Program sig α}
    {world after : World}
    {events : List (Event sig World)}
    {value : α}
    (ran : Exec (environment node) program world events value after)
    (unique : world.api.Unique kind) :
    after.api.Unique kind := by
  induction ran with
  | done value world => exact unique
  | @call request resume world last events value choice rest inductionHypothesis =>
      apply inductionHypothesis
      cases request with
      | api request => exact unique.respond request
      | otherManager =>
          simp only [environment, World.respond]
          split <;> exact unique
      | query | command | newResolver | loadResolved | storeResolved | cachedConfig
      | cacheConfig | mapOrder | now | event | raidMetrics | dropRAIDMetrics | turn =>
          exact unique

end Lvms
