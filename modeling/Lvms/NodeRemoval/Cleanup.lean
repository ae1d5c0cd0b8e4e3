import Lvms.NodeRemoval.Controller
import Lvms.Interaction.History
import Lvms.Outcomes

/-!
# Cleaning up after a removed node

The node removal controller is driven by the status of the node: once the status is gone,
its calls do nothing. It releases the status before it goes through the volume groups, so
the call that releases the status is the last one that can clean them up.
-/

namespace Lvms.NodeRemoval

open Interaction

variable {node : String}

/-! ## What a volume group carries of a node -/

/-- The volume group carries the cleanup finalizer or the wiped annotation of a node. -/
def Carries (node : String) (vg : LVMVolumeGroup) : Prop :=
  getFinalizer node ∈ vg.metadata.finalizers ∨
    vg.metadata.annotations.has (devicesWipedKey node) = true

instance (vg : LVMVolumeGroup) : Decidable (Carries node vg) :=
  inferInstanceAs (Decidable (_ ∨ _))

/-- No volume group carries anything of the node. -/
def Clean (node : String) (world : World) : Prop :=
  ∀ vg ∈ world.api.objects .volumeGroup, ¬Carries node vg

instance (world : World) : Decidable (Clean node world) :=
  inferInstanceAs (Decidable (∀ vg ∈ _, _))

/-- Two versions of a volume group with the same finalizers and annotations, except for
those of one node. -/
structure SameElsewhere (node : String) (old new : LVMVolumeGroup) : Prop where
  name : new.name = old.name
  deletion : new.metadata.deletionTimestamp = old.metadata.deletionTimestamp
  finalizers : new.metadata.finalizers.filter (· != getFinalizer node) =
    old.metadata.finalizers.filter (· != getFinalizer node)
  annotations : ∀ key ≠ devicesWipedKey node,
    new.metadata.annotations.get? key = old.metadata.annotations.get? key

/-- The finalizers and annotations of all other nodes are unchanged. A volume group can
only have gone when it was deleted and had no finalizer but that of the node. -/
structure OthersKept (node : String) (before after : World) : Prop where
  kept : ∀ old ∈ before.api.objects .volumeGroup,
    (∃ new ∈ after.api.objects .volumeGroup, SameElsewhere node old new) ∨
      old.metadata.deletionTimestamp.isSome ∧
        old.metadata.finalizers.filter (· != getFinalizer node) = []
  none_added : ∀ new ∈ after.api.objects .volumeGroup,
    ∃ old ∈ before.api.objects .volumeGroup, SameElsewhere node old new

theorem SameElsewhere.refl (vg : LVMVolumeGroup) : SameElsewhere node vg vg :=
  ⟨rfl, rfl, rfl, fun _ _ => rfl⟩

theorem SameElsewhere.trans
    {first second third : LVMVolumeGroup}
    (earlier : SameElsewhere node first second)
    (later : SameElsewhere node second third) :
    SameElsewhere node first third where
  name := later.name.trans earlier.name
  deletion := later.deletion.trans earlier.deletion
  finalizers := later.finalizers.trans earlier.finalizers
  annotations key other :=
    (later.annotations key other).trans (earlier.annotations key other)

theorem OthersKept.of_same
    {before after : World}
    (same : after.api.objects .volumeGroup = before.api.objects .volumeGroup) :
    OthersKept node before after where
  kept old member := .inl ⟨old, same ▸ member, .refl old⟩
  none_added new member := ⟨new, same ▸ member, .refl new⟩

/-- Steps that keep the others compose. -/
theorem OthersKept.trans
    {first second third : World}
    (earlier : OthersKept node first second)
    (later : OthersKept node second third) :
    OthersKept node first third where
  kept old member := by
    rcases earlier.kept old member with ⟨middle, isMiddle, same⟩ | gone
    · rcases later.kept middle isMiddle with ⟨new, isNew, sameAgain⟩ | ⟨deleted, bare⟩
      · exact .inl ⟨new, isNew, same.trans sameAgain⟩
      · exact .inr ⟨same.deletion ▸ deleted, same.finalizers ▸ bare⟩
    · exact .inr gone
  none_added new member := by
    obtain ⟨middle, isMiddle, sameAgain⟩ := later.none_added new member
    obtain ⟨old, isOld, same⟩ := earlier.none_added middle isMiddle
    exact ⟨old, isOld, same.trans sameAgain⟩

theorem Clean.of_same
    {before after : World}
    (same : after.api.objects .volumeGroup = before.api.objects .volumeGroup) :
    Clean node after ↔ Clean node before := by
  rw [Clean, Clean, same]

/-! ## Removing the traces of a node -/

/-- Whether the node has left an annotation decides how the metadata is changed. -/
theorem withoutNode_metadata (vg : LVMVolumeGroup) :
    (withoutNode node vg).1.metadata = { vg.metadata with
      finalizers := vg.metadata.finalizers.filter (· != getFinalizer node)
      annotations :=
        if vg.metadata.annotations.has (devicesWipedKey node) then
          vg.metadata.annotations.delete (devicesWipedKey node)
        else vg.metadata.annotations } := by
  by_cases annotated : vg.metadata.annotations.has (devicesWipedKey node) = true
  · simp [withoutNode, ObjectMeta.removeFinalizer, annotated]
  · simp [withoutNode, ObjectMeta.removeFinalizer, annotated]

/-- Nothing of the node is left. -/
theorem withoutNode_not_carries (vg : LVMVolumeGroup) :
    ¬Carries node (withoutNode node vg).1 := by
  rw [Carries, withoutNode_metadata]
  rintro (member | annotated)
  · simp at member
  · split at annotated
    · simp [GoMap.has, GoMap.get?_delete] at annotated
    · contradiction

/-- An update is needed exactly for the volume groups that carry something. -/
theorem withoutNode_needsUpdate_iff (vg : LVMVolumeGroup) :
    (withoutNode node vg).2 = true ↔ Carries node vg := by
  rw [Carries, ← ObjectMeta.removeFinalizer_iff]
  by_cases annotated : vg.metadata.annotations.has (devicesWipedKey node) = true
  · simp [withoutNode, ObjectMeta.removeFinalizer, annotated]
  · simp [withoutNode, ObjectMeta.removeFinalizer, annotated]

/-- Only what belongs to the node is removed. -/
theorem withoutNode_same (vg : LVMVolumeGroup) :
    SameElsewhere node vg (withoutNode node vg).1 where
  name := by rw [LVMVolumeGroup.name, withoutNode_metadata]
  deletion := by rw [withoutNode_metadata]
  finalizers := by simp [withoutNode_metadata]
  annotations key other := by
    rw [withoutNode_metadata]
    dsimp only
    split
    · rw [GoMap.get?_delete, if_neg other]
    · rfl

/-- What is stored of a cleaned volume group. -/
theorem stored_withoutNode
    {vg object : LVMVolumeGroup}
    (becomes : ApiServer.stored .volumeGroup vg (withoutNode node vg).1 = some object) :
    SameElsewhere node vg object ∧ ¬Carries node object := by
  have same : SameElsewhere node vg _ := withoutNode_same vg
  have bare : ¬Carries node _ := withoutNode_not_carries vg
  obtain rfl := ApiServer.eq_of_stored becomes
  exact ⟨⟨same.name, rfl, same.finalizers, same.annotations⟩, bare⟩

/-! ## The loop over the volume groups -/

/-- The call lists or updates volume groups. -/
def isVolumeGroupCall : Request → Bool
  | .api (.list .volumeGroup) | .api (.update .volumeGroup _) => true
  | _ => false

/-- A list or an update of volume groups that was answered by an error. -/
def volumeGroupFailed (event : Event sig World) : Bool :=
  isVolumeGroupCall event.request && (event.request.failure event.response).isSome

section

variable {host : String} {world after : World} {events : List (Event sig World)}
  {result : Except GoError Unit}

/-- How the body of the loop ends: there is nothing to clean up, the update fails, or the
volume group is stored without the traces of the node. -/
theorem cleanupVolumeGroup_cases
    {vg : LVMVolumeGroup}
    (ran : Exec (environment host) (cleanupVolumeGroup node vg).run world events result
      after) :
    (¬Carries node vg ∧ events = [] ∧ result = .ok () ∧ after = world) ∨
    (Carries node vg ∧ (∃ write, events = [write] ∧ volumeGroupFailed write = true) ∧
      (∃ error, result = .error error) ∧ after = world) ∨
    Carries node vg ∧ (∃ write, events = [write] ∧ volumeGroupFailed write = false) ∧
      result = .ok () ∧ after = { world with
        api := world.api.alter .volumeGroup vg.name fun old =>
          ApiServer.stored .volumeGroup old (withoutNode node vg).1 } := by
  simp only [cleanupVolumeGroup] at ran
  by_cases carries : Carries node vg
  · rw [if_pos ((withoutNode_needsUpdate_iff vg).mpr carries)] at ran
    obtain ⟨inner, rfl, updating⟩ := Exec.run_bind_pure_iff.mp ran
    obtain ⟨answer, rfl, updated⟩ := Exec.run_mapError_iff.mp updating
    obtain ⟨write, rfl, asked, answered, ⟨error, rfl, rfl⟩ | ⟨old, -, -, rfl, rfl⟩⟩ :=
      Client.update_cases updated
    · refine .inr (.inl ⟨carries, ⟨write, rfl, ?_⟩, ⟨_, rfl⟩, rfl⟩)
      rw [volumeGroupFailed, answered, asked]
      rfl
    · refine .inr (.inr ⟨carries, ⟨write, rfl, ?_⟩, rfl, ?_⟩)
      · rw [volumeGroupFailed, answered, asked]
        rfl
      · have named : Kind.nameOf .volumeGroup (withoutNode node vg).1 = vg.name :=
          (withoutNode_same vg).name
        rw [named]
  · rw [if_neg (mt (withoutNode_needsUpdate_iff vg).mp carries)] at ran
    obtain ⟨rfl, rfl, rfl⟩ := Exec.run_pure_iff.mp ran
    exact .inl ⟨carries, rfl, rfl, rfl⟩

/-- Storing a volume group of the store without the traces of a node keeps the others. -/
theorem OthersKept.alter
    {vg : LVMVolumeGroup}
    (unique : world.api.Unique .volumeGroup)
    (member : vg ∈ world.api.objects .volumeGroup) :
    OthersKept node world { world with
      api := world.api.alter .volumeGroup vg.name fun old =>
        ApiServer.stored .volumeGroup old (withoutNode node vg).1 } := by
  have only (other : LVMVolumeGroup)
      (isOther : other ∈ world.api.objects .volumeGroup)
      (named : other.name = vg.name) : other = vg := by
    have found := unique.find?_of_mem isOther
    rw [show Kind.nameOf .volumeGroup other = Kind.nameOf .volumeGroup vg from named,
      unique.find?_of_mem member] at found
    exact (Option.some.inj found).symm
  constructor
  · intro old isOld
    by_cases named : old.name = vg.name
    · obtain rfl := only old isOld named
      cases becomes : ApiServer.stored .volumeGroup old (withoutNode node old).1 with
      | some new =>
          exact .inl ⟨new, ApiServer.mem_alter_iff.mpr (.inr ⟨old, isOld, rfl, becomes⟩),
            (stored_withoutNode becomes).1⟩
      | none =>
          have gone : old.metadata.deletionTimestamp.isSome = true ∧
              (withoutNode node old).1.metadata.finalizers = [] := by
            simpa [ApiServer.stored, Kind.metadata] using becomes
          rw [withoutNode_metadata] at gone
          exact .inr gone
    · exact .inl ⟨old, ApiServer.mem_alter_iff.mpr (.inl ⟨isOld, named⟩), .refl old⟩
  · intro new isNew
    rcases ApiServer.mem_alter_iff.mp isNew with
      ⟨wasThere, -⟩ | ⟨old, isOld, named, becomes⟩
    · exact ⟨new, wasThere, .refl new⟩
    · obtain rfl := only old isOld named
      exact ⟨old, isOld, (stored_withoutNode becomes).1⟩

/-- How the loop ends: all its volume groups are cleaned up, or a call has failed and one
of them is as it was and still carries something. -/
theorem cleanup_loop
    {vgs : List LVMVolumeGroup}
    (distinct : (vgs.map LVMVolumeGroup.name).Nodup)
    (there : ∀ vg ∈ vgs, vg ∈ world.api.objects .volumeGroup)
    (unique : world.api.Unique .volumeGroup)
    (ran : Exec (environment host) (forM vgs (cleanupVolumeGroup node)).run world events
      result after) :
    OthersKept node world after ∧
      ((∀ event ∈ events, volumeGroupFailed event = false) ∧
          (∀ vg ∈ after.api.objects .volumeGroup, Carries node vg →
            vg ∈ world.api.objects .volumeGroup ∧ vg ∉ vgs) ∨
        (∃ event ∈ events, volumeGroupFailed event = true) ∧
          ∃ vg ∈ vgs, vg ∈ after.api.objects .volumeGroup ∧ Carries node vg) := by
  induction vgs generalizing world events with
  | nil =>
      obtain ⟨rfl, rfl, rfl⟩ := Exec.run_pure_iff.mp ran
      exact ⟨.of_same rfl, .inl ⟨by simp, fun vg member _ => ⟨member, by simp⟩⟩⟩
  | cons vg rest inductionHypothesis =>
      rw [List.map_cons, List.nodup_cons] at distinct
      obtain ⟨isThere, restThere⟩ := List.forall_mem_cons.mp there
      rw [List.forM_cons] at ran
      rcases Exec.run_bind_iff.mp ran with
        ⟨error, rfl, failing⟩ | ⟨value, first, between, second, head, tail, rfl⟩
      · -- The first update fails, so the volume group keeps what it carries.
        rcases cleanupVolumeGroup_cases failing with
          ⟨-, -, isOk, -⟩ | ⟨carries, ⟨write, rfl, failed⟩, -, rfl⟩ | ⟨-, -, isOk, -⟩
        · cases isOk
        · exact ⟨.of_same rfl, .inr ⟨⟨write, by simp, failed⟩, vg, by simp, isThere,
            carries⟩⟩
        · cases isOk
      · rcases cleanupVolumeGroup_cases head with
          ⟨bare, rfl, -, rfl⟩ | ⟨-, -, ⟨_, isError⟩, -⟩ | ⟨-, ⟨write, rfl, fine⟩, -, rfl⟩
        · obtain ⟨others, ending⟩ :=
            inductionHypothesis distinct.2 restThere unique tail
          refine ⟨others, ?_⟩
          rcases ending with ⟨allFine, left⟩ | ⟨failed, other, isOther, dirty⟩
          · refine .inl ⟨allFine, ?_⟩
            intro other member carries
            obtain ⟨wasThere, notRest⟩ := left other member carries
            refine ⟨wasThere, ?_⟩
            rw [List.mem_cons, not_or]
            exact ⟨fun same => bare (same ▸ carries), notRest⟩
          · exact .inr ⟨failed, other, List.mem_cons_of_mem _ isOther, dirty⟩
        · cases isError
        · have otherName (other : LVMVolumeGroup) (member : other ∈ rest) :
              other.name ≠ vg.name := fun named =>
            distinct.1 (List.mem_map.mpr ⟨other, member, named⟩)
          obtain ⟨others, ending⟩ := inductionHypothesis distinct.2
            (fun other member => ApiServer.mem_alter_iff.mpr
              (.inl ⟨restThere other member, otherName other member⟩))
            (unique.alter fun _ _ _ becomes =>
              (ApiServer.nameOf_of_stored becomes).trans (withoutNode_same vg).name) tail
          refine ⟨(OthersKept.alter unique isThere).trans others, ?_⟩
          rcases ending with
            ⟨allFine, left⟩ | ⟨⟨event, member, failed⟩, other, isOther, dirty⟩
          · refine .inl ⟨by simpa [fine] using allFine, ?_⟩
            intro other member carries
            obtain ⟨wasStored, notRest⟩ := left other member carries
            rcases ApiServer.mem_alter_iff.mp wasStored with
              ⟨wasThere, named⟩ | ⟨old, isOld, named, becomes⟩
            · refine ⟨wasThere, ?_⟩
              rw [List.mem_cons, not_or]
              exact ⟨fun same => named (same ▸ rfl), notRest⟩
            · -- What has been stored carries nothing.
              obtain rfl := ApiServer.eq_of_stored becomes
              exact absurd carries (withoutNode_not_carries vg)
          · exact .inr ⟨⟨event, by simp [member], failed⟩, other,
              List.mem_cons_of_mem _ isOther, dirty⟩

/-- A cleanup leaves the volume groups clean if none of its calls fails, or if there was
nothing to clean up. -/
theorem cleanup_clean_iff
    (unique : world.api.Unique .volumeGroup)
    (ran : Exec (environment host) (cleanupVolumeGroupsForNode node).run world events
      result after) :
    OthersKept node world after ∧
      (Clean node after ↔
        (∀ event ∈ events, volumeGroupFailed event = false) ∨ Clean node world) := by
  rcases Exec.run_bind_iff.mp ran with
    ⟨error, rfl, failing⟩ | ⟨vgs, first, between, second, head, tail, rfl⟩
  · obtain ⟨inner, isError, listing⟩ := Exec.run_mapError_iff.mp failing
    obtain ⟨rfl, look, rfl, asked, answered, -⟩ := Client.list_cases listing
    obtain ⟨cause, rfl⟩ : ∃ cause, inner = .error cause := by
      cases inner with
      | ok value => cases isError
      | error cause => exact ⟨cause, rfl⟩
    have failed : volumeGroupFailed look = true := by
      rw [volumeGroupFailed, answered, asked]
      rfl
    exact ⟨.of_same rfl, by simp [failed]⟩
  · obtain ⟨rfl, look, rfl, asked, answered, isList⟩ :=
      Client.list_cases (Exec.run_mapError_ok_iff.mp head)
    obtain rfl := isList vgs rfl
    have fine : volumeGroupFailed look = false := by
      rw [volumeGroupFailed, answered, asked]
      rfl
    obtain ⟨others, ending⟩ := cleanup_loop unique (fun _ member => member) unique tail
    refine ⟨others, ?_⟩
    rcases ending with
      ⟨allFine, left⟩ | ⟨⟨event, member, failed⟩, vg, wasThere, isThere, carries⟩
    · have cleaned : Clean node after := fun vg member carries =>
        (left vg member carries).2 (left vg member carries).1
      have noneFailed : ∀ event ∈ [look] ++ second, volumeGroupFailed event = false := by
        simpa [fine] using allFine
      exact ⟨fun _ => .inl noneFailed, fun _ => cleaned⟩
    · constructor
      · exact fun clean => absurd carries (clean vg isThere)
      · rintro (noneFailed | clean)
        · rw [noneFailed event (by simp [member])] at failed
          cases failed
        · exact absurd carries (clean vg wasThere)

/-! ## One call of the controller -/

theorem releaseNodeStatus_uses (nodeStatus : LVMVolumeGroupNodeStatus) :
    (releaseNodeStatus nodeStatus).run.Uses
      (Within [.delete .nodeStatus, .update .nodeStatus]) := by
  refine .run_bind (.run_mapError (within (Client.delete_uses ..) (by simp))) fun _ => ?_
  split
  · trivial
  · exact .run_bind (.run_mapError (within (Client.update_uses ..) (by simp)))
      fun _ => trivial

theorem cleanupVolumeGroupsForNode_uses (nodeName : String) :
    (cleanupVolumeGroupsForNode nodeName).run.Uses
      (Within [.read, .update .volumeGroup]) := by
  refine .run_bind (.run_mapError (within (Client.list_uses ..) (by simp)))
    fun vgs => .run_forM fun vg _ => ?_
  simp only [cleanupVolumeGroup]
  split
  · exact .run_bind (.run_mapError (within (Client.update_uses ..) (by simp)))
      fun _ => trivial
  · trivial

theorem removeNode_uses (nodeStatus : LVMVolumeGroupNodeStatus) :
    (removeNode nodeStatus).run.Uses (Within
      [.read, .delete .nodeStatus, .update .nodeStatus, .update .volumeGroup]) :=
  .run_bind (within (releaseNodeStatus_uses nodeStatus) (by simp)) fun _ =>
    .run_bind (.run_mapError (within (cleanupVolumeGroupsForNode_uses _) (by simp)))
      fun _ => trivial

theorem reconcile_uses (name : String) :
    (reconcile name).run.Uses (Within
      [.read, .delete .nodeStatus, .update .nodeStatus, .update .volumeGroup]) := by
  refine .run_bind (.run_attempt (within (Client.get_uses ..) (by simp))) fun answer => ?_
  cases answer with
  | error err =>
      dsimp only
      split <;> trivial
  | ok nodeStatus =>
      refine .run_bind (.run_attempt (within (Client.get_uses ..) (by simp)))
        fun answer => ?_
      cases answer with
      | ok found => trivial
      | error err =>
          dsimp only
          split
          · exact removeNode_uses nodeStatus
          · trivial

/-- A call about node statuses is none about volume groups. -/
theorem volumeGroupFailed_of_effect
    {event : Event sig World}
    (effect : event.request.effect ∈ [.delete .nodeStatus, .update .nodeStatus]) :
    volumeGroupFailed event = false := by
  obtain ⟨before, request, response⟩ := event
  unfold volumeGroupFailed isVolumeGroupCall
  dsimp only at effect ⊢
  split
  · simp [Request.effect, ApiRequest.effect] at effect
  · simp [Request.effect, ApiRequest.effect] at effect
  · rfl

/-- When the release of a status fails, the status is still there. -/
theorem releaseNodeStatus_error
    {nodeStatus : LVMVolumeGroupNodeStatus}
    {error : GoError}
    (found : world.api.find? .nodeStatus node = some nodeStatus)
    (ran : Exec (environment host) (releaseNodeStatus nodeStatus).run world events
      (.error error) after) :
    (after.api.find? .nodeStatus node).isSome = true := by
  have named : nodeStatus.metadata.name = node := ApiServer.nameOf_of_find? found
  rcases Exec.run_bind_iff.mp ran with
    ⟨_, -, failing⟩ | ⟨_, first, between, second, head, tail, rfl⟩
  · obtain ⟨inner, isError, deleting⟩ := Exec.run_mapError_iff.mp failing
    obtain ⟨_, -, -, -, ⟨_, -, rfl⟩ | ⟨_, _, -, rfl, -⟩⟩ := Client.delete_cases deleting
    · rw [found]
      rfl
    · cases isError
  · obtain ⟨_, -, -, -, ⟨_, isError, -⟩ | ⟨_, time, -, -, rfl⟩⟩ :=
      Client.delete_cases (Exec.run_mapError_ok_iff.mp head)
    · cases isError
    split at tail
    · obtain ⟨-, isOk, -⟩ := Exec.run_pure_iff.mp tail
      cases isOk
    · rename_i released isReleased
      -- The status has a finalizer, so the deletion has only marked it.
      have hasFinalizer : (Kind.metadata .nodeStatus nodeStatus).finalizers ≠ [] := by
        intro bare
        have none : nodeStatus.metadata.finalizers = [] := bare
        simp [removeDeleteProtectionFinalizer, none] at isReleased
      obtain ⟨inner, isError, updating⟩ := Exec.run_bind_pure_iff.mp tail
      obtain ⟨answer, rfl, updated⟩ := Exec.run_mapError_iff.mp updating
      obtain ⟨_, -, -, -, ⟨_, rfl, rfl⟩ | ⟨_, -, -, rfl, -⟩⟩ := Client.update_cases updated
      · obtain ⟨marked, becomes⟩ :=
          ApiServer.exists_deleted_of_finalizers time hasFinalizer
        rw [named, ApiServer.find?_alter_of_some found becomes
          ((ApiServer.nameOf_of_deleted becomes).trans named)]
        rfl
      · cases isError

end

/-- The status of the node exists. -/
def HasStatus (node : String) (world : World) : Prop :=
  (world.api.find? .nodeStatus node).isSome = true

instance (world : World) : Decidable (HasStatus node world) :=
  inferInstanceAs (Decidable (_ = _))

/-- A call of the controller, with its calls of the API and the worlds around it. -/
structure Attempt where
  before : World
  calls : List (Event sig World)
  result : Except GoError Result
  after : World

/-- The call does not release the status, or no list and no update of volume groups
fails in it, or there is nothing to clean up. -/
def Attempt.Careful (node : String) (attempt : Attempt) : Prop :=
  HasStatus node attempt.before → ¬HasStatus node attempt.after →
    (∀ event ∈ attempt.calls, volumeGroupFailed event = false) ∨
      Clean node attempt.before

instance (attempt : Attempt) : Decidable (attempt.Careful node) :=
  inferInstanceAs (Decidable (_ → _))

/-- A sequence of calls of `Reconcile` for the status of a node. -/
def Attempts (host node : String) : World → List Attempt → World → Prop :=
  History fun before attempts after => ∃ calls result,
    attempts = [⟨before, calls, result, after⟩] ∧
    Exec (environment host) (reconcile node).run before calls result after

section

variable {host : String} {world after : World} {events : List (Event sig World)}
  {result : Except GoError Result}

/-- How a call for a node that does not exist ends: without the status it does nothing;
otherwise it stops while the status is still there, or it goes on to the volume groups. -/
theorem reconcile_cases
    (gone : world.api.find? .node node = none)
    (ran : Exec (environment host) (reconcile node).run world events result after) :
    (¬HasStatus node world ∧ after = world) ∨
    (HasStatus node world ∧ HasStatus node after ∧
      after.api.objects .volumeGroup = world.api.objects .volumeGroup) ∨
    HasStatus node world ∧ ∃ first between second ending,
      events = first ++ second ∧
      (∀ event ∈ first, volumeGroupFailed event = false) ∧
      between.api.objects .volumeGroup = world.api.objects .volumeGroup ∧
      Exec (environment host) (cleanupVolumeGroupsForNode node).run between second ending
        after := by
  have stopped (same : after = world) : (¬HasStatus node world ∧ after = world) ∨
      HasStatus node world ∧ HasStatus node after ∧
        after.api.objects .volumeGroup = world.api.objects .volumeGroup := by
    rw [same]
    by_cases present : HasStatus node world
    · exact .inr ⟨present, present, rfl⟩
    · exact .inl ⟨present, rfl⟩
  obtain ⟨answer, first, between, second, head, tail, rfl⟩ := Exec.run_attempt_bind_iff.mp ran
  obtain ⟨rfl, look, rfl, askedStatus, -, statusAnswer⟩ :=
    Client.get_cases head
  rcases statusAnswer with ⟨error, rfl, other⟩ | ⟨rfl, missing⟩ | ⟨nodeStatus, rfl, found⟩
  · simp only [other, Bool.false_eq_true, if_false] at tail
    obtain ⟨-, -, same⟩ := Exec.run_throw_iff.mp tail
    exact (stopped same).imp_right .inl
  · obtain ⟨-, -, same⟩ := Exec.run_pure_iff.mp tail
    exact (stopped same).imp_right .inl
  have present : HasStatus node between := by
    rw [HasStatus, found]
    rfl
  have named : nodeStatus.metadata.name = node := ApiServer.nameOf_of_find? found
  obtain ⟨answer, _, middle, third, asking, rest, rfl⟩ := Exec.run_attempt_bind_iff.mp tail
  obtain ⟨rfl, lookNode, rfl, askedNode, -, nodeAnswer⟩ :=
    Client.get_cases asking
  rcases nodeAnswer with ⟨error, rfl, other⟩ | ⟨rfl, -⟩ | ⟨existing, rfl, exists'⟩
  · simp only [other, Bool.false_eq_true, if_false] at rest
    obtain ⟨-, -, rfl⟩ := Exec.run_throw_iff.mp rest
    exact .inr (.inl ⟨present, present, rfl⟩)
  · rcases Exec.run_bind_iff.mp rest with
      ⟨error, rfl, releasing⟩ | ⟨_, releasing, released, cleaning, releaseRan, cleanRan, rfl⟩
    · have frame := Exec.frame releasing (releaseNodeStatus_uses nodeStatus)
      exact .inr (.inl ⟨present, releaseNodeStatus_error found releasing,
        frame.objects .volumeGroup (by simp [Effect.touchesKind])⟩)
    · have frame := Exec.frame releaseRan (releaseNodeStatus_uses nodeStatus)
      have allowed := (releaseNodeStatus_uses nodeStatus).events_allowed releaseRan
      obtain ⟨inner, -, mapped⟩ := Exec.run_bind_pure_iff.mp cleanRan
      obtain ⟨ending, -, cleaned⟩ := Exec.run_mapError_iff.mp mapped
      refine .inr (.inr ⟨present, [look, lookNode] ++ releasing, released, cleaning, ending,
        by simp, ?_, frame.objects .volumeGroup (by simp [Effect.touchesKind]),
        named ▸ cleaned⟩)
      intro event member
      rcases List.mem_append.mp member with looked | wrote
      · have read : isVolumeGroupCall event.request = false := by
          rcases List.mem_cons.mp looked with rfl | last
          · rw [askedStatus]
            rfl
          · rw [List.mem_singleton.mp last, askedNode]
            rfl
        rw [volumeGroupFailed, read, Bool.false_and]
      · exact volumeGroupFailed_of_effect (allowed event wrote)
  · rw [named, gone] at exists'
    cases exists'

/-- What a call leaves of the others, and when the call that releases the status cleans up. -/
theorem reconcile_attempt
    (gone : world.api.find? .node node = none)
    (unique : world.api.Unique .volumeGroup)
    (ran : Exec (environment host) (reconcile node).run world events result after) :
    OthersKept node world after ∧ (¬HasStatus node world → after = world) ∧
      (HasStatus node world → ¬HasStatus node after →
        (Clean node after ↔ (∀ event ∈ events, volumeGroupFailed event = false) ∨
          Clean node world)) := by
  rcases reconcile_cases gone ran with
    ⟨absent, rfl⟩ | ⟨present, still, same⟩ |
      ⟨present, first, between, second, ending, rfl, fine, same, cleaning⟩
  · exact ⟨.of_same rfl, fun _ => rfl, fun present => absurd present absent⟩
  · exact ⟨.of_same same, fun absent => absurd present absent,
      fun _ released => absurd still released⟩
  · have stillUnique : between.api.Unique .volumeGroup := by
      rw [ApiServer.Unique, same]
      exact unique
    obtain ⟨others, cleaned⟩ := cleanup_clean_iff stillUnique cleaning
    refine ⟨(OthersKept.of_same same).trans others, fun absent => absurd present absent, ?_⟩
    intro _ _
    rw [cleaned, Clean.of_same same, List.forall_mem_append, and_iff_right fine]

end

/-! ## Every sequence of calls -/

/-- What holds after any number of calls: while the status is there, every call was
careful; from then on the volume groups are clean if every call was careful. -/
structure Progress
    (node : String)
    (initial : World)
    (attempts : List Attempt)
    (world : World) : Prop where
  gone : world.api.find? .node node = none
  unique : world.api.Unique .volumeGroup
  others : OthersKept node initial world
  careful : HasStatus node world → ∀ attempt ∈ attempts, attempt.Careful node
  clean_iff : ¬HasStatus node world →
    (Clean node world ↔ ∀ attempt ∈ attempts, attempt.Careful node)

/-- Another attempt goes on from the last. -/
theorem Progress.next
    {host : String}
    {initial before after : World}
    {attempts : List Attempt}
    {calls : List (Event sig World)}
    {result : Except GoError Result}
    (progress : Progress node initial attempts before)
    (ran : Exec (environment host) (reconcile node).run before calls result after) :
    Progress node initial (attempts ++ [⟨before, calls, result, after⟩]) after := by
  obtain ⟨others, idle, cleans⟩ := reconcile_attempt progress.gone progress.unique ran
  refine ⟨?_, Exec.unique ran progress.unique, progress.others.trans others, ?_, ?_⟩
  · rw [(Exec.frame ran (reconcile_uses node)).find? .node node
      (by simp [Effect.touchesKind])]
    exact progress.gone
  · intro present attempt member
    rcases List.mem_append.mp member with earlier | last
    · by_cases before : HasStatus node before
      · exact progress.careful before attempt earlier
      · rw [idle before] at present
        exact absurd present before
    · obtain rfl := List.mem_singleton.mp last
      exact fun _ released => absurd present released
  · intro released
    rw [List.forall_mem_append, List.forall_mem_singleton]
    by_cases present : HasStatus node before
    · rw [cleans present released, and_iff_right (progress.careful present)]
      exact ⟨fun clean _ _ => clean, fun careful => careful present released⟩
    · -- Without the status the call does nothing, and counts as careful.
      rw [idle present, progress.clean_iff present]
      exact ⟨fun careful => ⟨careful, fun present' => absurd present' present⟩, And.left⟩

/-- For a node that no longer exists, and whose status has been there: when the status has
gone, no volume group carries the finalizer or the annotation of the node, and those of
the other nodes are unchanged, if and only if every call was careful. -/
theorem cleanup_complete_iff
    {host : String}
    {initial final : World}
    {attempts : List Attempt}
    (run : Attempts host node initial attempts final)
    (nodeGone : initial.api.find? .node node = none)
    (unique : initial.api.Unique .volumeGroup)
    (present : HasStatus node initial)
    (released : ¬HasStatus node final) :
    (Clean node final ∧ OthersKept node initial final) ↔
      ∀ attempt ∈ attempts, attempt.Careful node := by
  have progress : Progress node initial attempts final := by
    refine run.induct (Progress node initial)
      ⟨nodeGone, unique, .of_same rfl, by simp, fun absent => absurd present absent⟩ ?_
    rintro earlier before _ after progress ⟨calls, result, rfl, ran⟩
    exact progress.next ran
  rw [and_iff_left progress.others]
  exact progress.clean_iff released

/-! ### A node with one volume group -/

/-- The call that answers with given choices. -/
def attemptWith
    (host node : String)
    (pick : World → Request → Choice)
    (world : World) : Attempt :=
  let ran := (reconcile node).run.run (environment host) pick world
  ⟨world, ran.1, ran.2.1, ran.2.2⟩

/-- The node is gone, and has left its status and the finalizer of a volume group. -/
def removedNodeWorld : World where
  api := ⟨fun
    | .nodeStatus => [{
        metadata := {
          name := "n1", resourceVersion := 1, finalizers := [deleteProtectionFinalizer] } }]
    | .volumeGroup => [{
        metadata := {
          name := "vg1", resourceVersion := 1, finalizers := [getFinalizer "n1"] }
        spec := {} }]
    | _ => []⟩
  host := fun _ => {}
  memory := fun _ => {}

/-- Every call of the API succeeds. -/
def reliable (_ : World) (_ : Request) : Choice := {}

/-- The volume groups cannot be listed. -/
def unlisted (_ : World) (request : Request) : Choice :=
  if isVolumeGroupCall request then { failure := some "timeout" } else {}

/-- The first call marks the status for deletion, and its update conflicts with that. -/
def conflicting : Attempt := attemptWith "n1" "n1" reliable removedNodeWorld

theorem Attempts.attemptWith
    {host : String}
    {initial before : World}
    {attempts : List Attempt}
    (pick : World → Request → Choice)
    (prior : Attempts host node initial attempts before) :
    Attempts host node initial
      (attempts ++ [NodeRemoval.attemptWith host node pick before])
      (NodeRemoval.attemptWith host node pick before).after :=
  History.next prior ⟨_, _, rfl, Program.run_exec ..⟩

/-- The second call releases the status and cleans up the volume group. -/
theorem cleanup_complete_iff_retried :
    Clean "n1" (attemptWith "n1" "n1" reliable conflicting.after).after ∧
      OthersKept "n1" removedNodeWorld
        (attemptWith "n1" "n1" reliable conflicting.after).after :=
  (cleanup_complete_iff
    (.attemptWith reliable (.attemptWith reliable (History.start removedNodeWorld)))
    (by decide +kernel) (by decide +kernel) (by decide +kernel) (by decide +kernel)).mpr
    (by decide +kernel)

/-- The volume groups cannot be listed in the call that releases the status; the retry
finds no status, succeeds, and leaves the finalizer on the volume group. -/
theorem cleanup_abandoned :
    ¬∀ (host node : String) (initial final : World) (attempts : List Attempt),
      Attempts host node initial attempts final →
      initial.api.find? .node node = none → initial.api.Unique .volumeGroup →
      HasStatus node initial → ¬HasStatus node final →
      (∃ last ∈ attempts.getLast?, last.result.isOk = true) →
      Clean node final ∧ OthersKept node initial final := by
  intro complete
  have idle : Attempts "n1" "n1" removedNodeWorld [] removedNodeWorld := History.start _
  have run := Attempts.attemptWith reliable
    (Attempts.attemptWith unlisted (idle.attemptWith reliable))
  obtain ⟨clean, -⟩ := complete _ _ _ _ _ run (by decide +kernel) (by decide +kernel)
    (by decide +kernel) (by decide +kernel) (by decide +kernel)
  revert clean
  decide +kernel

end Lvms.NodeRemoval
