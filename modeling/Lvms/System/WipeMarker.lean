import Lvms.Operator.Migration
import Lvms.System
import Lvms.VgManager.Marking

/-!
# Volume groups that are marked as wiped

The mark that a node has wiped the devices of a volume group is set by two programs: by
the vg-manager of the node after it has wiped a device, and by the operator when it
starts, for every node whose status has an entry for the volume group. Such an entry is
also written when the volume group could not be set up, so that the second mark can be
wrong.
-/

namespace Lvms

open Interaction Interaction.Program

/-! ## What the operator marks when it starts -/

namespace WipeRefactor

/-- The status of a node has an entry for a volume group that is to be wiped by force. -/
def Lists (nodeStatus : LVMVolumeGroupNodeStatus) (vg : LVMVolumeGroup) : Prop :=
  wipingEnabled vg = true ∧ ∃ entry ∈ nodeStatus.lvmVGStatus, entry.name = vg.name

/-- The nodes whose mark a start adds to a volume group. -/
abbrev listing (nodeStatuses : List LVMVolumeGroupNodeStatus) (vg : LVMVolumeGroup)
    (node : String) : Prop :=
  ∃ nodeStatus ∈ nodeStatuses, nodeStatus.metadata.name = node ∧ Lists nodeStatus vg

/-- The volume group with the marks of some nodes, and whether it has been changed. -/
structure Annotates
    (nodes : String → Prop)
    (vg : LVMVolumeGroup)
    (updated : Bool)
    (result : LVMVolumeGroup × Bool) : Prop where
  rest : ∃ annotations,
    result.1 = { vg with metadata := { vg.metadata with annotations } }
  marks : ∀ node, IsMarked node result.1 ↔ IsMarked node vg ∨ nodes node
  updated : result.2 = true ↔ updated = true ∨ ∃ node, nodes node

namespace Annotates

variable {nodes more : String → Prop} {vg : LVMVolumeGroup} {updated : Bool}
variable {middle result : LVMVolumeGroup × Bool}

theorem unchanged
    (none : ∀ node, ¬nodes node) :
    Annotates nodes vg updated (vg, updated) :=
  ⟨⟨vg.metadata.annotations, rfl⟩, by simp [none], by simp [none]⟩

/-- Annotations add up. -/
theorem trans
    (first : Annotates nodes vg updated middle)
    (second : Annotates more middle.1 middle.2 result) :
    Annotates (fun node => nodes node ∨ more node) vg updated result := by
  refine ⟨?_, fun node => ?_, ?_⟩
  · obtain ⟨_, isMiddle⟩ := first.rest
    obtain ⟨annotations, isResult⟩ := second.rest
    exact ⟨annotations, by rw [isResult, isMiddle]⟩
  · rw [second.marks, first.marks, or_assoc]
  · rw [second.updated, first.updated, or_assoc, exists_or]

theorem congr
    (annotates : Annotates nodes vg updated result)
    (same : ∀ node, nodes node ↔ more node) :
    Annotates more vg updated result := by
  rwa [← funext fun node => propext (same node)]

end Annotates

theorem annotates_annotatedAsWiped
    (nodeName time : String)
    (vg : LVMVolumeGroup)
    (updated : Bool) :
    Annotates (· = nodeName) vg updated (annotatedAsWiped nodeName time vg, true) :=
  ⟨⟨_, rfl⟩, fun _ => isMarked_annotatedAsWiped, by simp⟩

theorem annotateForEntries_yields
    (nodeName : String)
    (entries : List VGStatus)
    (vg : LVMVolumeGroup)
    (updated : Bool) :
    (annotateForEntries nodeName entries vg updated).Yields
      (Annotates (fun node => node = nodeName ∧ wipingEnabled vg = true ∧
        ∃ entry ∈ entries, entry.name = vg.name) vg updated) := by
  induction entries generalizing vg updated with
  | nil => exact .unchanged (by simp)
  | cons entry rest inductionHypothesis =>
      rw [annotateForEntries]
      split
      · rename_i listed
        refine .bind fun time => (inductionHypothesis _ true).mono fun result later => ?_
        refine ((annotates_annotatedAsWiped nodeName time vg updated).trans later).congr ?_
        intro node
        constructor
        · rintro (rfl | ⟨rfl, -⟩) <;>
            exact ⟨rfl, listed.2, entry, List.mem_cons_self, listed.1⟩
        · exact fun isNode => .inl isNode.1
      · rename_i unlisted
        refine (inductionHypothesis vg updated).mono fun result later => later.congr ?_
        refine fun node => and_congr_right fun _ => and_congr_right fun enabled => ?_
        have different : entry.name ≠ vg.name := fun named => unlisted ⟨named, enabled⟩
        simp [different]

/-- All nodes that list the volume group are annotated. -/
theorem annotateForNodes_yields
    (nodeStatuses : List LVMVolumeGroupNodeStatus)
    (vg : LVMVolumeGroup)
    (updated : Bool) :
    (annotateForNodes nodeStatuses vg updated).Yields
      (Annotates (listing nodeStatuses vg) vg updated) := by
  induction nodeStatuses generalizing vg updated with
  | nil => exact .unchanged (by simp)
  | cons nodeStatus rest inductionHypothesis =>
      refine .bind_of_yields (annotateForEntries_yields ..) fun middle first => ?_
      refine (inductionHypothesis _ _).mono fun result later => (first.trans later).congr ?_
      obtain ⟨_, isMiddle⟩ := first.rest
      have same (other : LVMVolumeGroupNodeStatus) :
          Lists other middle.1 ↔ Lists other vg := by
        rw [isMiddle]
        rfl
      intro node
      simp only [listing, same, List.exists_mem_cons_iff]
      exact or_congr_left (and_congr_left fun _ => eq_comm)

theorem annotateForEntries_uses
    (nodeName : String)
    (entries : List VGStatus)
    (vg : LVMVolumeGroup)
    (updated : Bool) :
    (annotateForEntries nodeName entries vg updated).Uses (Within [.read]) := by
  induction entries generalizing vg updated with
  | nil => trivial
  | cons entry rest inductionHypothesis =>
      rw [annotateForEntries]
      split
      · exact .bind (call_uses _ (.head _)) fun _ => inductionHypothesis ..
      · exact inductionHypothesis ..

theorem annotateForNodes_uses
    (nodeStatuses : List LVMVolumeGroupNodeStatus)
    (vg : LVMVolumeGroup)
    (updated : Bool) :
    (annotateForNodes nodeStatuses vg updated).Uses (Within [.read]) := by
  induction nodeStatuses generalizing vg updated with
  | nil => trivial
  | cons nodeStatus rest inductionHypothesis =>
      exact .bind (annotateForEntries_uses ..) fun _ => inductionHypothesis ..

theorem annotateVolumeGroup_uses
    (nodeStatuses : List LVMVolumeGroupNodeStatus)
    (vg : LVMVolumeGroup) :
    (annotateVolumeGroup nodeStatuses vg).run.Uses
      (Within [.read, .update .volumeGroup]) := by
  refine .run_bind (.run_lift (within (annotateForNodes_uses ..) (by simp)))
    fun result => ?_
  dsimp only
  split
  · exact .run_bind (.run_mapError (within (Client.update_uses ..) (by simp)))
      fun _ => trivial
  · trivial

/-- If the volume group is good with the marks of the nodes that list it, it is only
updated with good versions. -/
theorem annotateVolumeGroup_updating
    {good : LVMVolumeGroup → Prop}
    {nodeStatuses : List LVMVolumeGroupNodeStatus}
    {vg : LVMVolumeGroup}
    (isGood : ∀ result, Annotates (listing nodeStatuses vg) vg false result →
      good result.1) :
    (annotateVolumeGroup nodeStatuses vg).run.Uses (Updating good) := by
  refine .run_bind_of_yields
    (.run_lift (updating_of_within (annotateForNodes_uses ..) (by decide)))
    (.run_lift (annotateForNodes_yields ..)) fun result annotates => ?_
  dsimp only
  split
  · exact .run_bind (.run_mapError (Client.update_updating (isGood result annotates)))
      fun _ => trivial
  · trivial

section Start

variable {node : String} {world after : World} {events : List (Event sig World)}
variable {result : Except GoError Unit}

theorem start_uses :
    annotateExistingLVMVolumeGroupsIfWipingEnabled.run.Uses
      (Within [.read, .update .volumeGroup]) := by
  refine .run_bind (.run_mapError (within (Client.list_uses _) (by simp)))
    fun nodeStatuses => ?_
  split
  · trivial
  refine .run_bind (.run_mapError (within (Client.list_uses _) (by simp)))
    fun volumeGroups => ?_
  split
  · trivial
  · exact .run_forM fun _ _ => annotateVolumeGroup_uses ..

/-- A start goes through the volume groups, unless it fails before or there is nothing
to do. -/
theorem start_cases
    (ran : Exec (environment node) annotateExistingLVMVolumeGroupsIfWipingEnabled.run world
      events result after) :
    (after = world ∧ (result = .ok () →
      world.api.objects .nodeStatus = [] ∨ world.api.objects .volumeGroup = [])) ∨
    ∃ rest, Exec (environment node) (forM (world.api.objects .volumeGroup)
      (annotateVolumeGroup (world.api.objects .nodeStatus))).run world rest result
      after := by
  rcases Exec.run_bind_iff.mp ran with
    ⟨_, rfl, failed⟩ | ⟨nodeStatuses, _, middle, _, head, ran, rfl⟩
  · exact .inl ⟨(Exec.of_reading failed
      (.run_mapError (within (Client.list_uses _) (by simp)))).1, by simp⟩
  obtain ⟨rfl, rfl⟩ := Client.list_ok (Exec.run_mapError_ok_iff.mp head)
  split at ran
  · rename_i empty
    obtain ⟨-, -, rfl⟩ := Exec.run_pure_iff.mp ran
    exact .inl ⟨rfl, fun _ => .inl (List.isEmpty_iff.mp empty)⟩
  rcases Exec.run_bind_iff.mp ran with
    ⟨_, rfl, failed⟩ | ⟨volumeGroups, _, last, _, listed, ran, rfl⟩
  · exact .inl ⟨(Exec.of_reading failed
      (.run_mapError (within (Client.list_uses _) (by simp)))).1, by simp⟩
  obtain ⟨rfl, rfl⟩ := Client.list_ok (Exec.run_mapError_ok_iff.mp listed)
  split at ran
  · rename_i empty
    obtain ⟨-, -, rfl⟩ := Exec.run_pure_iff.mp ran
    exact .inl ⟨rfl, fun _ => .inr (List.isEmpty_iff.mp empty)⟩
  · exact .inr ⟨_, ran⟩

/-- The volume group has the marks of one that was there, and of nodes that list it. -/
def MarkedFrom (world : World) (new : LVMVolumeGroup) : Prop :=
  ∃ old ∈ world.api.objects .volumeGroup, old.name = new.name ∧
    ∀ marking, IsMarked marking new →
      IsMarked marking old ∨ listing (world.api.objects .nodeStatus) old marking

/-- At the start, marks come from node statuses. -/
theorem start_marks
    (ran : Exec (environment node) annotateExistingLVMVolumeGroupsIfWipingEnabled.run world
      events result after) :
    ∀ new ∈ after.api.objects .volumeGroup, MarkedFrom world new := by
  have itself (new : LVMVolumeGroup) (member : new ∈ world.api.objects .volumeGroup) :
      MarkedFrom world new :=
    ⟨new, member, rfl, fun _ => .inl⟩
  rcases start_cases ran with ⟨rfl, -⟩ | ⟨rest, looped⟩
  · exact itself
  have updating : (forM (world.api.objects .volumeGroup)
      (annotateVolumeGroup (world.api.objects .nodeStatus))).run.Uses
      (OnlyUpdating (MarkedFrom world)) := by
    refine .run_forM fun vg member => ((annotateVolumeGroup_uses ..).mono ?_).both
      (annotateVolumeGroup_updating fun result annotates => ?_)
    · intro request allowed touches
      have only : ∀ effect ∈ [Effect.read, .update .volumeGroup],
          effect.touchesKind .volumeGroup = true → effect = .update .volumeGroup := by
        decide
      exact only _ allowed touches
    · obtain ⟨_, isResult⟩ := annotates.rest
      exact ⟨vg, member, by rw [isResult], fun marking => (annotates.marks marking).mp⟩
  have stable (old object new : LVMVolumeGroup)
      (becomes : ApiServer.stored .volumeGroup old object = some new) :
      MarkedFrom world object → MarkedFrom world new := by
    rintro ⟨vg, member, named, marks⟩
    exact ⟨vg, member, named.trans (ApiServer.nameOf_of_stored becomes :).symm,
      fun marking marked => marks marking ((isMarked_of_stored becomes).mp marked)⟩
  exact fun new member =>
    (Exec.mem_of_updating updating stable looped new member).elim (itself new) id

/-- How the body of the loop succeeds: the volume group is on no list, or it is stored
with the marks of the nodes that list it. -/
theorem annotateVolumeGroup_ok
    {nodeStatuses : List LVMVolumeGroupNodeStatus}
    {vg : LVMVolumeGroup}
    (ran : Exec (environment node) (annotateVolumeGroup nodeStatuses vg).run world events
      (.ok ()) after) :
    ((∀ marking, ¬listing nodeStatuses vg marking) ∧ after = world) ∨
    ∃ annotations,
      (∀ marking, listing nodeStatuses vg marking →
        IsMarked marking { vg with metadata := { vg.metadata with annotations } }) ∧
      after = { world with
        api := world.api.alter .volumeGroup vg.name fun old =>
          ApiServer.stored .volumeGroup old
            { vg with metadata := { vg.metadata with annotations } } } := by
  obtain ⟨⟨changed, updated⟩, _, middle, _, head, tail, rfl⟩ := Exec.run_bind_ok_iff.mp ran
  obtain ⟨_, isOk, head⟩ := Exec.run_lift_iff.mp head
  obtain rfl := Except.ok.inj isOk
  obtain ⟨rfl, -⟩ := Exec.of_reading head (within (annotateForNodes_uses ..) (by simp))
  have annotates := (annotateForNodes_yields nodeStatuses vg false).sound head
  obtain ⟨annotations, rfl⟩ := annotates.rest
  dsimp only at tail annotates
  split at tail
  · obtain ⟨_, _, _, _, updating, ending, rfl⟩ := Exec.run_bind_ok_iff.mp tail
    obtain ⟨-, -, rfl⟩ := Exec.run_pure_iff.mp ending
    obtain ⟨_, -, -, -, ⟨_, isError, -⟩ | ⟨_, -, -, -, rfl⟩⟩ :=
      Client.update_cases (Exec.run_mapError_ok_iff.mp updating)
    · cases isError
    · exact .inr ⟨annotations, fun marking listed =>
        (annotates.marks marking).mpr (.inr listed), rfl⟩
  · rename_i unchanged
    obtain ⟨-, -, rfl⟩ := Exec.run_pure_iff.mp tail
    exact .inl ⟨fun marking listed =>
      unchanged (annotates.updated.mpr (.inr ⟨marking, listed⟩)), rfl⟩

/-- After a start without an error, every volume group has the marks of the nodes that
list it. A volume group that is deleted has a finalizer, or it would be gone. -/
theorem annotate_loop
    {nodeStatuses : List LVMVolumeGroupNodeStatus}
    {vgs : List LVMVolumeGroup}
    (distinct : (vgs.map LVMVolumeGroup.name).Nodup)
    (there : ∀ vg ∈ vgs, vg ∈ world.api.objects .volumeGroup)
    (held : ∀ vg ∈ vgs, vg.metadata.deletionTimestamp.isSome = true →
      vg.metadata.finalizers ≠ [])
    (ran : Exec (environment node) (forM vgs (annotateVolumeGroup nodeStatuses)).run world
      events (.ok ()) after) :
    (∀ vg ∈ vgs, ∀ marking, listing nodeStatuses vg marking →
      ∃ new ∈ after.api.objects .volumeGroup, new.name = vg.name ∧ IsMarked marking new) ∧
    ∀ other ∈ world.api.objects .volumeGroup, other.name ∉ vgs.map LVMVolumeGroup.name →
      other ∈ after.api.objects .volumeGroup := by
  induction vgs generalizing world events with
  | nil =>
      obtain ⟨-, -, rfl⟩ := Exec.run_pure_iff.mp ran
      exact ⟨by simp, fun other member _ => member⟩
  | cons vg rest inductionHypothesis =>
      rw [List.map_cons, List.nodup_cons] at distinct
      rw [List.forall_mem_cons] at there held
      rw [List.forM_cons] at ran
      obtain ⟨_, _, middle, _, head, tail, rfl⟩ := Exec.run_bind_ok_iff.mp ran
      rcases annotateVolumeGroup_ok head with ⟨unlisted, rfl⟩ | ⟨annotations, marks, rfl⟩
      · obtain ⟨marked, others⟩ := inductionHypothesis distinct.2 there.2 held.2 tail
        refine ⟨List.forall_mem_cons.mpr ⟨fun marking listed => ?_, marked⟩, ?_⟩
        · exact absurd listed (unlisted marking)
        · exact fun other member absent =>
            others other member fun isRest => absent (List.mem_cons_of_mem _ isRest)
      · have otherName (other : LVMVolumeGroup) (member : other ∈ rest) :
            other.name ≠ vg.name :=
          fun named => distinct.1 (List.mem_map.mpr ⟨other, member, named⟩)
        obtain ⟨marked, others⟩ := inductionHypothesis distinct.2
          (fun other member => ApiServer.mem_alter_iff.mpr
            (.inl ⟨there.2 other member, otherName other member⟩)) held.2 tail
        obtain ⟨new, becomes⟩ : ∃ new, ApiServer.stored .volumeGroup vg
            { vg with metadata := { vg.metadata with annotations } } = some new := by
          cases isDeleted : vg.metadata.deletionTimestamp.isSome with
          | true => exact ApiServer.exists_stored_of_finalizers _ (held.1 isDeleted)
          | false => simp [ApiServer.stored, Kind.metadata, isDeleted]
        have named : new.name = vg.name := ApiServer.nameOf_of_stored becomes
        refine ⟨List.forall_mem_cons.mpr ⟨fun marking listed => ?_, marked⟩, ?_⟩
        · refine ⟨new, others new ?_ (named ▸ distinct.1), named,
            (isMarked_of_stored becomes).mpr (marks marking listed)⟩
          exact ApiServer.mem_alter_iff.mpr (.inr ⟨vg, there.1, rfl, becomes⟩)
        · intro other member absent
          rw [List.map_cons, List.mem_cons, not_or] at absent
          exact others other (ApiServer.mem_alter_iff.mpr (.inl ⟨member, absent.1⟩))
            absent.2

/-- A start changes no host. -/
theorem start_host
    (ran : Exec (environment node) annotateExistingLVMVolumeGroupsIfWipingEnabled.run world
      events result after) :
    (∀ event ∈ events, event.before.host = world.host) ∧ after.host = world.host := by
  have kept (choice : Choice) (middle : World) (request : Request)
      (allowed : Within [.read, .update .volumeGroup] request)
      (same : middle.host = world.host) :
      (World.respond node choice middle request).2.host = world.host :=
    ((respond_frame node choice middle request allowed).host (by decide)
      (by decide)).trans same
  have preserved := start_uses.preserves kept ran
  exact preserved rfl

end Start
end WipeRefactor

/-! ## Evidence -/

/-- The host has the volume group of LVMS with a name. -/
def HasTagged (host : Host) (name : String) : Prop :=
  ∃ row ∈ host.volumeGroups, row.name = name ∧ defaultTag ∈ row.tags

/-- The vg-manager of a node wipes a device of the volume group with a name. -/
def Occurrence.WipesOn (node name : String) : Occurrence → Prop
  | .call (.vgManager wiping) event => wiping = node ∧ WipesDevice node name event
  | .call .user _ | .call .operator _ | .change _ => False

/-- A device of the volume group has been wiped on the node, or the node has had the
volume group. -/
def Evidence (node name : String) (occurrences : List Occurrence) (world : World) : Prop :=
  (∃ occurrence ∈ occurrences, occurrence.WipesOn node name) ∨
    ∃ seen ∈ visited occurrences world, HasTagged (seen.host node) name

/-- There is evidence for every mark. -/
def MarksJustified (occurrences : List Occurrence) (world : World) : Prop :=
  ∀ vg ∈ world.api.objects .volumeGroup, ∀ node, IsMarked node vg →
    Evidence node vg.name occurrences world

section

variable {node name : String} {occurrences added : List Occurrence} {world after : World}

/-- Evidence stays evidence. -/
theorem Evidence.append
    (evidence : Evidence node name occurrences world)
    (starts : world ∈ visited added after) :
    Evidence node name (occurrences ++ added) after := by
  rcases evidence with ⟨occurrence, member, wipes⟩ | ⟨seen, member, tagged⟩
  · exact .inl ⟨occurrence, List.mem_append_left _ member, wipes⟩
  · refine .inr ⟨seen, ?_, tagged⟩
    have split : visited (occurrences ++ added) after =
        occurrences.map Occurrence.before ++ visited added after := by
      simp [visited, History.trail]
    rw [split]
    rcases List.mem_append.mp member with earlier | last
    · exact List.mem_append_left _ earlier
    · exact List.mem_append_right _ (List.mem_singleton.mp last ▸ starts)

/-- Marks that were there stay justified. -/
theorem MarksJustified.append
    (justified : MarksJustified occurrences world)
    (starts : world ∈ visited added after)
    (new : LVMVolumeGroup)
    (inherited : ∃ old ∈ world.api.objects .volumeGroup, old.name = new.name ∧
      IsMarked node old) :
    Evidence node new.name (occurrences ++ added) after := by
  obtain ⟨old, member, named, marked⟩ := inherited
  rw [← named]
  exact (justified old member node marked).append starts

end

/-! ## Runs -/

/-- Nobody else marks a volume group. -/
def MarksKept (before after : World) : Prop :=
  ∀ new ∈ after.api.objects .volumeGroup, ∀ node, IsMarked node new →
    ∃ old ∈ before.api.objects .volumeGroup, old.name = new.name ∧ IsMarked node old

/-- Runs in which the vg-managers reconcile, the operator is started and everything else
changes in any way that leaves the marks, where every start meets a condition on the
occurrences before and the world it takes place in. -/
inductive MarkingRun
    (system : System)
    (meets : List Occurrence → World → Prop)
    (first : World) : List Occurrence → World → Prop
  | begin : MarkingRun system meets first [] first
  | reconcile {node name occurrences world events after}
      (prior : MarkingRun system meets first occurrences world)
      (step : ReconcileStep (system.vgManager node) name world events after) :
      MarkingRun system meets first
        (occurrences ++ events.map (.call (.vgManager node))) after
  | start {occurrences world events result after}
      (prior : MarkingRun system meets first occurrences world)
      (met : meets occurrences world)
      (ran : Exec (environment "")
        WipeRefactor.annotateExistingLVMVolumeGroupsIfWipingEnabled.run world events
        result after) :
      MarkingRun system meets first (occurrences ++ events.map (.call .operator)) after
  | change {occurrences world after}
      (prior : MarkingRun system meets first occurrences world)
      (kept : MarksKept world after) :
      MarkingRun system meets first (occurrences ++ [.change world]) after

/-- For every node that lists a volume group that is to be wiped by force, there is
evidence that it has been set up there. -/
def ListsJustified (occurrences : List Occurrence) (world : World) : Prop :=
  ∀ vg ∈ world.api.objects .volumeGroup, ∀ nodeStatus ∈ world.api.objects .nodeStatus,
    WipeRefactor.Lists nodeStatus vg →
      Evidence nodeStatus.metadata.name vg.name occurrences world

section

variable {occurrences : List Occurrence} {world after : World}
variable {events : List (Event sig World)} {result : Except GoError Unit}

/-- A start of the operator is no evidence. -/
theorem Evidence.of_start
    {node name : String}
    (ran : Exec (environment "")
      WipeRefactor.annotateExistingLVMVolumeGroupsIfWipingEnabled.run world events result
      after)
    (evidence : Evidence node name (occurrences ++ events.map (.call .operator)) after) :
    Evidence node name occurrences world := by
  obtain ⟨during, final⟩ := WipeRefactor.start_host ran
  rcases evidence with ⟨occurrence, member, wipes⟩ | ⟨seen, member, tagged⟩
  · rcases List.mem_append.mp member with earlier | later
    · exact .inl ⟨occurrence, earlier, wipes⟩
    · obtain ⟨event, -, rfl⟩ := List.mem_map.mp later
      exact wipes.elim
  · have now (same : seen.host = world.host) : Evidence node name occurrences world :=
      .inr ⟨world, List.mem_append_right _ (List.mem_singleton_self world), same ▸ tagged⟩
    rw [visited, History.trail, List.map_append, List.map_map, List.append_assoc] at member
    rcases List.mem_append.mp member with earlier | later
    · exact .inr ⟨seen, List.mem_append_left _ earlier, tagged⟩
    rcases List.mem_append.mp later with isEvent | isLast
    · obtain ⟨event, happened, rfl⟩ := List.mem_map.mp isEvent
      exact now (during event happened)
    · obtain rfl := List.mem_singleton.mp isLast
      exact now final

/-- A start keeps the marks justified if the lists are. -/
theorem MarksJustified.start
    (justified : MarksJustified occurrences world)
    (lists : ListsJustified occurrences world)
    (ran : Exec (environment "")
      WipeRefactor.annotateExistingLVMVolumeGroupsIfWipingEnabled.run world events result
      after) :
    MarksJustified (occurrences ++ events.map (.call .operator)) after := by
  intro new member node marked
  have starts : world ∈ visited (events.map (.call .operator)) after := by
    rw [visited_calls]
    exact List.mem_of_mem_head? (Exec.trail_head ran)
  obtain ⟨old, isOld, named, marks⟩ := WipeRefactor.start_marks ran new member
  rcases marks node marked with earlier | ⟨nodeStatus, isStatus, rfl, listed⟩
  · exact justified.append starts new ⟨old, isOld, named, earlier⟩
  · rw [← named]
    exact (lists old isOld nodeStatus isStatus listed).append starts

end

/-- In every run in which every start finds evidence for what the nodes list, there is
evidence for every mark. A further start that succeeds keeps it so exactly if it finds
such evidence. -/
theorem marksJustified_of_listsJustified
    (system : System)
    (first world : World)
    (occurrences : List Occurrence)
    (initially : MarksJustified [] first)
    (run : MarkingRun system ListsJustified first occurrences world) :
    MarksJustified occurrences world ∧
      ∀ events after, world.api.Unique .volumeGroup →
        (∀ vg ∈ world.api.objects .volumeGroup,
          vg.metadata.deletionTimestamp.isSome = true → vg.metadata.finalizers ≠ []) →
        Exec (environment "")
          WipeRefactor.annotateExistingLVMVolumeGroupsIfWipingEnabled.run world events
          (.ok ()) after →
        (MarksJustified (occurrences ++ events.map (.call .operator)) after ↔
          ListsJustified occurrences world) := by
  have justified : MarksJustified occurrences world := by
    induction run with
    | begin => exact initially
    | @reconcile node name earlier before events after prior step inductionHypothesis =>
        intro new member marking marked
        have starts : before ∈ visited (events.map (.call (.vgManager node))) after := by
          obtain ⟨_, ran⟩ := step
          rw [visited_calls]
          exact List.mem_of_mem_head? (Exec.trail_head ran)
        rcases step.marks new member marking marked with
          inherited | ⟨isNode, event, isEvent, wipes⟩
        · exact inductionHypothesis.append starts new inherited
        · rw [system.nodeName_vgManager] at isNode
          exact .inl ⟨_, List.mem_append_right _ (List.mem_map_of_mem isEvent),
            isNode.symm, wipes⟩
    | start prior lists ran inductionHypothesis => exact inductionHypothesis.start lists ran
    | change prior kept inductionHypothesis =>
        intro new member marking marked
        exact inductionHypothesis.append (by simp [visited, History.trail,
          Occurrence.before]) new (kept new member marking marked)
  refine ⟨justified, fun events after unique held ran => ⟨fun afterwards => ?_, fun lists =>
    justified.start lists ran⟩⟩
  intro vg member nodeStatus isStatus listed
  rcases WipeRefactor.start_cases ran with ⟨-, nothing⟩ | ⟨rest, looped⟩
  · rcases nothing rfl with none | none
    · rw [none] at isStatus
      cases isStatus
    · rw [none] at member
      cases member
  obtain ⟨new, isNew, named, marked⟩ := (WipeRefactor.annotate_loop unique
    (fun _ => id) held looped).1 vg member _ ⟨nodeStatus, isStatus, rfl, listed⟩
  rw [← named]
  exact (afterwards new isNew _ marked).of_start ran

/-! ### A node that has been set up, and one that has not -/

/-- What has happened after some reconciliations of the volume group to be wiped, and the
world then. -/
def reconciledForced (world : World) : Nat → List Occurrence × World
  | 0 => ([], world)
  | count + 1 =>
      let (occurrences, middle) := reconciledForced world count
      let (events, _, after) := reconcileForced withoutFailures middle
      (occurrences ++ events.map (.call (.vgManager "node")), after)

/-- What has happened after the operator has been started then. -/
def startedForced (world : World) (count : Nat) : List Occurrence × World :=
  let (occurrences, middle) := reconciledForced world count
  let (events, _, after) := Program.run (environment "") withoutFailures
    WipeRefactor.annotateExistingLVMVolumeGroupsIfWipingEnabled.run middle
  (occurrences ++ events.map (.call .operator), after)

theorem reconciledForced_run
    (meets : List Occurrence → World → Prop)
    (world : World)
    (count : Nat) :
    MarkingRun .plain meets world (reconciledForced world count).1
      (reconciledForced world count).2 := by
  induction count with
  | zero => exact .begin
  | succ count inductionHypothesis =>
      exact inductionHypothesis.reconcile (Reconciler.runWith_step (.plain "node") "vg1"
        withoutFailures (reconciledForced world count).2)

theorem startedForced_run
    {meets : List Occurrence → World → Prop}
    (world : World)
    (count : Nat)
    (met : meets (reconciledForced world count).1 (reconciledForced world count).2) :
    MarkingRun .plain meets world (startedForced world count).1
      (startedForced world count).2 :=
  .start (reconciledForced_run meets world count) met (Program.run_exec ..)

theorem forcedVG_unmarked (node : String) : ¬IsMarked node forcedVG := by
  simp [IsMarked, forcedVG, GoMap.has, GoMap.get?]

/-- After four reconciliations the device has been wiped and added, and the start finds
the volume group on the host. -/
theorem marksJustified_of_listsJustified_vg1 :
    (∃ vg ∈ (startedForced forcedWorld 4).2.api.objects .volumeGroup,
        vg.metadata.annotations.has (devicesWipedKey "node") = true) ∧
      MarksJustified (startedForced forcedWorld 4).1 (startedForced forcedWorld 4).2 := by
  refine ⟨by decide +kernel, (marksJustified_of_listsJustified .plain forcedWorld _ _ ?_
    (startedForced_run forcedWorld 4 ?_)).1⟩
  · intro vg member node marked
    obtain rfl := List.mem_singleton.mp member
    exact absurd marked (forcedVG_unmarked node)
  · intro vg member nodeStatus isStatus _
    have named : ∀ vg ∈ (reconciledForced forcedWorld 4).2.api.objects .volumeGroup,
        vg.name = "vg1" := by
      decide +kernel
    have statuses : ∀ nodeStatus ∈ (reconciledForced forcedWorld 4).2.api.objects .nodeStatus,
        nodeStatus.metadata.name = "node" := by
      decide +kernel
    rw [named vg member, statuses nodeStatus isStatus]
    refine .inr ⟨_, List.mem_append_right _ (List.mem_singleton_self _), ?_⟩
    have tagged : ∃ row ∈ ((reconciledForced forcedWorld 4).2.host "node").volumeGroups,
        row.name = "vg1" ∧ defaultTag ∈ row.tags := by
      decide +kernel
    exact tagged

/-- The world before the disk of the volume group is attached. -/
def withoutDisk : World :=
  { forcedWorld with host := fun _ => {} }

/-- Nothing has been wiped and the host has had no volume group. -/
def untouched (node : String) (occurrences : List Occurrence) (world : World) : Bool :=
  (occurrences.all fun
    | .call _ event => event.request.effect != .wipe
    | .change _ => true) &&
  (visited occurrences world).all fun seen => (seen.host node).volumeGroups.isEmpty

/-- Without a wipe or a volume group there is no evidence. -/
theorem not_evidence_of_untouched
    {node name : String}
    {occurrences : List Occurrence}
    {world : World}
    (isUntouched : untouched node occurrences world = true) :
    ¬Evidence node name occurrences world := by
  rw [untouched, Bool.and_eq_true, List.all_eq_true, List.all_eq_true] at isUntouched
  rintro (⟨occurrence, member, wipes⟩ | ⟨seen, member, row, isRow, -⟩)
  · have spared := isUntouched.1 occurrence member
    cases occurrence with
    | call actor event =>
        cases actor with
        | vgManager wiping =>
            obtain ⟨-, _, _, _, -, -, -, isWipe, -⟩ := wipes
            dsimp only at spared
            rw [isWipe] at spared
            cases spared
        | user | operator => exact wipes
    | change before => exact wipes
  · have none := List.isEmpty_iff.mp (isUntouched.2 seen member)
    rw [none] at isRow
    cases isRow

/-- The vg-manager finds no disk and reports that the volume group has failed; then the
operator is started and marks the volume group as wiped. -/
theorem marked_without_evidence :
    ∃ occurrences world, MarkingRun .plain (fun _ _ => True) withoutDisk occurrences world ∧
      MarksJustified [] withoutDisk ∧
      ∃ vg ∈ world.api.objects .volumeGroup, IsForced vg ∧ IsMarked "node" vg ∧
        ¬Evidence "node" vg.name occurrences world := by
  refine ⟨_, _, startedForced_run withoutDisk 2 trivial, ?_, ?_⟩
  · intro vg member node marked
    obtain rfl := List.mem_singleton.mp member
    exact absurd marked (forcedVG_unmarked node)
  · have isMarked : ∃ vg ∈ (startedForced withoutDisk 2).2.api.objects .volumeGroup,
        vg.spec = forcedVG.spec ∧
          vg.metadata.annotations.has (devicesWipedKey "node") = true := by
      decide +kernel
    obtain ⟨vg, member, sameSpec, marked⟩ := isMarked
    refine ⟨vg, member, isForced_iff.mpr ⟨_, by rw [sameSpec]; rfl, rfl⟩, marked, ?_⟩
    exact not_evidence_of_untouched (by decide +kernel)

end Lvms
