import Lvms.Interaction.Concurrent
import Lvms.NodeRemoval.Cleanup
import Lvms.System

/-!
# The controllers at the same time

The vg-managers of all nodes, the operator and the node removal controller run at the
same time, and volume groups are deleted. All of them replace the whole object when they
write a volume group. They write what they have read, and leave out the finalizer of a
node only when they have been told that the node does not exist, or when they are the
vg-manager of the node and delete the volume group.
-/

namespace Lvms

open Interaction Interaction.Program

/-! ## What controllers are told -/

/-- What the API server tells a controller. -/
inductive Fact
  /-- A volume group was stored like this. -/
  | seen (vg : LVMVolumeGroup)
  /-- A node did not exist. -/
  | absent (node : String)

/-- The volume groups of an answer. -/
def Shows : (request : Request) → request.Response → LVMVolumeGroup → Prop
  | .api (.get .volumeGroup _), response, vg => response = .ok vg
  | .api (.list .volumeGroup), response, vg => ∃ vgs, response = .ok vgs ∧ vg ∈ vgs
  | .api (.update .volumeGroup _), response, vg => response = .ok vg
  | _, _, _ => False

/-- The nodes that do not exist according to an answer. -/
def Misses : (request : Request) → request.Response → String → Prop
  | .api (.get .node name), response, node =>
      node = name ∧ ∃ err : GoError, response = .error err ∧ err.isNotFound = true
  | .api (.list .node), response, node =>
      ∃ nodes : List Node, response = .ok nodes ∧ node ∉ nodes.map (·.metadata.name)
  | _, _, _ => False

/-- The facts of an answer. -/
def tells (request : Request) (response : request.Response) : Fact → Prop
  | .seen vg => Shows request response vg
  | .absent node => Misses request response node

/-- What a controller makes of a volume group it has seen. It is the same version of the
same object, and it keeps the finalizers of all nodes but those that do not exist. Only the
vg-manager of a node, the `owner`, can remove its finalizer when the object is deleted. -/
structure Rewrites
    (owner : Option String)
    (knows : Fact → Prop)
    (old object : LVMVolumeGroup) : Prop where
  name : object.name = old.name
  uid : object.metadata.uid = old.metadata.uid
  version : object.metadata.resourceVersion = old.metadata.resourceVersion
  finalizers : ∀ node, getFinalizer node ∈ old.metadata.finalizers →
    getFinalizer node ∈ object.metadata.finalizers ∨ knows (.absent node) ∨ owner = some node

/-- Volume groups are only updated with what a controller has made of one it has seen. -/
def Rewriting (owner : Option String) (knows : Fact → Prop) : Request → Prop
  | .api (.update .volumeGroup object) =>
      ∃ old, knows (.seen old) ∧ Rewrites owner knows old object
  | _ => True

/-- The protocol of a controller. -/
abbrev rewriting (owner : Option String) (knows : Fact → Prop) : Protocol sig :=
  .knowing tells (Rewriting owner) knows

/-- Only updates of volume groups are restricted. -/
theorem rewriting_allowed
    {owner : Option String}
    {knows : Fact → Prop}
    {request : Request}
    (isOther : request.effect ≠ .update .volumeGroup) :
    (rewriting owner knows).allowed request := by
  change Rewriting owner knows request
  unfold Rewriting
  split
  · exact absurd rfl isOther
  · trivial

/-! ## The operator -/

/-- The finalizer of a node is not the one of older versions. -/
theorem getFinalizer_ne_legacy (node : String) :
    getFinalizer node ≠ legacyVGFinalizer := by
  intro same
  have heads := congrArg (fun text => text.toList.head?) same
  simp [getFinalizer, nodeCleanupFinalizer, legacyVGFinalizer] at heads

/-- What the operator writes, it may write. -/
theorem Operator.permits_rewriting (r : Operator) (knows : Fact → Prop) :
    r.Permits (rewriting none knows) (fun _ => True) (fun vg => knows (.seen vg))
      fun nodes => ∀ node, node ∉ nodes → knows (.absent node) where
  others _ untouched := rewriting_allowed fun same => untouched (by simp [same, writeEffects])
  readsCluster _ _ _ := trivial
  writesCluster _ _ := ⟨trivial, fun _ _ => trivial⟩
  applies _ _ vg _ := by
    refine ⟨fun existing told => ?_, fun _ _ => trivial⟩
    refine ⟨existing, told (.seen existing) rfl, rfl, rfl, rfl, fun node there => .inl ?_⟩
    simpa [updateVolumeGroup, ObjectMeta.removeFinalizer, there] using
      getFinalizer_ne_legacy node
  lists vgs told vg member := told (.seen vg) ⟨vgs, rfl, member⟩
  listsNodes nodes told node absent := told (.absent node) ⟨nodes, rfl, absent⟩
  releases nodes vg finalizer missing isSeen _ stale := by
    refine ⟨⟨vg, isSeen, rfl, rfl, rfl, fun node there => ?_⟩, fun updated told =>
      told (.seen updated) rfl⟩
    by_cases same : getFinalizer node = finalizer
    · rw [← same, getFinalizer, stringsTrimPrefix_append] at stale
      exact .inr (.inl (missing node stale))
    · exact .inl (by simp [ObjectMeta.removeFinalizer, there, same])

/-! ## The vg-manager -/

section VgManager

variable {r : Reconciler} {knows : Fact → Prop} {vg : LVMVolumeGroup}

/-- A vg-manager may remove its own finalizer. -/
theorem Rewrites.released :
    Rewrites (some r.nodeName) knows vg { vg with
      metadata := (vg.metadata.removeFinalizer (getFinalizer r.nodeName)).1 } := by
  refine ⟨rfl, rfl, rfl, fun node there => ?_⟩
  by_cases same : r.nodeName = node
  · exact .inr (.inr (congrArg some same))
  · refine .inl ?_
    simpa [ObjectMeta.removeFinalizer, there] using
      fun equal => same (getFinalizer_injective equal).symm

/-- Everyone may add a finalizer. -/
theorem Rewrites.registered {owner : Option String} (finalizer : String) :
    Rewrites owner knows vg { vg with
      metadata := (vg.metadata.addFinalizer finalizer).1 } := by
  dsimp only [ObjectMeta.addFinalizer]
  split
  · exact ⟨rfl, rfl, rfl, fun _ there => .inl there⟩
  · exact ⟨rfl, rfl, rfl, fun _ there => .inl (List.mem_append_left _ there)⟩

/-- A vg-manager writes volume groups as it may. -/
theorem Reconciler.reconcileRequest_rewrites (name : String) :
    (r.reconcileRequest name).Obeys (rewriting (some r.nodeName) knows) := by
  have reads : ∀ effect ∈ [Effect.read, .resolve], effect ≠ .update .volumeGroup := by
    decide
  refine reconcileRequest_obeys_of (fun _ isRead => rewriting_allowed (reads _ isRead))
    fun vg told => ?_
  have updating : (r.reconcile vg).run.Uses
      (Updating (Rewrites (some r.nodeName) knows vg)) :=
    r.reconcile_updating (fun _ => .released) (.registered _)
      fun _ _ => ⟨rfl, rfl, rfl, fun _ there => .inl there⟩
  refine .run_of_uses updating fun request updates => ?_
  change Rewriting _ knows request
  unfold Rewriting
  split
  · exact ⟨vg, told (.seen vg) rfl, updates _ rfl⟩
  · trivial

end VgManager

/-! ## The node removal controller -/

namespace NodeRemoval

variable {knows : Fact → Prop}

/-- The finalizer of an absent node may be removed. -/
theorem cleanupVolumeGroup_rewrites
    {node : String}
    {vg : LVMVolumeGroup}
    (isAbsent : knows (.absent node))
    (isSeen : knows (.seen vg)) :
    (cleanupVolumeGroup node vg).Obeys (rewriting none knows) := by
  have rewrites : Rewrites none knows vg (withoutNode node vg).1 := by
    refine ⟨?_, ?_, ?_, fun other there => ?_⟩
    · rw [LVMVolumeGroup.name, withoutNode_metadata]
    · rw [withoutNode_metadata]
    · rw [withoutNode_metadata]
    · by_cases same : other = node
      · exact .inr (.inl (same ▸ isAbsent))
      · refine .inl ?_
        simpa [withoutNode_metadata, there] using
          fun equal => same (getFinalizer_injective equal)
  dsimp only [cleanupVolumeGroup]
  split
  · exact .run_bind (.run_mapError (Client.update_obeys ⟨vg, isSeen, rewrites⟩
      fun _ _ => trivial)) fun _ _ => trivial
  · trivial

theorem removeNode_rewrites
    {nodeStatus : LVMVolumeGroupNodeStatus}
    (isAbsent : knows (.absent nodeStatus.metadata.name)) :
    (removeNode nodeStatus).Obeys (rewriting none knows) := by
  have releases : ∀ effect ∈ [Effect.delete .nodeStatus, .update .nodeStatus],
      effect ≠ .update .volumeGroup := by
    decide
  refine .run_bind (.run_of_uses (releaseNodeStatus_uses nodeStatus) fun _ allowed =>
    rewriting_allowed (releases _ allowed)) fun _ _ => ?_
  have lists : (Client.list .volumeGroup).run.Obeys (rewriting none knows)
      (OnOk fun vgs => ∀ vg ∈ vgs, knows (.seen vg)) :=
    Client.list_obeys trivial fun vgs told vg member => told (.seen vg) ⟨vgs, rfl, member⟩
  refine .run_bind (.run_mapError (.run_bind (.run_mapError lists) fun vgs areSeen =>
    .run_forM fun vg member => ?_)) fun _ _ => trivial
  exact cleanupVolumeGroup_rewrites isAbsent (areSeen vg member)

/-- The node removal controller writes volume groups as it may. -/
theorem reconcile_rewrites (name : String) :
    (reconcile name).Obeys (rewriting none knows) := by
  refine .run_bind (.run_attempt ⟨trivial, fun _ _ => trivial⟩) fun found _ => ?_
  cases found with
  | error err =>
      dsimp only
      split <;> trivial
  | ok nodeStatus =>
      refine .run_bind (.run_attempt ⟨trivial, fun _ told => told⟩) fun node told => ?_
      cases node with
      | ok node => trivial
      | error err =>
          dsimp only
          split
          · rename_i isMissing
            exact removeNode_rewrites (told (.absent nodeStatus.metadata.name)
              ⟨rfl, err, rfl, isMissing⟩)
          · trivial

end NodeRemoval

/-! ## The machine -/

/-- Who is running. -/
inductive Controller
  /-- The vg-manager of a node reconciles a volume group. -/
  | vgManager (node name : String)
  /-- The operator, which knows its image or not yet, reconciles a cluster. -/
  | operator (image name : String)
  /-- The node removal controller reconciles a node status. -/
  | nodeRemoval (name : String)
  /-- A volume group is deleted by a user or by the garbage collector. -/
  | deletion (name : String)

/-- The node whose cleanup finalizer a controller can remove. -/
def Controller.owner : Controller → Option String
  | .vgManager node _ => some node
  | .operator _ _ | .nodeRemoval _ | .deletion _ => none

/-- The controllers. Without them, anything but the volume groups can change. -/
def System.controllers (system : System) :
    Machine sig World Choice Controller (Except GoError Result) where
  env
    | .vgManager node _ => environment node
    | .operator _ _ | .nodeRemoval _ | .deletion _ => environment ""
  start
    | .vgManager node name => ((system.vgManager node).reconcileRequest name).run
    | .operator image name =>
        (({ system.operator with imageName := image } : Operator).reconcileRequest
          name).run
    | .nodeRemoval name => (NodeRemoval.reconcile name).run
    | .deletion name =>
        (do Client.delete .volumeGroup name; return {} : Go Result).run
  change before after :=
    after.api.objects .volumeGroup = before.api.objects .volumeGroup

/-- Every controller writes volume groups as it may. -/
theorem System.controllers_rewrite
    (system : System)
    (controller : Controller)
    (knows : Fact → Prop) :
    (system.controllers.start controller).Obeys (rewriting controller.owner knows)
      (OnOk fun _ => True) := by
  cases controller with
  | vgManager node name =>
      have obeys : ((system.vgManager node).reconcileRequest name).Obeys
          (rewriting (some (system.vgManager node).nodeName) knows) :=
        Reconciler.reconcileRequest_rewrites name
      rwa [system.nodeName_vgManager] at obeys
  | operator image name =>
      exact (Operator.permits_rewriting _ knows).reconcileRequest_obeys name
  | nodeRemoval name => exact NodeRemoval.reconcile_rewrites name
  | deletion name =>
      exact .run_bind (.run_of_uses (Client.delete_uses ..) fun _ allowed =>
        rewriting_allowed (by rw [List.mem_singleton.mp allowed]; decide))
        fun _ _ => trivial

end Lvms
