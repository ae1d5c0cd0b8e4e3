import Lvms.VgManager.Controller
import Lvms.Interaction.History
import Lvms.Interaction.Table
import Lvms.Outcomes

/-!
# The node status as a table

The vg-manager of a node sets and removes the statuses of volume groups in the node status,
in any order. After any number of successful calls the node status has the last status of
each volume group that was not removed, and an owner reference to just these.
-/

namespace Lvms

open Interaction

variable {node : String} {world : World}

/-- The stored status of a node; one that is missing is empty. -/
def nodeStatusOf (node : String) (world : World) : LVMVolumeGroupNodeStatus :=
  (world.api.find? .nodeStatus node).getD { metadata := { name := node } }

/-- A call of the vg-manager about the status of a volume group. -/
inductive StatusCall
  | set (vg : LVMVolumeGroup) (status : VGStatus)
  | remove (vg : LVMVolumeGroup)
  deriving DecidableEq, Repr

namespace StatusCall

/-- The volume group of a call. -/
def vg : StatusCall → LVMVolumeGroup
  | set vg _ => vg
  | remove vg => vg

/-- The code of a call. -/
def program (r : Reconciler) : StatusCall → Go Unit
  | set vg status => do
      let _ ← r.setVolumeGroupStatus vg status
  | remove vg => r.removeVolumeGroupStatus vg

/-- The entry a call leaves for its volume group. -/
def entry : StatusCall → Option VGStatus
  | set vg status => some { status with deviceDiscoveryPolicy := discoveryPolicyStatus vg }
  | remove _ => none

/-- The owner reference a call leaves for its volume group. -/
def owner : StatusCall → Option OwnerReference
  | set vg _ =>
      some { kind := "LVMVolumeGroup", uid := vg.metadata.uid, name := vg.metadata.name }
  | remove _ => none

/-- What a call makes of the node status. -/
def change : StatusCall → LVMVolumeGroupNodeStatus → LVMVolumeGroupNodeStatus
  | set vg status, nodeStatus => { nodeStatus with
      metadata := nodeStatus.metadata.setOwnerReference vg.metadata
      lvmVGStatus := putVGStatus
        { status with deviceDiscoveryPolicy := discoveryPolicyStatus vg }
        nodeStatus.lvmVGStatus }
  | remove vg, nodeStatus =>
      if nodeStatus.lvmVGStatus.any (·.name == vg.name) then
        { nodeStatus with
          metadata := { nodeStatus.metadata with
            ownerReferences := nodeStatus.metadata.ownerReferences.eraseP
              (·.uid == vg.metadata.uid) }
          lvmVGStatus := dropVGStatus vg.name nodeStatus.lvmVGStatus }
      else nodeStatus

variable {r : Reconciler} {call : StatusCall} {world after : World}
variable {events : List (Event sig World)}

/-- A successful update of the node status. -/
theorem createOrUpdate_stores
    {kind : Kind}
    {initial : kind.Object}
    {mutate : kind.Object → Except GoError kind.Object}
    {result : Client.OperationResult}
    {wrap : GoError → GoError}
    (ran : Exec (environment r.nodeName)
      (Fallible.mapError wrap (Client.createOrUpdate kind initial mutate)).run world events
      (.ok result) after) :
    ∃ answer, Client.Stores kind initial mutate world events (.ok answer) after := by
  obtain ⟨answer, first, between, second, storing, returning, rfl⟩ :=
    Exec.run_bind_ok_iff.mp (Exec.run_mapError_ok_iff.mp ran)
  obtain ⟨rfl, -, rfl⟩ := Exec.run_pure_iff.mp returning
  rw [List.append_nil]
  exact ⟨answer, Client.createOrUpdateObject_stores storing⟩

/-- A successful call changes and stores the node status. -/
theorem program_stores
    (ran : Exec (environment r.nodeName) (call.program r).run world events (.ok ())
      after) :
    ∃ calls answer, Client.Stores .nodeStatus { metadata := { name := r.nodeName } }
      (fun nodeStatus => .ok (call.change nodeStatus)) world calls (.ok answer) after := by
  cases call with
  | set vg status =>
      obtain ⟨_, setting, between, last, setsStatus, rest, rfl⟩ := Exec.run_bind_ok_iff.mp ran
      obtain ⟨rfl, -, rfl⟩ := Exec.run_pure_iff.mp rest
      obtain ⟨result, storing, later, final, stores, returning, rfl⟩ :=
        Exec.run_bind_ok_iff.mp setsStatus
      obtain ⟨rfl, -, rfl⟩ := Exec.run_pure_iff.mp returning
      exact ⟨storing, createOrUpdate_stores stores⟩
  | remove vg =>
      rw [program, Reconciler.removeVolumeGroupStatus] at ran
      split at ran
      · obtain ⟨_, dropping, between, removing, drops, removes, rfl⟩ :=
          Exec.run_lift_bind_iff.mp ran
        obtain ⟨choice, -, -, rfl⟩ := exec_call_iff.mp drops
        obtain ⟨result, storing, later, final, stores, returning, rfl⟩ :=
          Exec.run_bind_ok_iff.mp removes
        obtain ⟨rfl, -, rfl⟩ := Exec.run_pure_iff.mp returning
        exact ⟨storing, createOrUpdate_stores stores⟩
      · obtain ⟨result, storing, later, final, stores, returning, rfl⟩ :=
          Exec.run_bind_ok_iff.mp ran
        obtain ⟨rfl, -, rfl⟩ := Exec.run_pure_iff.mp returning
        exact ⟨storing, createOrUpdate_stores stores⟩

theorem change_metadata (nodeStatus : LVMVolumeGroupNodeStatus) :
    (call.change nodeStatus).metadata.name = nodeStatus.metadata.name ∧
      (call.change nodeStatus).metadata.finalizers = nodeStatus.metadata.finalizers := by
  cases call with
  | set vg status => exact ⟨rfl, rfl⟩
  | remove vg =>
      rw [change]
      split <;> exact ⟨rfl, rfl⟩

end StatusCall

/-! ## One call -/

/-- A node status that is marked for deletion still has finalizers. -/
def StatusHeld (node : String) (world : World) : Prop :=
  (nodeStatusOf node world).metadata.deletionTimestamp.isSome →
    (nodeStatusOf node world).metadata.finalizers ≠ []

theorem nodeStatusOf_of_find?
    {nodeStatus : LVMVolumeGroupNodeStatus}
    (found : world.api.find? .nodeStatus node = some nodeStatus) :
    nodeStatusOf node world = nodeStatus := by
  rw [nodeStatusOf, found]
  rfl

theorem stored_of_find?
    {changed new : LVMVolumeGroupNodeStatus}
    (found : world.api.find? .nodeStatus node = some new)
    (entries : new.lvmVGStatus = changed.lvmVGStatus)
    (owners : new.metadata.ownerReferences = changed.metadata.ownerReferences)
    (settled : new.metadata.deletionTimestamp.isSome → new.metadata.finalizers ≠ []) :
    StatusHeld node world ∧
      (nodeStatusOf node world).lvmVGStatus = changed.lvmVGStatus ∧
      (nodeStatusOf node world).metadata.ownerReferences =
        changed.metadata.ownerReferences := by
  rw [StatusHeld, nodeStatusOf_of_find? found]
  exact ⟨settled, entries, owners⟩

/-- What is stored is the changed node status, up to fields of the API server. -/
theorem StatusCall.stored_change
    {call : StatusCall}
    {after : World}
    {events : List (Event sig World)}
    {answer : Client.OperationResult × LVMVolumeGroupNodeStatus}
    (unique : world.api.Unique .nodeStatus)
    (settled : StatusHeld node world)
    (stores : Client.Stores .nodeStatus { metadata := { name := node } }
      (fun nodeStatus => .ok (call.change nodeStatus)) world events (.ok answer) after) :
    StatusHeld node after ∧
      (nodeStatusOf node after).lvmVGStatus =
        (call.change (nodeStatusOf node world)).lvmVGStatus ∧
      (nodeStatusOf node after).metadata.ownerReferences =
        (call.change (nodeStatusOf node world)).metadata.ownerReferences := by
  cases stores with
  | @unchanged _ existing asked answered found same =>
      have isOld : nodeStatusOf node world = existing := nodeStatusOf_of_find? found
      rw [isOld, Except.ok.inj same]
      exact ⟨settled, rfl, rfl⟩
  | @updated _ _ existing object old asked answered found changed differs replaced =>
      have isOld : nodeStatusOf node world = existing := nodeStatusOf_of_find? found
      obtain rfl := Except.ok.inj changed
      have named : (call.change existing).metadata.name = node :=
        (change_metadata existing).1.trans (ApiServer.nameOf_of_find? found)
      have becomes := unique.find?_update replaced
      change (ApiServer.alter _ _ _ _).find? _ (call.change existing).metadata.name = _
        at becomes
      change world.api.find? .nodeStatus (call.change existing).metadata.name = _ at replaced
      rw [named] at becomes replaced
      obtain rfl : old = existing := Option.some.inj (replaced.symm.trans found)
      have remains : ∃ new, ApiServer.stored .nodeStatus old (call.change old) = some new := by
        cases mark : old.metadata.deletionTimestamp with
        | none => exact ApiServer.exists_stored_of_unmarked _ mark
        | some time =>
            rw [StatusHeld, isOld, mark] at settled
            refine ApiServer.exists_stored_of_finalizers _ ?_
            exact fun bare => settled rfl ((change_metadata old).2.symm.trans bare)
      obtain ⟨new, isNew⟩ := remains
      rw [isOld]
      refine stored_of_find? (becomes.trans isNew) ?_ ?_ ?_ <;>
        rw [ApiServer.eq_of_stored isNew]
      · rfl
      · rfl
      · rw [StatusHeld, isOld] at settled
        exact fun marked bare => settled marked ((change_metadata old).2.symm.trans bare)
  | @created _ _ object uid asked answered missing changed =>
      have isOld : nodeStatusOf node world = { metadata := { name := node } } := by
        rw [nodeStatusOf, show world.api.find? .nodeStatus node = none from missing]
        rfl
      obtain rfl := Except.ok.inj changed
      rw [isOld]
      exact stored_of_find? (ApiServer.find?_set_append missing (change_metadata _).1) rfl rfl
        nofun

/-! ## Rows -/

/-- The last call for a volume group. -/
def lastCall (name : String) (calls : List StatusCall) : Option StatusCall :=
  calls.reverse.find? (·.vg.name == name)

/-- A call leaves an owner reference exactly when it leaves an entry. -/
theorem bind_owner_eq_none_iff (last : Option StatusCall) :
    last.bind StatusCall.owner = none ↔ last.bind StatusCall.entry = none := by
  cases last with
  | none => simp
  | some call => cases call <;> simp [StatusCall.entry, StatusCall.owner]

/-- The names tell the volume groups of the calls apart as their UIDs do, and a status has
the name of its volume group. -/
structure WellNamed (calls : List StatusCall) : Prop where
  distinct : ∀ first ∈ calls, ∀ second ∈ calls,
    (first.vg.name = second.vg.name ↔ first.vg.metadata.uid = second.vg.metadata.uid)
  named : ∀ vg status, .set vg status ∈ calls → status.name = vg.name

theorem WellNamed.of_append
    {calls later : List StatusCall}
    (wellNamed : WellNamed (calls ++ later)) :
    WellNamed calls where
  distinct first isFirst second isSecond := wellNamed.distinct first
    (List.mem_append_left _ isFirst) second (List.mem_append_left _ isSecond)
  named vg status isCall := wellNamed.named vg status (List.mem_append_left _ isCall)

/-- The entries and the owner references are what the calls leave. -/
structure TableOf (calls : List StatusCall) (nodeStatus : LVMVolumeGroupNodeStatus) :
    Prop where
  entries : Tabulates VGStatus.name (fun write _ => write)
    (calls.map fun call => (call.vg.name, call.entry)) nodeStatus.lvmVGStatus
  owners : Tabulates OwnerReference.name (fun write _ => write)
    (calls.map fun call => (call.vg.name, call.owner)) nodeStatus.metadata.ownerReferences

/-- A reference is replaced where it is, or added. -/
theorem upsertOwnerRef_append
    {reference : OwnerReference}
    {first : List OwnerReference}
    (last : List OwnerReference)
    (outside : ∀ other ∈ first, other.name ≠ reference.name) :
    upsertOwnerRef reference (first ++ last) = first ++ upsertOwnerRef reference last := by
  induction first with
  | nil => rfl
  | cons old rest inductionHypothesis =>
      obtain ⟨different, later⟩ := List.forall_mem_cons.mp outside
      rw [List.cons_append, upsertOwnerRef, if_neg fun same => different same.2,
        inductionHypothesis later, List.cons_append]

theorem writesRow_upsertOwnerRef
    (reference : OwnerReference)
    {references : List OwnerReference}
    {row : Option OwnerReference}
    (kinds : ∀ other ∈ references, other.kind = reference.kind)
    (one : references.filter (·.name == reference.name) = row.toList) :
    WritesRow OwnerReference.name reference.name (some reference) references
      (upsertOwnerRef reference references) := by
  obtain ⟨first, last, rfl, outsideFirst, outsideLast, isRow⟩ := exists_split one
  cases row with
  | none =>
      have absent : ∀ other ∈ first ++ [] ++ last, other.name ≠ reference.name := by
        simpa only [List.append_nil, List.forall_mem_append] using
          ⟨outsideFirst, outsideLast⟩
      have added := upsertOwnerRef_append [] absent
      rw [List.append_nil] at added
      rw [Option.toList_none, added]
      exact writesRow_append reference absent
  | some old =>
      have sameKind : old.kind = reference.kind := kinds old (by simp)
      have replaced : upsertOwnerRef reference (first ++ [old] ++ last) =
          first ++ [reference] ++ last := by
        rw [List.append_assoc, upsertOwnerRef_append _ outsideFirst, List.singleton_append,
          upsertOwnerRef, if_pos ⟨sameKind, isRow old rfl⟩, List.append_assoc]
        rfl
      rw [Option.toList_some, replaced]
      exact .of_split (some old) (some reference) outsideFirst outsideLast isRow (by simp)

namespace TableOf

variable {calls : List StatusCall} {call : StatusCall}
variable {nodeStatus : LVMVolumeGroupNodeStatus}

/-- A volume group has the entry of its last call. -/
theorem entries_filter (table : TableOf calls nodeStatus) (name : String) :
    nodeStatus.lvmVGStatus.filter (·.name == name) =
      ((lastCall name calls).bind StatusCall.entry).toList := by
  rw [table.entries name, track_replace]
  rfl

/-- A volume group is an owner when its last call says so. -/
theorem owners_filter (table : TableOf calls nodeStatus) (name : String) :
    nodeStatus.metadata.ownerReferences.filter (·.name == name) =
      ((lastCall name calls).bind StatusCall.owner).toList := by
  rw [table.owners name, track_replace]
  rfl

/-- Every owner reference is that of the volume group of some call. -/
theorem exists_of_owner
    {reference : OwnerReference}
    (table : TableOf calls nodeStatus)
    (member : reference ∈ nodeStatus.metadata.ownerReferences) :
    ∃ call ∈ calls, reference.kind = "LVMVolumeGroup" ∧
      reference.uid = call.vg.metadata.uid ∧ reference.name = call.vg.name := by
  have tracked := table.owners.mem_iff.mp member
  rw [track_replace, Option.bind_eq_some_iff] at tracked
  obtain ⟨call, isLast, isOwner⟩ := tracked
  refine ⟨call, List.mem_reverse.mp (List.mem_of_find?_eq_some isLast), ?_⟩
  cases call with
  | set vg status =>
      obtain rfl := Option.some.inj isOwner
      exact ⟨rfl, rfl, rfl⟩
  | remove vg => cases isOwner

/-- A volume group has an owner reference exactly when it has an entry. -/
theorem named_iff (table : TableOf calls nodeStatus) (name : String) :
    (∃ reference ∈ nodeStatus.metadata.ownerReferences, reference.name = name) ↔
      ∃ entry ∈ nodeStatus.lvmVGStatus, entry.name = name := by
  have owners := congrArg (· = []) (table.owners_filter name)
  have entries := congrArg (· = []) (table.entries_filter name)
  simp only [List.filter_eq_nil_iff, Option.toList_eq_nil_iff, beq_iff_eq] at owners entries
  rw [← not_iff_not]
  simp only [not_exists, not_and, owners, entries]
  exact bind_owner_eq_none_iff _

/-- What a call does to the entries. -/
theorem change_entries
    (table : TableOf calls nodeStatus)
    (wellNamed : WellNamed (calls ++ [call])) :
    WritesRow VGStatus.name call.vg.name call.entry nodeStatus.lvmVGStatus
      (call.change nodeStatus).lvmVGStatus := by
  have one := table.entries call.vg.name
  cases call with
  | set vg status =>
      have named : status.name = vg.name := wellNamed.named vg status (by simp)
      rw [StatusCall.vg, ← named] at one ⊢
      exact writesRow_put
        { status with deviceDiscoveryPolicy := discoveryPolicyStatus vg } one
  | remove vg =>
      rw [StatusCall.vg] at one ⊢
      rw [StatusCall.change]
      split
      · exact writesRow_eraseP_last (fun _ _ => beq_iff_eq) one
      · rename_i absent
        refine ⟨?_, rfl⟩
        rw [StatusCall.entry, Option.toList_none, List.filter_eq_nil_iff]
        simpa using absent

/-- What a call does to the owner references. -/
theorem change_owners
    (table : TableOf calls nodeStatus)
    (wellNamed : WellNamed (calls ++ [call])) :
    WritesRow OwnerReference.name call.vg.name call.owner nodeStatus.metadata.ownerReferences
      (call.change nodeStatus).metadata.ownerReferences := by
  have one := table.owners call.vg.name
  cases call with
  | set vg status =>
      refine writesRow_upsertOwnerRef
        { kind := "LVMVolumeGroup", uid := vg.metadata.uid, name := vg.metadata.name }
        (fun other member => ?_) one
      obtain ⟨_, -, isKind, -⟩ := table.exists_of_owner member
      exact isKind
  | remove vg =>
      rw [StatusCall.vg] at one ⊢
      rw [StatusCall.change]
      split
      · refine writesRow_eraseP (fun other member => ?_) one
        obtain ⟨earlier, isCall, -, sameUID, sameName⟩ := table.exists_of_owner member
        rw [beq_iff_eq, sameUID, sameName]
        exact (wellNamed.distinct earlier (List.mem_append_left _ isCall) (.remove vg)
          (by simp)).symm
      · rename_i absent
        refine ⟨?_, rfl⟩
        have unlisted : nodeStatus.lvmVGStatus.filter (·.name == vg.name) = [] := by
          rw [List.filter_eq_nil_iff]
          simpa using absent
        rw [table.entries_filter, Option.toList_eq_nil_iff, ← bind_owner_eq_none_iff]
          at unlisted
        rw [table.owners_filter, unlisted, StatusCall.owner]

/-- One more call writes its row. -/
theorem append
    {changed : LVMVolumeGroupNodeStatus}
    (table : TableOf calls nodeStatus)
    (wellNamed : WellNamed (calls ++ [call]))
    (entries : changed.lvmVGStatus = (call.change nodeStatus).lvmVGStatus)
    (owners : changed.metadata.ownerReferences =
      (call.change nodeStatus).metadata.ownerReferences) :
    TableOf (calls ++ [call]) changed where
  entries := by
    rw [List.map_append, entries]
    exact table.entries.append (table.change_entries wellNamed)
  owners := by
    rw [List.map_append, owners]
    exact table.owners.append (table.change_owners wellNamed)

end TableOf

/-! ## Histories of calls -/

/-- A successful call of the vg-manager, or something that leaves the node statuses
alone. -/
inductive StatusStep (r : Reconciler) : World → List StatusCall → World → Prop
  | call {world after events call}
      (ran : Exec (environment r.nodeName) (call.program r).run world events (.ok ())
        after) :
      StatusStep r world [call] after
  | elsewhere {world after}
      (same : after.api.objects .nodeStatus = world.api.objects .nodeStatus) :
      StatusStep r world [] after

/-- The node status is empty or missing. -/
structure Blank (node : String) (world : World) : Prop where
  unique : world.api.Unique .nodeStatus
  settled : StatusHeld node world
  entries : (nodeStatusOf node world).lvmVGStatus = []
  owners : (nodeStatusOf node world).metadata.ownerReferences = []

variable {r : Reconciler} {calls : List StatusCall} {call : StatusCall}
variable {start world after : World} {events : List (Event sig World)}

/-- What a history of calls keeps. -/
structure StatusesRecorded (node : String) (calls : List StatusCall) (world : World) : Prop where
  unique : world.api.Unique .nodeStatus
  settled : StatusHeld node world
  table : TableOf calls (nodeStatusOf node world)

theorem Blank.recorded (blank : Blank r.nodeName start) :
    StatusesRecorded r.nodeName [] start where
  unique := blank.unique
  settled := blank.settled
  table := ⟨blank.entries ▸ .nil, blank.owners ▸ .nil⟩

/-- A call records itself, and leaves the other entries alone. -/
theorem StatusesRecorded.after_call
    (recorded : StatusesRecorded r.nodeName calls world)
    (wellNamed : WellNamed (calls ++ [call]))
    (ran : Exec (environment r.nodeName) (call.program r).run world events (.ok ())
      after) :
    StatusesRecorded r.nodeName (calls ++ [call]) after ∧
      (nodeStatusOf r.nodeName after).lvmVGStatus.filter (·.name != call.vg.name) =
        (nodeStatusOf r.nodeName world).lvmVGStatus.filter (·.name != call.vg.name) := by
  obtain ⟨writes, answer, stores⟩ := StatusCall.program_stores ran
  obtain ⟨settled, entries, owners⟩ :=
    StatusCall.stored_change recorded.unique recorded.settled stores
  refine ⟨⟨Exec.unique ran recorded.unique, settled,
    recorded.table.append wellNamed entries owners⟩, ?_⟩
  rw [entries]
  exact (recorded.table.change_entries wellNamed).others

/-- Every history of calls is recorded. -/
theorem StatusesRecorded.of_history
    (blank : Blank r.nodeName start)
    (history : History (StatusStep r) start calls world) :
    WellNamed calls → StatusesRecorded r.nodeName calls world := by
  refine history.induct (fun calls world => WellNamed calls →
    StatusesRecorded r.nodeName calls world) (fun _ => blank.recorded) ?_
  intro before middle added last holds stepped wellNamed
  have recorded := holds wellNamed.of_append
  cases stepped with
  | call ran => exact (recorded.after_call wellNamed ran).1
  | elsewhere same =>
      rw [List.append_nil]
      have sameStatus : nodeStatusOf r.nodeName last = nodeStatusOf r.nodeName middle := by
        rw [nodeStatusOf, ApiServer.find?, same]
        rfl
      exact ⟨by rw [ApiServer.Unique, same]; exact recorded.unique,
        by rw [StatusHeld, sameStatus]; exact recorded.settled,
        by rw [sameStatus]; exact recorded.table⟩

/-- The volume group of an owner reference is known by its UID. -/
theorem TableOf.owned_iff
    {nodeStatus : LVMVolumeGroupNodeStatus}
    {vg : LVMVolumeGroup}
    (table : TableOf calls nodeStatus)
    (distinct : ∀ call ∈ calls,
      (call.vg.name = vg.name ↔ call.vg.metadata.uid = vg.metadata.uid)) :
    (∃ reference ∈ nodeStatus.metadata.ownerReferences,
        reference.uid = vg.metadata.uid) ↔
      ∃ entry ∈ nodeStatus.lvmVGStatus, entry.name = vg.name := by
  rw [← table.named_iff]
  refine exists_congr fun reference => and_congr_right fun member => ?_
  obtain ⟨call, isCall, -, sameUID, sameName⟩ := table.exists_of_owner member
  rw [sameUID, sameName]
  exact (distinct call isCall).symm

/-- The node status is a map: it has the status of the last call for each volume group
that was not removed, with an owner reference, and a call leaves the others alone. -/
theorem nodeStatus_is_map
    (blank : Blank r.nodeName start)
    (wellNamed : WellNamed calls)
    (history : History (StatusStep r) start calls world) :
    (∀ name, (nodeStatusOf r.nodeName world).lvmVGStatus.filter (·.name == name) =
      ((lastCall name calls).bind StatusCall.entry).toList) ∧
    (∀ vg : LVMVolumeGroup, (∀ call ∈ calls,
        (call.vg.name = vg.name ↔ call.vg.metadata.uid = vg.metadata.uid)) →
      ((∃ reference ∈ (nodeStatusOf r.nodeName world).metadata.ownerReferences,
          reference.uid = vg.metadata.uid) ↔
        ∃ entry ∈ (nodeStatusOf r.nodeName world).lvmVGStatus, entry.name = vg.name)) ∧
    ∀ call events after, WellNamed (calls ++ [call]) →
      Exec (environment r.nodeName) (call.program r).run world events (.ok ()) after →
      (nodeStatusOf r.nodeName after).lvmVGStatus.filter (·.name != call.vg.name) =
        (nodeStatusOf r.nodeName world).lvmVGStatus.filter (·.name != call.vg.name) := by
  have recorded := StatusesRecorded.of_history blank history wellNamed
  exact ⟨recorded.table.entries_filter, fun vg distinct => recorded.table.owned_iff distinct,
    fun call events after wellNamedCall ran => (recorded.after_call wellNamedCall ran).2⟩

/-- Two volume groups get a status, and the first one is removed. -/
def sampleCalls : List StatusCall :=
  let vg1 : LVMVolumeGroup := { metadata := { name := "vg1", uid := "1" }, spec := {} }
  let vg2 : LVMVolumeGroup := { metadata := { name := "vg2", uid := "2" }, spec := {} }
  [.set vg1 { name := "vg1", status := .ready },
    .set vg2 { name := "vg2", status := .progressing }, .remove vg1]

/-- A call without failures. -/
def StatusCall.perform (world : World) (call : StatusCall) :
    List (Event sig World) × Except GoError Unit × World :=
  Program.run (environment "node") (fun _ _ => {}) (call.program (.plain "node")).run world

theorem StatusCall.perform_step
    {call : StatusCall}
    (succeeds : (call.perform world).2.1 = .ok ()) :
    StatusStep (.plain "node") world [call] (call.perform world).2.2 :=
  .call (succeeds ▸ Program.run_exec (environment "node") (fun _ _ => {}) _ world)

/-- The world after these calls. -/
def sampleWorld : World :=
  sampleCalls.foldl (fun world call => (call.perform world).2.2) World.empty

theorem sampleWorld_history :
    History (StatusStep (.plain "node")) World.empty sampleCalls sampleWorld :=
  ((History.single (StatusCall.perform_step (by decide +kernel))).next
    (StatusCall.perform_step (by decide +kernel))).next
      (StatusCall.perform_step (by decide +kernel))

theorem nodeStatus_is_map_sample :
    (nodeStatusOf "node" sampleWorld).lvmVGStatus.filter (·.name == "vg2") =
      ((lastCall "vg2" sampleCalls).bind StatusCall.entry).toList := by
  refine (nodeStatus_is_map (r := .plain "node") ⟨?_, ?_, rfl, rfl⟩ ⟨?_, ?_⟩
    sampleWorld_history).1 "vg2"
  · decide
  · exact nofun
  · decide
  · intro vg status isCall
    simp only [sampleCalls, List.mem_cons, StatusCall.set.injEq, reduceCtorEq,
      List.not_mem_nil, or_false] at isCall
    rcases isCall with ⟨rfl, rfl⟩ | ⟨rfl, rfl⟩ <;> rfl

end Lvms
