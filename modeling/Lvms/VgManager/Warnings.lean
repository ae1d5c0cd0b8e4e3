import Lvms.VgManager.Evidence
import Lvms.Outcomes
import Mathlib.Data.List.TakeWhile

/-!
# What a warning means

A reconciliation that warns about its volume group reports the failure in the status
of the node next, and ends. Whether the report is stored depends on two answers
that come after the warning: for RAID the logical volumes are listed first, and the
node status is read before it is written.
-/

namespace Lvms

open Interaction Interaction.Program

/-! ## Warnings and the status they should leave -/

/-- The call sends a warning about an object. -/
def warnsAbout (name : String) : Request → Bool
  | .event object true _ _ => object == name
  | _ => false

/-- The events from the first warning about an object on. -/
def fromWarning (name : String) (events : List (Event sig World)) :
    List (Event sig World) :=
  events.dropWhile fun event => !warnsAbout name event.request

/-- The call writes to the API server. -/
def writesApi : Request → Bool
  | .api request => request.effect != .read
  | _ => false

/-- The call does not list the logical volumes of a volume group or read a node
status, or it does so without an error; that the status is missing is no error. -/
def readable (name : String) (event : Event sig World) : Bool :=
  match event.request with
  | .query (.lvs listed) =>
      listed != name || (event.request.failure event.response).isNone
  | .api (.get .nodeStatus _) =>
      (event.request.failure event.response).all GoError.isNotFound
  | _ => true

/-- The stored state of a volume group on a node. -/
def storedState (node name : String) (world : World) : Option VGStatusType := do
  let nodeStatus ← world.api.find? .nodeStatus node
  let entry ← nodeStatus.lvmVGStatus.find? (·.name == name)
  return entry.status

/-- The stored state says that something is wrong. -/
def Faulty (node name : String) (world : World) : Prop :=
  storedState node name world = some .failed ∨
    storedState node name world = some .degraded

/-! ## Storing a status -/

/-- The entry that is put is the one found under its name. -/
theorem find?_putVGStatus
    {status : VGStatus}
    {entries : List VGStatus} :
    (putVGStatus status entries).find? (·.name == status.name) = some status := by
  have listed : ∃ entry ∈ putVGStatus status entries, entry.name = status.name := by
    unfold putVGStatus
    split
    · rename_i present
      obtain ⟨old, member, named⟩ := List.any_eq_true.mp present
      exact ⟨status, List.mem_map.mpr ⟨old, member, if_pos named⟩, rfl⟩
    · exact ⟨status, by simp, rfl⟩
  cases found : (putVGStatus status entries).find? (·.name == status.name) with
  | none =>
      obtain ⟨entry, member, named⟩ := listed
      exact absurd named (by simpa using List.find?_eq_none.mp found entry member)
  | some entry =>
      rw [eq_of_mem_putVGStatus (List.mem_of_find?_eq_some found)
        (by simpa using List.find?_some found)]

section Storing

variable {r : Reconciler} {vg : LVMVolumeGroup} {vgs : List VolumeGroup}
variable {status : VGStatus} {world after : World} {events : List (Event sig World)}
variable {node name : String} {result : Except GoError Bool}

/-- The node status has the entry that was put for a volume group. -/
def Lists (status : VGStatus) (nodeStatus : LVMVolumeGroupNodeStatus) : Prop :=
  ∃ put entries, nodeStatus.lvmVGStatus = putVGStatus put entries ∧
    put.name = status.name ∧ put.status = status.status

/-- The state that is stored with a node status. -/
theorem storedState_of_lists
    {nodeStatus : LVMVolumeGroupNodeStatus}
    (found : world.api.find? .nodeStatus node = some nodeStatus)
    (lists : Lists status nodeStatus) :
    storedState node status.name world = some status.status := by
  obtain ⟨put, entries, listed, named, state⟩ := lists
  simp [storedState, found, listed, ← named, ← state, find?_putVGStatus]

/-- The ways in which setting a status can end. -/
theorem setVolumeGroupStatus_stores
    (ran : Exec (environment r.nodeName) (r.setVolumeGroupStatus vg status).run world
      events result after) :
    ∃ outcome, Client.Stores .nodeStatus { metadata := { name := r.nodeName } }
        (fun nodeStatus => .ok { nodeStatus with
          metadata := nodeStatus.metadata.setOwnerReference vg.metadata
          lvmVGStatus := putVGStatus
            { status with deviceDiscoveryPolicy := discoveryPolicyStatus vg }
            nodeStatus.lvmVGStatus })
        world events outcome after ∧
      (result = .ok true ↔ ∃ stored, outcome = .ok stored ∧ stored.1 ≠ .none) := by
  obtain ⟨wrapped, rfl, wraps⟩ := Exec.run_bind_pure_iff.mp ran
  obtain ⟨inner, rfl, drops⟩ := Exec.run_mapError_iff.mp wraps
  obtain ⟨outcome, rfl, stores⟩ := Exec.run_bind_pure_iff.mp drops
  refine ⟨outcome, Client.createOrUpdateObject_stores stores, ?_⟩
  cases outcome <;> simp [Except.map, Except.mapError]

/-- All writes to the API server succeeded. -/
def Written (events : List (Event sig World)) : Prop :=
  ∀ event ∈ events, writesApi event.request = true →
    event.request.failure event.response = none

instance (events : List (Event sig World)) : Decidable (Written events) :=
  inferInstanceAs (Decidable (∀ event ∈ events, _ → _))

/-- The answer to a lookup of a node status is readable or an error. -/
theorem readable_look
    {look : Event sig World}
    (asked : look.request = .api (.get .nodeStatus node)) :
    readable name look =
      (look.request.failure look.response).all GoError.isNotFound := by
  simp only [readable]
  split
  · rename_i isQuery
    rw [asked] at isQuery
    cases isQuery
  · rfl
  · rename_i other
    exact absurd asked (other node)

theorem writesApi_of_store
    {kind : Kind}
    {object : kind.Object}
    {request : Request}
    (stores : request = .api (.update kind object) ∨
      request = .api (.create kind object)) :
    writesApi request = true := by
  rcases stores with rfl | rfl <;> rfl

/-- A write counts as readable. -/
theorem readable_write
    {write : Event sig World}
    (written : writesApi write.request = true) :
    readable name write = true := by
  simp only [readable]
  split
  · rename_i isQuery
    rw [isQuery] at written
    cases written
  · rename_i isRead
    rw [isRead] at written
    cases written
  · rfl

/-- An update of a node status that keeps the finalizers is stored. -/
theorem storedState_of_update
    {existing object : LVMVolumeGroupNodeStatus}
    (collected : world.api.Collected .nodeStatus)
    (found : world.api.find? .nodeStatus node = some existing)
    (named : object.metadata.name = node)
    (kept : object.metadata.finalizers = existing.metadata.finalizers)
    (lists : Lists status object) :
    storedState node status.name { world with
      api := world.api.alter .nodeStatus object.metadata.name fun old =>
        ApiServer.stored .nodeStatus old object } = some status.status := by
  have remains : ¬ (existing.metadata.deletionTimestamp.isSome &&
      object.metadata.finalizers.isEmpty) = true := by
    have waits := collected existing (List.mem_of_find?_eq_some found)
    simpa [kept, Kind.metadata] using waits
  subst named
  exact storedState_of_lists
    (ApiServer.find?_alter_of_some found (if_neg remains) rfl) lists

/-- A status that could not be stored could not be read. -/
theorem setVolumeGroupStatus_state
    (collected : world.api.Collected .nodeStatus)
    (written : Written events)
    (ran : Exec (environment r.nodeName) (r.setVolumeGroupStatus vg status).run world
      events result after) :
    (after = world ∧ ∃ event ∈ events, readable name event = false) ∨
    ((∀ event ∈ events, readable name event = true) ∧
      storedState r.nodeName status.name after = some status.status) := by
  obtain ⟨outcome, stores, -⟩ := setVolumeGroupStatus_stores ran
  cases stores with
  | unread asked failed other =>
      refine .inl ⟨rfl, _, .head _, ?_⟩
      rw [readable_look asked, failed]
      exact other
  | rejected asked refused =>
      obtain ⟨_, -, impossible⟩ | ⟨-, impossible⟩ := refused <;> cases impossible
  | unchanged asked answered found same =>
      refine .inr ⟨?_, ?_⟩
      · intro event member
        obtain rfl := List.mem_singleton.mp member
        rw [readable_look asked, answered]
        rfl
      · exact storedState_of_lists found ⟨_, _,
          (congrArg LVMVolumeGroupNodeStatus.lvmVGStatus (Except.ok.inj same)).symm,
          rfl, rfl⟩
  | unwritten asked writes failed =>
      have succeeded := written _ (.tail _ (.head _)) (writesApi_of_store writes)
      rw [failed] at succeeded
      cases succeeded
  | updated asked answered found changed differs replaced writes succeeded =>
      obtain rfl := Except.ok.inj changed
      have isWrite := writesApi_of_store (.inl writes)
      refine .inr ⟨by simp [readable_look asked, answered, readable_write isWrite], ?_⟩
      exact storedState_of_update collected found (ApiServer.nameOf_of_find? found) rfl
        ⟨_, _, rfl, rfl, rfl⟩
  | created asked answered missing changed writes succeeded unnamed =>
      obtain rfl := Except.ok.inj changed
      have isWrite := writesApi_of_store (.inr writes)
      refine .inr ⟨?_, ?_⟩
      · simp [readable_look asked, answered, readable_write isWrite, ApiServer.missing,
          GoError.isNotFound]
      · exact storedState_of_lists (ApiServer.find?_set_append missing rfl)
          ⟨{ status with deviceDiscoveryPolicy := discoveryPolicyStatus vg }, [],
            rfl, rfl, rfl⟩

/-- An event that is sent counts as readable. -/
theorem readable_report
    {event : Event sig World}
    (reports : event.request.effect = .report) :
    readable name event = true := by
  simp only [readable]
  split
  · rename_i isQuery
    rw [isQuery] at reports
    cases reports
  · rename_i isRead
    rw [isRead] at reports
    cases reports
  · rfl

/-- The listing of the volumes is one call, readable unless it fails. -/
theorem listLVs_readable
    {result : Except GoError (List (List LogicalVolume))}
    (ran : Exec (environment node) (Lvm.listLVs name).run world events result after) :
    ∃ event, events = [event] ∧ readable name event = (errorOf result).isNone := by
  obtain ⟨choice, rfl, rfl, -⟩ := exec_call_iff.mp ran
  refine ⟨_, rfl, ?_⟩
  simp [readable, Environment.event, environment, Request.failure]

/-- Without its RAID status nothing is known about a volume group whose logical
volumes cannot be listed. -/
theorem applyRAIDStatus_read
    {config : RAIDConfig}
    {result : Except GoError VGStatus}
    (ran : Exec (environment r.nodeName) (r.applyRAIDStatus vg config vgs status).run
      world events result after) :
    ((∃ error, result = .error error) ∧
        ∃ event ∈ events, readable vg.name event = false) ∨
      ((∃ final, result = .ok final) ∧
        ∀ event ∈ events, readable vg.name event = true) := by
  rcases Exec.run_bind_iff.mp ran with
    ⟨error, rfl, failed⟩ | ⟨report, first, between, second, head, rest, rfl⟩
  · obtain ⟨inner, isError, lists⟩ := Exec.run_mapError_iff.mp failed
    obtain ⟨event, rfl, answer⟩ := listLVs_readable lists
    refine .inl ⟨⟨error, rfl⟩, event, .head _, ?_⟩
    cases inner with
    | error inner => exact answer
    | ok report => cases isError
  · obtain ⟨event, rfl, answer⟩ := listLVs_readable (Exec.run_mapError_ok_iff.mp head)
    obtain ⟨_, measured, _, returned, measures, returns, rfl⟩ := Exec.run_lift_bind_iff.mp rest
    have reports := (call_uses _ (.head _) : (updateRAIDMetrics _ _).Uses
      (Within [.report])).events_allowed measures
    have ends : returned = [] ∧ ∃ final, result = .ok final := by
      split at returns
      all_goals
        obtain ⟨rfl, rfl, -⟩ := Exec.run_pure_iff.mp returns
        exact ⟨rfl, _, rfl⟩
    obtain ⟨rfl, isOk⟩ := ends
    refine .inr ⟨isOk, ?_⟩
    simp only [List.append_nil, List.singleton_append, List.forall_mem_cons]
    exact ⟨answer, fun event member =>
      readable_report (List.mem_singleton.mp (reports event member))⟩

/-- The state that ends up in the status: for RAID it can be degraded instead. -/
theorem finishStatus_state
    (named : status.name = vg.name)
    (collected : world.api.Collected .nodeStatus)
    (written : Written events)
    (ran : Exec (environment r.nodeName) (r.finishStatus vg vgs status).run world events
      result after) :
    (after = world ∧ ∃ event ∈ events, readable vg.name event = false) ∨
    ((∀ event ∈ events, readable vg.name event = true) ∧
      (storedState r.nodeName vg.name after = some status.status ∨
        storedState r.nodeName vg.name after = some .degraded)) := by
  unfold Reconciler.finishStatus at ran
  split at ran
  · refine (setVolumeGroupStatus_state collected written ran).imp_right fun stored => ?_
    rw [named] at stored
    exact ⟨stored.1, .inl stored.2⟩
  · rcases Exec.run_bind_iff.mp ran with
      ⟨error, rfl, failed⟩ | ⟨final, first, between, second, head, rest, rfl⟩
    · obtain ⟨inner, isError, applies⟩ := Exec.run_mapError_iff.mp failed
      obtain ⟨rfl, -⟩ := Exec.of_reading applies (r.applyRAIDStatus_uses ..)
      rcases applyRAIDStatus_read applies with ⟨-, unread⟩ | ⟨⟨_, rfl⟩, -⟩
      · exact .inl ⟨rfl, unread⟩
      · cases isError
    · have applies := Exec.run_mapError_ok_iff.mp head
      obtain ⟨rfl, -⟩ := Exec.of_reading applies (r.applyRAIDStatus_uses ..)
      obtain ⟨sameName, state⟩ := r.applyRAIDStatus_yields.sound applies final rfl
      rcases applyRAIDStatus_read applies with ⟨⟨_, isError⟩, -⟩ | ⟨-, reads⟩
      · cases isError
      have later : Written second := fun event member =>
        written event (List.mem_append_right _ member)
      rcases setVolumeGroupStatus_state collected later rest with
        ⟨rfl, event, member, unread⟩ | ⟨readsToo, stored⟩
      · exact .inl ⟨rfl, event, List.mem_append_right _ member, unread⟩
      · rw [sameName, named] at stored
        refine .inr ⟨List.forall_mem_append.mpr ⟨reads, readsToo⟩, ?_⟩
        rcases state with same | degraded
        · exact .inl (same ▸ stored)
        · exact .inr (degraded ▸ stored)

/-- A failure is reported if what it needs can be read. -/
theorem reportFailure_faulty
    {devices : FilteredBlockDevices}
    {error : GoError}
    (collected : world.api.Collected .nodeStatus)
    (written : Written events)
    (ran : Exec (environment r.nodeName) (r.reportFailure vg vgs devices error) world
      events () after) :
    Faulty r.nodeName vg.name after ↔
      (∀ event ∈ events, readable vg.name event = true) ∨
        Faulty r.nodeName vg.name world := by
  obtain ⟨during, result, _, _, sets, ends, rfl⟩ := Exec.bind_iff.mp ran
  obtain ⟨rfl, -, rfl⟩ := Exec.pure_iff.mp ends
  rw [List.append_nil] at written ⊢
  unfold Reconciler.setVolumeGroupFailedStatus at sets
  dsimp only at sets
  have outcome : (after = world ∧ ∃ event ∈ during, readable vg.name event = false) ∨
      ((∀ event ∈ during, readable vg.name event = true) ∧
        Faulty r.nodeName vg.name after) := by
    split at sets
    · refine (finishStatus_state rfl collected written sets).imp_right fun stored => ?_
      exact ⟨stored.1, .inr (stored.2.elim id id)⟩
    · exact finishStatus_state rfl collected written sets
  rcases outcome with ⟨rfl, event, member, unread⟩ | ⟨reads, faulty⟩
  · constructor
    · exact .inr
    · rintro (reads | faulty)
      · rw [reads event member] at unread
        cases unread
      · exact faulty
  · exact ⟨fun _ => .inl reads, fun _ => faulty⟩

end Storing

/-! ## What follows a warning -/

/-- The call does not warn about the volume group. -/
def Silent (name : String) (request : Request) : Prop :=
  warnsAbout name request = false

/-- The call does not warn about the volume group or change a node status. -/
def Calm (name : String) (request : Request) : Prop :=
  Silent name request ∧ request.effect.touchesKind .nodeStatus = false

section Footprints

variable {α : Type} {name : String} {effects : List Effect} {program : Program sig α}

/-- Programs that do not report are silent. -/
theorem silent
    (uses : program.Uses (Within effects))
    (absent : .report ∉ effects) :
    program.Uses (Silent name) := by
  refine uses.mono fun request allowed => ?_
  unfold Silent warnsAbout
  split
  · exact absurd allowed absent
  · rfl

/-- Programs that neither report nor touch node statuses are calm. -/
theorem calm
    (uses : program.Uses (Within effects))
    (absent : .report ∉ effects)
    (untouched : ∀ effect ∈ effects, effect.touchesKind .nodeStatus = false) :
    program.Uses (Calm name) :=
  ((silent uses absent).both uses).mono fun _ allowed =>
    ⟨allowed.1, untouched _ allowed.2⟩

end Footprints

/-- The events do not warn about the volume group, and the node statuses are the
same afterwards. -/
structure Calmly
    (name : String)
    (world : World)
    (events : List (Event sig World))
    (after : World) : Prop where
  silent : ∀ event ∈ events, Silent name event.request
  kept : after.api.objects .nodeStatus = world.api.objects .nodeStatus

/-- The events end with a warning about the volume group. -/
inductive Warns (name : String) (world : World) :
    List (Event sig World) → World → Prop
  | intro {early loud after}
      (calmly : Calmly name world early after)
      (sent : ∀ event ∈ loud, event.request.effect = .report)
      (warned : ∃ event ∈ loud, warnsAbout name event.request = true) :
      Warns name world (early ++ loud) after

/-- A warning about the volume group is sent, the failure is reported, and that is
the end. -/
inductive Reported (r : Reconciler) (vg : LVMVolumeGroup) (world : World) :
    List (Event sig World) → World → Prop
  | intro {first late middle after vgs devices error}
      (warns : Warns vg.name world first middle)
      (reports : Exec (environment r.nodeName) (r.reportFailure vg vgs devices error)
        middle late () after) :
      Reported r vg world (first ++ late) after

section Executions

variable {name node : String} {world middle after : World}
variable {early late : List (Event sig World)}

/-- Calm programs run calmly. -/
theorem Calmly.of_uses
    {α : Type}
    {program : Program sig α}
    {value : α}
    (uses : program.Uses (Calm name))
    (ran : Exec (environment node) program world early value after) :
    Calmly name world early after where
  silent event member := (uses.events_allowed ran event member).1
  kept := Exec.objects_of_uses ran (uses.mono fun _ allowed => allowed.2)

/-- Calm parts together are calm. -/
theorem Calmly.append
    (first : Calmly name world early middle)
    (second : Calmly name middle late after) :
    Calmly name world (early ++ late) after :=
  ⟨List.forall_mem_append.mpr ⟨first.silent, second.silent⟩,
    second.kept.trans first.kept⟩

/-- A calm part before a warning changes nothing about it. -/
theorem Warns.prepend
    (first : Calmly name world early middle)
    (warns : Warns name middle late after) :
    Warns name world (early ++ late) after := by
  obtain ⟨calmly, sent, warned⟩ := warns
  rw [← List.append_assoc]
  exact ⟨first.append calmly, sent, warned⟩

/-- A calm part before a report changes nothing about it. -/
theorem Reported.prepend
    {r : Reconciler}
    {vg : LVMVolumeGroup}
    (first : Calmly vg.name world early middle)
    (reported : Reported r vg middle late after) :
    Reported r vg world (early ++ late) after := by
  obtain ⟨warns, reports⟩ := reported
  rw [← List.append_assoc]
  exact ⟨warns.prepend first, reports⟩

end Executions

/-- A program that does nothing worth a warning, or fails in a way that is bad. -/
def Careful
    {α : Type}
    (node name : String)
    (bad : World → List (Event sig World) → World → Prop)
    (program : Go α) : Prop :=
  ∀ ⦃world events result after⦄,
    Exec (environment node) program.run world events result after →
      Calmly name world events after ∨
        (∃ error, result = .error error) ∧ bad world events after

/-- A program that only warns to report the failure and end. -/
def Answers {α : Type} (r : Reconciler) (vg : LVMVolumeGroup) (program : Go α) : Prop :=
  ∀ ⦃world events result after⦄,
    Exec (environment r.nodeName) program.run world events result after →
      (∀ event ∈ events, Silent vg.name event.request) ∨ Reported r vg world events after

section Judgments

variable {α β : Type} {node name : String}
variable {bad : World → List (Event sig World) → World → Prop}
variable {r : Reconciler} {vg : LVMVolumeGroup}
variable {program : Go α} {next : α → Go β}

/-- Calm programs are careful. -/
theorem Careful.of_uses (uses : program.run.Uses (Calm name)) :
    Careful node name bad program :=
  fun _ _ _ _ ran => .inl (.of_uses uses ran)

/-- Careful programs in sequence are careful. -/
theorem Careful.bind
    (prepend : ∀ {world middle after early late}, Calmly name world early middle →
      bad middle late after → bad world (early ++ late) after)
    (first : Careful node name bad program)
    (rest : ∀ value, Careful node name bad (next value)) :
    Careful node name bad (program >>= next) := by
  intro world events result after ran
  rcases Exec.run_bind_iff.mp ran with
    ⟨error, rfl, failed⟩ | ⟨value, early, middle, late, head, tail, rfl⟩
  · rcases first failed with calmly | ⟨-, isBad⟩
    · exact .inl calmly
    · exact .inr ⟨⟨error, rfl⟩, isBad⟩
  · rcases first head with calmly | ⟨⟨_, isError⟩, -⟩
    · rcases rest value tail with calmlyToo | ⟨failed, isBad⟩
      · exact .inl (calmly.append calmlyToo)
      · exact .inr ⟨failed, prepend calmly isBad⟩
    · cases isError

theorem Answers.of_uses (uses : program.run.Uses (Silent vg.name)) :
    Answers r vg program :=
  fun _ _ _ _ ran => .inl (uses.events_allowed ran)

/-- Careful programs answer for their warnings. -/
theorem Answers.of_careful
    (careful : Careful r.nodeName vg.name (Reported r vg) program) :
    Answers r vg program :=
  fun _ _ _ _ ran => (careful ran).imp Calmly.silent And.right

/-- A careful program can go on with one that answers for its warnings. -/
theorem Answers.bind
    (first : Careful r.nodeName vg.name (Reported r vg) program)
    (rest : ∀ value, Answers r vg (next value)) :
    Answers r vg (program >>= next) := by
  intro world events result after ran
  rcases Exec.run_bind_iff.mp ran with
    ⟨error, rfl, failed⟩ | ⟨value, early, middle, late, head, tail, rfl⟩
  · exact (first failed).imp Calmly.silent And.right
  · rcases first head with calmly | ⟨⟨_, isError⟩, -⟩
    · rcases rest value tail with silentToo | reported
      · exact .inl (List.forall_mem_append.mpr ⟨calmly.silent, silentToo⟩)
      · exact .inr (reported.prepend calmly)
    · cases isError

end Judgments

namespace Reconciler

variable {r : Reconciler} {vg : LVMVolumeGroup} {vgs : List VolumeGroup}
variable {devices : FilteredBlockDevices} {world after : World}
variable {events : List (Event sig World)}
variable {reason : String}

/-- The warning about the volume group itself is the last one that is sent. -/
theorem ownerWarnings
    {message ownerMessage : String}
    {references : List OwnerReference}
    (ran : Exec (environment r.nodeName)
      (ownerEvents true reason ownerMessage references >>= fun _ =>
        eventf vg.name true reason message) world events () after) :
    (∀ event ∈ events, event.request.effect = .report) ∧
      ∃ event ∈ events, warnsAbout vg.name event.request = true := by
  constructor
  · have uses := (ownerEvents_uses true reason ownerMessage references).bind
      fun _ => eventf_uses vg.name true reason message
    exact fun event member => List.mem_singleton.mp (uses.events_allowed ran event member)
  · obtain ⟨_, _, _, _, -, warns, rfl⟩ := Exec.bind_iff.mp ran
    obtain ⟨choice, rfl, -⟩ := exec_call_iff.mp warns
    exact ⟨_, List.mem_append_right _ (.head _), by simp [warnsAbout, Environment.event]⟩

/-- A warning event is a warning. -/
theorem warningEvent_warns
    {error : GoError}
    (ran : Exec (environment r.nodeName) (r.warningEvent vg reason error) world events ()
      after) :
    Warns vg.name world events after := by
  obtain ⟨rfl, -⟩ := Exec.of_reading ran (r.warningEvent_uses ..)
  obtain ⟨_, found, _, loud, looks, warns, rfl⟩ := Exec.bind_iff.mp ran
  have calmly : Calmly vg.name after _ after :=
    ⟨(silent (Client.get_uses ..) (by decide)).events_allowed looks, rfl⟩
  cases found with
  | ok nodeStatus =>
      obtain ⟨_, _, _, _, tells, others, rfl⟩ := Exec.bind_iff.mp warns
      obtain ⟨sent, event, member, warned⟩ := ownerWarnings others
      have told := (eventf_uses ..).events_allowed tells
      refine ⟨calmly, ?_, event, List.mem_append_right _ member, warned⟩
      exact List.forall_mem_append.mpr
        ⟨fun event member => List.mem_singleton.mp (told event member), sent⟩
  | error missing =>
      obtain ⟨sent, warned⟩ := ownerWarnings warns
      exact ⟨calmly, sent, warned⟩

/-- A warning and an error. -/
theorem warningEvent_throw_careful
    {α : Type}
    {error thrown : GoError} :
    Careful r.nodeName vg.name (Warns vg.name)
      (do r.warningEvent vg reason error; throw thrown : Go α) := by
  intro world events result after ran
  obtain ⟨_, first, middle, second, warns, throws, rfl⟩ := Exec.run_lift_bind_iff.mp ran
  obtain ⟨rfl, rfl, rfl⟩ := Exec.run_throw_iff.mp throws
  rw [List.append_nil]
  exact .inr ⟨⟨thrown, rfl⟩, warningEvent_warns warns⟩

/-- `failWith` warns and reports the failure. -/
theorem failWith_reported
    {α : Type}
    {error : GoError}
    {result : Except GoError α}
    (ran : Exec (environment r.nodeName) (r.failWith vg vgs devices reason error).run
      world events result after) :
    (∃ error, result = .error error) ∧ Reported r vg world events after := by
  obtain ⟨_, first, middle, second, warns, rest, rfl⟩ := Exec.run_lift_bind_iff.mp ran
  obtain ⟨_, late, _, _, reports, throws, rfl⟩ := Exec.run_lift_bind_iff.mp rest
  obtain ⟨rfl, rfl, rfl⟩ := Exec.run_throw_iff.mp throws
  rw [List.append_nil]
  exact ⟨⟨error, rfl⟩, warningEvent_warns warns, reports⟩

theorem failWith_careful {α : Type} {reason : String} {error : GoError} :
    Careful r.nodeName vg.name (Reported r vg)
      (r.failWith vg vgs devices reason error : Go α) :=
  fun _ _ _ _ ran => .inr (failWith_reported ran)

/-- A step whose error is reported. -/
theorem orFailWith_careful
    {wrap : GoError → GoError}
    {step : Go Unit}
    (uses : step.run.Uses (Calm vg.name)) :
    Careful r.nodeName vg.name (Reported r vg)
      (r.orFailWith vg vgs devices reason wrap step) := by
  refine .bind Reported.prepend (.of_uses (.run_attempt uses)) fun outcome => ?_
  cases outcome with
  | ok done => exact .of_uses trivial
  | error error => exact failWith_careful

theorem validateOrFail_careful :
    Careful r.nodeName vg.name (Reported r vg) (r.validateOrFail vg vgs devices) :=
  orFailWith_careful (calm (r.validateLVs_uses _) (by decide) (by decide))

/-- Removing devices warns before it fails. -/
theorem removeDevices_careful (paths : List String) :
    Careful r.nodeName vg.name (Warns vg.name) (r.removeDevices vg paths) := by
  have shrinks (run : Command) (isShrink : run.effect = .shrink) :
      (command run).run.Uses (Calm vg.name) :=
    calm (command_uses run) (by simp [isShrink]) (by simp [isShrink, Effect.touchesKind])
  induction paths with
  | nil => exact .of_uses trivial
  | cons path rest inductionHypothesis =>
      refine .bind Warns.prepend (.of_uses (.run_attempt (.run_mapError
        (shrinks _ rfl)))) fun reduced => ?_
      cases reduced with
      | error error => exact warningEvent_throw_careful
      | ok done =>
          exact .bind Warns.prepend (.of_uses (.run_attempt (.run_mapError
            (shrinks _ rfl)))) fun _ => inductionHypothesis

theorem normalEvent_calm {reason message : String} :
    (r.normalEvent vg reason message).Uses (Calm vg.name) := by
  have owners (ownerMessage : String) (references : List OwnerReference) :
      (ownerEvents false reason ownerMessage references).Uses (Calm vg.name) := by
    induction references with
    | nil => trivial
    | cons reference rest inductionHypothesis =>
        exact .bind ⟨⟨rfl, rfl⟩, fun _ => trivial⟩ fun _ => inductionHypothesis
  dsimp only [normalEvent]
  split
  · trivial
  · refine .bind (calm (Client.get_uses ..) (by decide) (by decide)) fun found => ?_
    cases found with
    | ok nodeStatus =>
        exact .bind ⟨⟨rfl, rfl⟩, fun _ => trivial⟩ fun _ => .bind (owners ..) fun _ =>
          ⟨⟨rfl, rfl⟩, fun _ => trivial⟩
    | error missing =>
        exact .bind (owners ..) fun _ => ⟨⟨rfl, rfl⟩, fun _ => trivial⟩

/-- After a warning, the removal of devices ends. -/
theorem deleteRemovedDevices_careful (existing : VolumeGroup) :
    Careful r.nodeName vg.name (Warns vg.name) (r.deleteRemovedDevices existing vg) := by
  have last (paths : List String) (message : String) :
      Careful r.nodeName vg.name (Warns vg.name)
        (r.removeDevices vg paths >>= fun _ =>
          (liftM (r.normalEvent vg "DeviceRemoved" message) : Go Unit) >>= fun _ =>
            pure true) :=
    .bind Warns.prepend (removeDevices_careful paths) fun _ =>
      .of_uses (.run_bind (.run_lift normalEvent_calm) fun _ => trivial)
  dsimp only [deleteRemovedDevices]
  split
  · exact .of_uses trivial
  split
  · exact .of_uses trivial
  refine .bind Warns.prepend (.of_uses (calm (buildDevicePathMappings_uses _)
    (by decide) (by decide))) fun mappings => ?_
  refine .bind Warns.prepend (.of_uses (.run_lift (calm (unmatchedPVs_uses ..)
    (by decide) (by decide)))) fun devices => ?_
  split
  · exact .of_uses trivial
  split
  · exact .of_uses trivial
  split
  · exact .bind Warns.prepend (.of_uses (.run_mapError trivial)) fun _ => last ..
  · exact last ..

theorem finishStatus_silent {status : VGStatus} :
    (r.finishStatus vg vgs status).run.Uses (Silent vg.name) := by
  have sets (final : VGStatus) :
      (r.setVolumeGroupStatus vg final).run.Uses (Silent vg.name) :=
    .run_bind (.run_mapError (silent (Client.createOrUpdate_uses ..) (by decide)))
      fun _ => trivial
  unfold finishStatus
  split
  · exact sets _
  · refine .run_bind (.run_mapError ?_) fun final => sets final
    refine .run_bind (.run_mapError (silent (Lvm.listLVs_uses _) (by decide)))
      fun report => ?_
    refine .run_bind (.run_lift ⟨rfl, fun _ => trivial⟩) fun _ => ?_
    split <;> trivial

theorem reportFailure_silent {error : GoError} :
    (r.reportFailure vg vgs devices error).Uses (Silent vg.name) :=
  .bind finishStatus_silent fun _ => trivial

theorem applyLVMDConfig_silent :
    (r.applyLVMDConfig vg vgs devices).run.Uses (Silent vg.name) := by
  have reports {α : Type} (error : GoError) :
      (do
        r.reportFailure vg vgs devices error
        throw error : Go α).run.Uses (Silent vg.name) :=
    .run_bind (.run_lift reportFailure_silent) fun _ => trivial
  have announces (reason message : String) :
      (r.normalEvent vg reason message).Uses (Silent vg.name) :=
    normalEvent_calm.mono fun _ allowed => allowed.1
  have updates (old new : Lvmd.Config) (wasMissing : Bool) :
      (r.updateLVMDConfigAfterReconcile vg old new wasMissing).run.Uses
        (Silent vg.name) := by
    have saves : (do
        Fallible.mapError
          (GoError.wrapped ("failed to update lvmd config file to update volume " ++
            "group " ++ vg.name))
          (Lvmd.CachedFileConfig.save r.lvmd new)
        r.normalEvent vg "LVMDConfigUpdated"
          "updated lvmd config with new deviceClasses" : Go Unit).run.Uses
          (Silent vg.name) :=
      .run_bind (.run_mapError (silent (Lvmd.CachedFileConfig.save_uses ..) (by decide)))
        fun _ => .run_lift (announces ..)
    dsimp only [updateLVMDConfigAfterReconcile]
    split
    · trivial
    split
    · exact .run_bind (.run_lift (announces ..)) fun _ => saves
    · exact saves
  refine .run_bind (.run_attempt (silent (Lvmd.CachedFileConfig.load_uses _) (by decide)))
    fun loaded => ?_
  cases loaded with
  | error error => exact reports _
  | ok loaded =>
      refine .run_bind trivial fun newConfig => ?_
      refine .run_bind (.run_attempt (updates ..)) fun updated => ?_
      cases updated with
      | ok done => trivial
      | error error => exact reports _

theorem announceReady_silent :
    (r.announceReady vg vgs devices).run.Uses (Silent vg.name) := by
  refine .run_bind (.run_mapError finishStatus_silent) fun updated => ?_
  split
  · exact .run_lift (normalEvent_calm.mono fun _ allowed => allowed.1)
  · trivial

/-- Telling lvmd and setting the ready state warn about nothing. -/
theorem publish_answers {result : Result} :
    Answers r vg (do
      r.applyLVMDConfig vg vgs devices
      r.announceReady vg vgs devices
      return result) :=
  .of_uses (.run_bind applyLVMDConfig_silent fun _ =>
    .run_bind announceReady_silent fun _ => trivial)

theorem refreshVGs_calm : refreshVGs.run.Uses (Calm vg.name) :=
  calm refreshVGs_uses (by decide) (by decide)

/-- Every warning at the end of the path of an existing volume group is reported. -/
theorem finishExisting_answers : Answers r vg (r.finishExisting vg vgs devices) := by
  dsimp only [finishExisting]
  split
  · exact .bind validateOrFail_careful fun _ => publish_answers
  · exact publish_answers

/-- Every warning about an existing volume group is reported. -/
theorem verifyExisting_answers (existing : VolumeGroup) :
    Answers r vg (r.verifyExisting vg vgs devices existing) := by
  intro world events result after ran
  obtain ⟨deleted, first, middle, second, deletes, rest, rfl⟩ := Exec.run_attempt_bind_iff.mp ran
  have careful := deleteRemovedDevices_careful existing
    deletes
  cases deleted with
  | error error =>
      obtain ⟨_, late, _, _, reports, throws, rfl⟩ := Exec.run_lift_bind_iff.mp rest
      obtain ⟨rfl, -, rfl⟩ := Exec.run_throw_iff.mp throws
      rw [List.append_nil]
      rcases careful with calmly | ⟨-, warns⟩
      · exact .inl (List.forall_mem_append.mpr
          ⟨calmly.silent, reportFailure_silent.events_allowed reports⟩)
      · exact .inr ⟨warns, reports⟩
  | ok deleted =>
      rcases careful with calmly | ⟨⟨_, isError⟩, -⟩
      · have continues : Answers r vg (do
            let vgs ← if deleted then refreshVGs else pure vgs
            r.finishExisting vg vgs devices) := by
          dsimp only
          split
          · exact .bind (.of_uses refreshVGs_calm) fun vgs => finishExisting_answers
          · exact .bind (.of_uses trivial) fun vgs => finishExisting_answers
        rcases continues rest with silent | reported
        · exact .inl (List.forall_mem_append.mpr ⟨calmly.silent, silent⟩)
        · exact .inr (reported.prepend calmly)
      · cases isError

theorem reconcileExisting_answers : Answers r vg (r.reconcileExisting vg vgs devices) := by
  unfold reconcileExisting
  split
  · exact .of_careful failWith_careful
  · exact verifyExisting_answers _

theorem setUpThinPool_careful :
    Careful r.nodeName vg.name (Reported r vg) (r.setUpThinPool vg vgs devices) := by
  unfold setUpThinPool
  split
  · exact .of_uses trivial
  · exact .bind Reported.prepend (orFailWith_careful
      (calm (r.addThinPoolToVG_uses ..) (by decide) (by decide)))
      fun _ => validateOrFail_careful

theorem checkDeviceCount_careful :
    Careful r.nodeName vg.name (Reported r vg) (r.checkDeviceCount vg vgs devices) := by
  unfold checkDeviceCount
  split
  · exact .of_uses trivial
  · exact orFailWith_careful trivial

/-- Every warning of the setup of a volume group is reported. -/
theorem setUp_answers : Answers r vg (r.setUp vg vgs devices) :=
  .bind checkDeviceCount_careful fun _ =>
    .bind (orFailWith_careful (calm (addDevicesToVG_uses ..) (by decide) (by decide)))
      fun _ =>
    .bind setUpThinPool_careful fun _ =>
    .bind (.of_uses refreshVGs_calm) fun _ => publish_answers

/-- A status that is not reported as stored has not been stored. -/
theorem finishStatus_unchanged
    {status : VGStatus}
    {result : Except GoError Bool}
    (ran : Exec (environment r.nodeName) (r.finishStatus vg vgs status).run world events
      result after)
    (notStored : result ≠ .ok true) :
    after = world := by
  have sets {status : VGStatus} {world : World} {events : List (Event sig World)}
      (sets : Exec (environment r.nodeName) (r.setVolumeGroupStatus vg status).run world
        events result after) : after = world := by
    obtain ⟨outcome, stores, stored⟩ := setVolumeGroupStatus_stores sets
    cases stores with
    | unread | rejected | unchanged | unwritten => rfl
    | updated | created => exact absurd (stored.mpr ⟨_, rfl, by simp⟩) notStored
  unfold finishStatus at ran
  split at ran
  · exact sets ran
  · rcases Exec.run_bind_iff.mp ran with
      ⟨error, rfl, failed⟩ | ⟨final, first, between, second, head, rest, rfl⟩
    · obtain ⟨_, -, applies⟩ := Exec.run_mapError_iff.mp failed
      exact (Exec.of_reading applies (r.applyRAIDStatus_uses ..)).1
    · obtain ⟨rfl, -⟩ := Exec.of_reading (Exec.run_mapError_ok_iff.mp head)
        (r.applyRAIDStatus_uses ..)
      exact sets rest

theorem reconcileNew_answers : Answers r vg (r.reconcileNew vg vgs devices) := by
  intro world events result after ran
  obtain ⟨updated, first, middle, second, sets, rest, rfl⟩ := Exec.run_attempt_bind_iff.mp ran
  have quietly := finishStatus_silent.events_allowed sets
  split at rest
  · obtain ⟨rfl, -, -⟩ := Exec.run_pure_iff.mp rest
    rw [List.append_nil]
    exact .inl quietly
  · rename_i notStored
    obtain rfl := finishStatus_unchanged sets notStored
    rcases setUp_answers rest with silent | reported
    · exact .inl (List.forall_mem_append.mpr ⟨quietly, silent⟩)
    · exact .inr (reported.prepend ⟨quietly, rfl⟩)

theorem checkMandatoryPaths_careful :
    Careful r.nodeName vg.name (Reported r vg) (r.checkMandatoryPaths vg vgs devices) := by
  unfold checkMandatoryPaths
  split
  · exact .of_uses trivial
  · exact orFailWith_careful
      (calm (verifyMandatoryDevicePaths_uses ..) (by decide) (by decide))

theorem useDevices_answers : Answers r vg (r.useDevices vg vgs devices) := by
  refine .bind checkMandatoryPaths_careful fun _ => ?_
  dsimp only
  split
  · exact reconcileExisting_answers
  · exact reconcileNew_answers

theorem reconcileDevices_answers (blockDevices : List BlockDevice) :
    Answers r vg (r.reconcileDevices vg vgs blockDevices) :=
  .bind (.of_uses (.run_mapError (calm (Lvm.listPVs_uses _) (by decide) (by decide))))
    fun _ =>
  .bind (.of_uses (.run_lift (calm (blockDeviceInfos_uses _) (by decide) (by decide))))
    fun _ =>
  .bind (.of_uses (.run_lift (calm (filterDevices_uses ..) (by decide) (by decide))))
    fun _ => useDevices_answers

/-- A RAID volume group with missing devices is reported, and looked at again later. -/
theorem reportHealth_answers {reason : String} {error : GoError} {result : Result} :
    Answers r vg (do
      r.warningEvent vg reason error
      r.reportFailure vg vgs devices error
      return result) := by
  intro world events outcome after ran
  obtain ⟨_, first, middle, second, warns, rest, rfl⟩ := Exec.run_lift_bind_iff.mp ran
  obtain ⟨_, late, _, _, reports, returns, rfl⟩ := Exec.run_lift_bind_iff.mp rest
  obtain ⟨rfl, -, rfl⟩ := Exec.run_pure_iff.mp returns
  rw [List.append_nil]
  exact .inr ⟨warningEvent_warns warns,
    reports⟩

/-- Every warning about a live volume group is reported. -/
theorem reconcileLive_answers : Answers r vg (r.reconcileLive vg) := by
  refine .bind (.of_uses (.run_mapError (calm (query_uses _) (by decide) (by decide))))
    fun blockDevices => ?_
  refine .bind (.of_uses refreshVGs_calm) fun vgs => ?_
  split
  · exact reportHealth_answers
  · refine .bind (.of_uses (.run_mapError (calm (wipeDevices_uses ..)
      (by decide) (by decide)))) fun wiped => ?_
    split
    · exact .of_uses (.run_bind (silent (Client.update_uses ..) (by decide))
        fun _ => trivial)
    · exact reconcileDevices_answers _

/-- A live volume group. -/
theorem reconcile_answers (live : vg.metadata.deletionTimestamp = none) :
    Answers r vg (r.reconcile vg) := by
  unfold reconcile
  simp only [live, Option.isSome_none, Bool.false_eq_true, if_false]
  split
  · exact .of_uses (.run_bind (silent (Client.update_uses ..) (by decide))
      fun _ => trivial)
  · exact reconcileLive_answers

/-- Between the warning and the report only events are sent. -/
theorem fromWarning_readable_iff
    {first late : List (Event sig World)}
    (warns : Warns vg.name world first after) :
    (∀ event ∈ fromWarning vg.name (first ++ late), readable vg.name event = true) ↔
      ∀ event ∈ late, readable vg.name event = true := by
  obtain ⟨calmly, sent, warned⟩ := warns
  rename_i early loud
  have remains : (fromWarning vg.name loud).isEmpty = false := by
    obtain ⟨event, member, warned⟩ := warned
    simp only [fromWarning, List.isEmpty_eq_false_iff, ne_eq, List.dropWhile_eq_nil_iff]
    intro allSilent
    simpa [warned] using allSilent event member
  have skips : fromWarning vg.name (early ++ loud ++ late) =
      fromWarning vg.name loud ++ late := by
    unfold fromWarning at *
    rw [List.append_assoc, List.dropWhile_append_of_pos fun event member =>
      by
        rw [calmly.silent event member, Bool.not_false], List.dropWhile_append, remains]
    rfl
  rw [skips, List.forall_mem_append]
  refine and_iff_right fun event member => readable_report ?_
  exact sent event ((List.dropWhile_suffix _).subset member)

end Reconciler

/-- Reads are silent. -/
theorem Reading.silent
    {name : String}
    {events : List (Event sig World)}
    (reads : Reading events) :
    ∀ event ∈ events, Silent name event.request := by
  intro event member
  have isRead := reads event member
  unfold Silent warnsAbout
  split
  · rename_i isEvent
    rw [isEvent] at isRead
    simp [Request.effect] at isRead
  · rfl

/-- What the report makes of the status. -/
theorem Reported.faulty_iff
    {r : Reconciler}
    {vg : LVMVolumeGroup}
    {world after : World}
    {events : List (Event sig World)}
    (reported : Reported r vg world events after)
    (collected : world.api.Collected .nodeStatus)
    (written : Written events) :
    Faulty r.nodeName vg.name after ↔
      (∀ event ∈ fromWarning vg.name events, readable vg.name event = true) ∨
        Faulty r.nodeName vg.name world := by
  obtain ⟨warns, reports⟩ := reported
  rename_i middle _ _ _
  have kept : middle.api.objects .nodeStatus = world.api.objects .nodeStatus := by
    obtain ⟨calmly, -, -⟩ := warns
    exact calmly.kept
  have sameState : Faulty r.nodeName vg.name middle ↔ Faulty r.nodeName vg.name world := by
    simp only [Faulty, storedState, ApiServer.find?, kept]
  rw [Reconciler.fromWarning_readable_iff warns, ← sameState]
  refine reportFailure_faulty ?_ (fun event member =>
    written event (List.mem_append_right _ member)) reports
  rw [ApiServer.Collected, kept]
  exact collected

/-- After a warning about a live volume group its stored state says that something is
wrong, exactly if the logical volumes and the node status could be read after the
warning, or if the state said so before. -/
theorem faulty_iff_of_warned
    {r : Reconciler}
    {name : String}
    {vg : LVMVolumeGroup}
    {world after : World}
    {events : List (Event sig World)}
    (step : ReconcileStep r name world events after)
    (found : world.api.find? .volumeGroup name = some vg)
    (live : vg.metadata.deletionTimestamp = none)
    (collected : world.api.Collected .nodeStatus)
    (written : Written events)
    (warned : ∃ event ∈ events, warnsAbout vg.name event.request = true) :
    Faulty r.nodeName vg.name after ↔
      (∀ event ∈ fromWarning vg.name events, readable vg.name event = true) ∨
        Faulty r.nodeName vg.name world := by
  obtain ⟨early, rest, rfl, reads, continued⟩ := step.cases
  obtain ⟨event, member, warns⟩ := warned
  have late : event ∈ rest := by
    refine (List.mem_append.mp member).resolve_left fun inEarly => ?_
    rw [reads.silent event inEarly] at warns
    cases warns
  rcases continued with ⟨rfl, -⟩ | ⟨again, result, isFound, ran⟩
  · cases late
  obtain rfl : again = vg := Option.some.inj (isFound.symm.trans found)
  rcases Reconciler.reconcile_answers live ran with silent | reported
  · rw [silent event late] at warns
    cases warns
  have whole := reported.prepend ⟨reads.silent, rfl⟩
  exact whole.faulty_iff collected written

/-! ## Examples -/

/-- A RAID volume group whose device is missing. -/
def mirroredVG : LVMVolumeGroup where
  metadata := { name := "vg1", finalizers := [getFinalizer "node"] }
  spec := {
    deviceSelector := some { paths := ["/dev/sdb"] }
    raidConfig := some { type := .raid1 } }

/-- Its world, in which the node status lists it as ready. -/
def mirroredWorld : World :=
  let world := nodeWorld mirroredVG {}
  { world with api := world.api.set .nodeStatus [{
      metadata := { name := "node" }
      lvmVGStatus := [{ name := "vg1", status := .ready }] }] }

/-- A reconciliation in which nothing fails but the missing path. -/
def listedRun : List (Event sig World) × Except GoError Result × World :=
  (Reconciler.plain "node").runWith "vg1" (fun _ _ => {}) mirroredWorld

/-- A reconciliation in which the logical volumes cannot be listed. -/
def unlistedRun : List (Event sig World) × Except GoError Result × World :=
  (Reconciler.plain "node").runWith "vg1"
    (fun
      | _, .query (.lvs _) => { failure := some "exit status 5" }
      | _, _ => {})
    mirroredWorld

theorem mirroredWorld_collected : mirroredWorld.api.Collected .nodeStatus := by
  intro object member marked
  obtain rfl := List.mem_singleton.mp member
  cases marked

/-- The missing device is reported. -/
theorem faulty_iff_of_warned_listed : Faulty "node" "vg1" listedRun.2.2 := by
  have written : Written listedRun.1 := by
    decide +kernel
  have warned : ∃ event ∈ listedRun.1, warnsAbout "vg1" event.request = true := by
    decide +kernel
  have reads : ∀ event ∈ fromWarning "vg1" listedRun.1, readable "vg1" event = true := by
    decide +kernel
  exact (faulty_iff_of_warned (Reconciler.runWith_step (.plain "node") "vg1" _ mirroredWorld)
    rfl rfl mirroredWorld_collected written warned).mpr (.inl reads)

/-- The missing device is not reported while the logical volumes cannot be listed:
the volume group stays ready. -/
theorem ready_after_warning :
    ReconcileStep (.plain "node") "vg1" mirroredWorld unlistedRun.1 unlistedRun.2.2 ∧
      (∃ event ∈ unlistedRun.1, warnsAbout "vg1" event.request = true) ∧
      Written unlistedRun.1 ∧
      storedState "node" "vg1" unlistedRun.2.2 = some .ready :=
  ⟨Reconciler.runWith_step .., by decide +kernel, by decide +kernel, by decide +kernel⟩

end Lvms
