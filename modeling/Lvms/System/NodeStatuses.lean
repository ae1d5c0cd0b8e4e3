import Lvms.System
import Lvms.Operator.Teardown

/-!
# Node statuses of a deleted cluster

`EnsureCreated` makes a status with a delete protection for every node that is valid at
that time, and `EnsureDeleted` releases the statuses of the nodes that are valid when the
cluster is deleted. A node that exists but is not valid any more keeps its status.
-/

namespace Lvms

open Interaction Interaction.Program

variable {node : String} {world after : World} {events : List (Event sig World)}
variable {status : LVMVolumeGroupNodeStatus}

/-! ## Protected statuses -/

/-- The status of a node carries the delete protection. -/
def ProtectedAt (world : World) (name : String) : Prop :=
  ∃ status ∈ world.api.objects .nodeStatus, status.metadata.name = name ∧
    deleteProtectionFinalizer ∈ status.metadata.finalizers

instance (name : String) : Decidable (ProtectedAt world name) :=
  inferInstanceAs (Decidable (∃ status ∈ _, _))

/-- No status of an existing node carries the delete protection. -/
def NoneProtected (world : World) : Prop :=
  ∀ existing ∈ world.api.objects .node, ¬ProtectedAt world existing.metadata.name

instance : Decidable (NoneProtected world) :=
  inferInstanceAs (Decidable (∀ existing ∈ _, _))

/-- With unique names, the status of a node decides. -/
theorem protectedAt_iff_of_mem
    (unique : world.api.Unique .nodeStatus)
    (member : status ∈ world.api.objects .nodeStatus) :
    ProtectedAt world status.metadata.name ↔
      deleteProtectionFinalizer ∈ status.metadata.finalizers := by
  constructor
  · rintro ⟨other, isOther, named, isProtected⟩
    have found := unique.find?_of_mem isOther
    rw [show Kind.nameOf .nodeStatus other = Kind.nameOf .nodeStatus status from named,
      unique.find?_of_mem member] at found
    rwa [Option.some.inj found]
  · exact fun isProtected => ⟨status, member, rfl, isProtected⟩

/-- What the others carry does not depend on the status with a name. -/
theorem protectedAt_congr
    {name : String}
    (same : ∀ status : LVMVolumeGroupNodeStatus, status.metadata.name = name →
      (status ∈ after.api.objects .nodeStatus ↔ status ∈ world.api.objects .nodeStatus)) :
    ProtectedAt after name ↔ ProtectedAt world name := by
  constructor
  · rintro ⟨status, member, named, isProtected⟩
    exact ⟨status, (same status named).mp member, named, isProtected⟩
  · rintro ⟨status, member, named, isProtected⟩
    exact ⟨status, (same status named).mpr member, named, isProtected⟩

/-- What is left when the status with a name has been handled: all others, and the
protection only if it was there twice. -/
structure Handled
    (status : LVMVolumeGroupNodeStatus)
    (world after : World) : Prop where
  others : ∀ other : LVMVolumeGroupNodeStatus,
    other.metadata.name ≠ status.metadata.name →
      (other ∈ after.api.objects .nodeStatus ↔ other ∈ world.api.objects .nodeStatus)
  own : ProtectedAt after status.metadata.name ↔
    2 ≤ status.metadata.finalizers.count deleteProtectionFinalizer

theorem removeDeleteProtectionFinalizer_eq_some
    {released : LVMVolumeGroupNodeStatus}
    (isReleased : removeDeleteProtectionFinalizer status = some released) :
    deleteProtectionFinalizer ∈ status.metadata.finalizers ∧
      released = { status with metadata := { status.metadata with
        finalizers := status.metadata.finalizers.erase deleteProtectionFinalizer } } := by
  simp only [removeDeleteProtectionFinalizer] at isReleased
  split at isReleased
  · rename_i contains
    exact ⟨by simpa using contains, (Option.some.inj isReleased).symm⟩
  · cases isReleased

/-- A release succeeds without an update, when there is nothing to remove, or with one of
the version that was read. -/
theorem releaseNodeStatus_ok
    (ran : Exec (environment node) (releaseNodeStatus status).run world events (.ok ())
      after) :
    (deleteProtectionFinalizer ∉ status.metadata.finalizers ∧ after = world) ∨
    ∃ released old, removeDeleteProtectionFinalizer status = some released ∧
      world.api.find? .nodeStatus status.metadata.name = some old ∧
      old.metadata.resourceVersion = status.metadata.resourceVersion ∧
      after = { world with
        api := world.api.alter .nodeStatus status.metadata.name fun old =>
          ApiServer.stored .nodeStatus old released } := by
  unfold releaseNodeStatus at ran
  split at ran
  · rename_i absent
    obtain ⟨-, -, rfl⟩ := Exec.run_pure_iff.mp ran
    simp only [removeDeleteProtectionFinalizer] at absent
    split at absent
    · cases absent
    · rename_i missing
      exact .inl ⟨by simpa using missing, rfl⟩
  · rename_i released isReleased
    obtain ⟨_, _, _, _, updating, ending, rfl⟩ := Exec.run_bind_ok_iff.mp ran
    obtain ⟨-, -, rfl⟩ := Exec.run_pure_iff.mp ending
    obtain ⟨_, -, -, -, ⟨_, isError, -⟩ | ⟨old, found, current, -, rfl⟩⟩ :=
      Client.update_cases (Exec.run_mapError_ok_iff.mp updating)
    · cases isError
    · obtain ⟨-, rfl⟩ := removeDeleteProtectionFinalizer_eq_some isReleased
      exact .inr ⟨_, old, isReleased, found, current, rfl⟩

/-- A finalizer is left when it was there twice. -/
theorem count_erase_iff (finalizers : List String) :
    deleteProtectionFinalizer ∈ finalizers.erase deleteProtectionFinalizer ↔
      2 ≤ finalizers.count deleteProtectionFinalizer := by
  rw [← List.count_pos_iff, List.count_erase_self]
  omega

/-- A status whose deletion succeeds is handled: it was marked before, or carries no
protection. Otherwise the deletion changes its version and the release conflicts. -/
theorem deleteNodeStatus_ok
    (unique : world.api.Unique .nodeStatus)
    (member : status ∈ world.api.objects .nodeStatus)
    (ran : Exec (environment node) (deleteNodeStatus status).run world events (.ok ())
      after) :
    Handled status world after := by
  have found : world.api.find? .nodeStatus status.metadata.name = some status :=
    unique.find?_of_mem member
  have bare (absent : deleteProtectionFinalizer ∉ status.metadata.finalizers) :
      ¬2 ≤ status.metadata.finalizers.count deleteProtectionFinalizer := by
    rw [List.count_eq_zero_of_not_mem absent]
    omega
  unfold deleteNodeStatus at ran
  dsimp only at ran
  split at ran
  · rename_i unmarked
    obtain ⟨_, _, middle, _, deleting, releasing, rfl⟩ := Exec.run_bind_ok_iff.mp ran
    obtain ⟨_, -, -, -, ⟨_, isError, -⟩ | ⟨_, time, -, -, rfl⟩⟩ :=
      Client.delete_cases (Exec.run_mapError_ok_iff.mp deleting)
    · cases isError
    rcases releaseNodeStatus_ok releasing with
      ⟨absent, rfl⟩ | ⟨released, old, isReleased, foundOld, current, -⟩
    · refine ⟨fun other different => ApiServer.mem_alter_of_ne different
        fun _ _ named becomes => (ApiServer.nameOf_of_deleted becomes).trans named, ?_⟩
      refine iff_of_false ?_ (bare absent)
      rintro ⟨other, isOther, named, isProtected⟩
      rcases ApiServer.mem_alter_iff.mp isOther with
        ⟨-, different⟩ | ⟨old, isOld, oldNamed, becomes⟩
      · exact different named
      · have same := unique.find?_of_mem isOld
        rw [oldNamed, found] at same
        obtain rfl := Option.some.inj same
        rcases ApiServer.eq_of_deleted becomes with rfl | rfl
        · exact absent isProtected
        · exact absent isProtected
    · -- The status that is found has the version after the deletion.
      obtain ⟨isProtected, -⟩ := removeDeleteProtectionFinalizer_eq_some isReleased
      have hasFinalizer : (Kind.metadata .nodeStatus status).finalizers ≠ [] :=
        List.ne_nil_of_mem isProtected
      have isUnmarked : (Kind.metadata .nodeStatus status).deletionTimestamp.isNone = true :=
        unmarked
      obtain ⟨marked, becomes⟩ :=
        ApiServer.exists_deleted_of_finalizers time hasFinalizer
      have foundMarked := ApiServer.find?_alter_of_some found becomes
        (ApiServer.nameOf_of_deleted becomes)
      obtain rfl := Option.some.inj (foundOld.symm.trans foundMarked)
      have newer := ApiServer.resourceVersion_of_deleted isUnmarked becomes
      exact absurd (newer.symm.trans current) (Nat.succ_ne_self _)
  · rename_i marked
    rcases releaseNodeStatus_ok ran with
      ⟨absent, rfl⟩ | ⟨released, old, isReleased, foundOld, -, rfl⟩
    · exact ⟨fun _ _ => Iff.rfl, iff_of_false
        (fun isProtected => absent ((protectedAt_iff_of_mem unique member).mp isProtected))
        (bare absent)⟩
    · obtain ⟨-, rfl⟩ := removeDeleteProtectionFinalizer_eq_some isReleased
      refine ⟨fun other different => ApiServer.mem_alter_of_ne different
        fun _ _ _ becomes => (ApiServer.nameOf_of_stored becomes :), ?_⟩
      rw [← count_erase_iff]
      constructor
      · rintro ⟨other, isOther, named, isProtected⟩
        rcases ApiServer.mem_alter_iff.mp isOther with ⟨-, different⟩ | ⟨_, -, -, becomes⟩
        · exact absurd named different
        · have kept : other.metadata.finalizers =
              status.metadata.finalizers.erase deleteProtectionFinalizer :=
            ApiServer.finalizers_of_stored becomes
          rwa [kept] at isProtected
      · intro isProtected
        have hasFinalizer : (Kind.metadata .nodeStatus { status with
            metadata := { status.metadata with
              finalizers := status.metadata.finalizers.erase
                deleteProtectionFinalizer } }).finalizers ≠ [] :=
          List.ne_nil_of_mem isProtected
        obtain ⟨kept, becomes⟩ :=
          ApiServer.exists_stored_of_finalizers status hasFinalizer
        have finalizers : kept.metadata.finalizers =
            status.metadata.finalizers.erase deleteProtectionFinalizer :=
          ApiServer.finalizers_of_stored becomes
        refine ⟨kept, ApiServer.mem_alter_iff.mpr (.inr ⟨status, member, rfl, becomes⟩),
          ApiServer.nameOf_of_stored becomes, ?_⟩
        rwa [finalizers]

/-- All statuses of the loop are handled, and the others are as they were. -/
theorem deleteNodeStatuses_ok
    {statuses : List LVMVolumeGroupNodeStatus}
    (unique : world.api.Unique .nodeStatus)
    (distinct : (statuses.map (·.metadata.name)).Nodup)
    (there : ∀ status ∈ statuses, status ∈ world.api.objects .nodeStatus)
    (ran : Exec (environment node) (forM statuses deleteNodeStatus).run world events
      (.ok ()) after) :
    (∀ other : LVMVolumeGroupNodeStatus,
      other.metadata.name ∉ statuses.map (·.metadata.name) →
        (other ∈ after.api.objects .nodeStatus ↔ other ∈ world.api.objects .nodeStatus)) ∧
    ∀ status ∈ statuses, ProtectedAt after status.metadata.name ↔
      2 ≤ status.metadata.finalizers.count deleteProtectionFinalizer := by
  induction statuses generalizing world events with
  | nil =>
      obtain ⟨-, -, rfl⟩ := Exec.run_pure_iff.mp ran
      simp
  | cons status rest inductionHypothesis =>
      rw [List.map_cons, List.nodup_cons] at distinct
      obtain ⟨isThere, restThere⟩ := List.forall_mem_cons.mp there
      rw [List.forM_cons] at ran
      obtain ⟨_, _, between, _, head, tail, rfl⟩ := Exec.run_bind_ok_iff.mp ran
      have handled := deleteNodeStatus_ok unique isThere head
      have otherName (other : LVMVolumeGroupNodeStatus) (member : other ∈ rest) :
          other.metadata.name ≠ status.metadata.name := fun named =>
        distinct.1 (List.mem_map.mpr ⟨other, member, named⟩)
      obtain ⟨others, own⟩ := inductionHypothesis (Exec.unique head unique) distinct.2
        (fun other member => (handled.others other (otherName other member)).mpr
          (restThere other member)) tail
      refine ⟨fun other different => ?_, List.forall_mem_cons.mpr ⟨?_, own⟩⟩
      · rw [List.map_cons, List.mem_cons, not_or] at different
        exact (others other different.2).trans (handled.others other different.1)
      · rw [← handled.own]
        refine protectedAt_congr fun other named => others other ?_
        rw [named]
        exact distinct.1

namespace Operator

variable {r : Operator} {cluster : LVMCluster}

/-- The node is one that `ValidNodes` finds for the cluster. -/
def IsValid (r : Operator) (cluster : LVMCluster) (world : World) (name : String) : Prop :=
  ∃ valid ∈ (r.scheduling.validNodes cluster (world.api.objects .node)).1,
    valid.metadata.name = name

instance (name : String) : Decidable (r.IsValid cluster world name) :=
  inferInstanceAs (Decidable (∃ valid ∈ _, _))

theorem throwIfSome_ok
    {err : Option GoError}
    (ran : Exec (environment node) (throwIfSome err).run world events (.ok ()) after) :
    after = world := by
  cases err with
  | some err => exact absurd ran Exec.run_throw_not_ok
  | none => exact (Exec.run_pure_iff.mp ran).2.2

/-- `EnsureDeleted` handles the statuses of the valid nodes. -/
theorem lvmVGNodeStatus_ensureDeleted_loop
    (ran : Exec (environment node) (r.lvmVGNodeStatus.ensureDeleted cluster).run world
      events (.ok ()) after) :
    ∃ during, Exec (environment node)
      (forM ((world.api.objects .nodeStatus).filter
        (r.IsValid cluster world ·.metadata.name)) deleteNodeStatus).run world during
      (.ok ()) after := by
  obtain ⟨statuses, _, _, _, listing, afterStatuses, rfl⟩ := Exec.run_bind_ok_iff.mp ran
  obtain ⟨rfl, rfl⟩ := Client.list_ok (Exec.run_mapError_ok_iff.mp listing)
  obtain ⟨nodes, _, last, _, listingNodes, afterNodes, rfl⟩ :=
    Exec.run_bind_ok_iff.mp afterStatuses
  obtain ⟨rfl, rfl⟩ := Client.list_ok (Exec.run_mapError_ok_iff.mp listingNodes)
  dsimp only at afterNodes
  obtain ⟨_, during, _, _, looping, ending, rfl⟩ := Exec.run_bind_ok_iff.mp afterNodes
  obtain rfl := throwIfSome_ok ending
  refine ⟨during, ?_⟩
  have same (status : LVMVolumeGroupNodeStatus) :
      decide (r.IsValid cluster last status.metadata.name) =
        (r.scheduling.validNodes cluster (last.api.objects .node)).1.any
          fun valid => status.metadata.name == valid.metadata.name := by
    rw [Bool.eq_iff_iff, decide_eq_true_iff, IsValid, List.any_eq_true]
    exact exists_congr fun valid => and_congr_right fun _ => by rw [beq_iff_eq, eq_comm]
  simpa only [same] using looping

/-- When `EnsureDeleted` succeeds, a protection is left of the statuses of valid nodes
that carried it twice, and of all statuses of other nodes. -/
theorem lvmVGNodeStatus_ensureDeleted_ok
    (unique : world.api.Unique .nodeStatus)
    (ran : Exec (environment node) (r.lvmVGNodeStatus.ensureDeleted cluster).run world
      events (.ok ()) after)
    (name : String) :
    ProtectedAt after name ↔
      ∃ status ∈ world.api.objects .nodeStatus, status.metadata.name = name ∧
        if r.IsValid cluster world name then
          2 ≤ status.metadata.finalizers.count deleteProtectionFinalizer
        else deleteProtectionFinalizer ∈ status.metadata.finalizers := by
  obtain ⟨during, looping⟩ := lvmVGNodeStatus_ensureDeleted_loop ran
  obtain ⟨others, own⟩ := deleteNodeStatuses_ok unique
    ((List.filter_sublist.map _).nodup unique)
    (fun status member => List.mem_of_mem_filter member) looping
  by_cases isValid : r.IsValid cluster world name
  · simp only [if_pos isValid]
    constructor
    · intro isProtected
      obtain ⟨status, member, rfl⟩ :
          ∃ status ∈ world.api.objects .nodeStatus, status.metadata.name = name := by
        by_contra none
        obtain ⟨other, isOther, named, -⟩ := isProtected
        refine none ⟨other, (others other fun isHandled => none ?_).mp isOther, named⟩
        obtain ⟨handled, isHandled, sameName⟩ := List.mem_map.mp isHandled
        exact ⟨handled, List.mem_of_mem_filter isHandled, sameName.trans named⟩
      exact ⟨status, member, rfl,
        (own status (List.mem_filter.mpr ⟨member, by simpa using isValid⟩)).mp isProtected⟩
    · rintro ⟨status, member, rfl, twice⟩
      exact (own status (List.mem_filter.mpr ⟨member, by simpa using isValid⟩)).mpr twice
  · simp only [if_neg isValid]
    refine protectedAt_congr fun other named => others other ?_
    intro isHandled
    obtain ⟨handled, isHandled, sameName⟩ := List.mem_map.mp isHandled
    have handledValid := (List.mem_filter.mp isHandled).2
    rw [sameName, named] at handledValid
    exact isValid (by simpa using handledValid)

/-! ## When the cluster is released -/

/-- Every protected status of an existing node is that of a valid node, and carries the
protection once. -/
def Releasable (r : Operator) (cluster : LVMCluster) (world : World) : Prop :=
  ∀ status ∈ world.api.objects .nodeStatus,
    deleteProtectionFinalizer ∈ status.metadata.finalizers →
    (∃ existing ∈ world.api.objects .node,
      existing.metadata.name = status.metadata.name) →
    r.IsValid cluster world status.metadata.name ∧
      status.metadata.finalizers.count deleteProtectionFinalizer = 1

/-- The managers around that of the node statuses touch neither nodes nor statuses. -/
theorem aroundStatuses_uses
    {manager : Manager}
    (member : manager ∈ [r.lvmVGs, r.vgManager] ++ r.resourcesAfterStatuses) :
    (deleteResource cluster manager).run.Uses (Within (.delete .volumeGroup ::
      .delete .daemonSet :: classEffects)) := by
  rcases List.mem_append.mp member with early | late
  · rcases List.mem_pair.mp early with rfl | rfl
    · exact deleteResource_uses_of (within (lvmVGs_ensureDeleted_uses ..) (by decide))
        (by decide)
    · exact deleteResource_uses_of (within (vgManager_ensureDeleted_uses ..) (by decide))
        (by decide)
  · exact within (afterStatuses_uses late) (by decide)

/-- When the resources were removed, no protected status of an existing node is left if
and only if all of them could be released. -/
theorem deleteResources_noneProtected_iff
    (unique : world.api.Unique .nodeStatus)
    (ran : Exec (environment node)
      (forM r.resourceDeletionList (deleteResource cluster)).run world events (.ok ())
      after) :
    NoneProtected after ↔ r.Releasable cluster world := by
  rw [resourceDeletionList] at ran
  obtain ⟨_, _, _, before, between, early, deleting, late, -⟩ := deleteResources_split ran
  have framedEarly := Exec.frame early (.run_forM fun manager member =>
    aroundStatuses_uses (List.mem_append_left _ member))
  have framedOwn := Exec.frame deleting (r.lvmVGNodeStatus_ensureDeleted_uses cluster)
  have framedLate := Exec.frame late (.run_forM fun manager member =>
    aroundStatuses_uses (List.mem_append_right _ member))
  have statuses : before.api.objects .nodeStatus = world.api.objects .nodeStatus :=
    framedEarly.objects .nodeStatus (by decide)
  have nodes : before.api.objects .node = world.api.objects .node :=
    framedEarly.objects .node (by decide)
  have nodesAfter : after.api.objects .node = world.api.objects .node :=
    (framedLate.objects .node (by decide)).trans
      ((framedOwn.objects .node (by decide)).trans nodes)
  have statusesAfter : after.api.objects .nodeStatus = between.api.objects .nodeStatus :=
    framedLate.objects .nodeStatus (by decide)
  have left (name : String) : ProtectedAt after name ↔
      ∃ status ∈ world.api.objects .nodeStatus, status.metadata.name = name ∧
        if r.IsValid cluster world name then
          2 ≤ status.metadata.finalizers.count deleteProtectionFinalizer
        else deleteProtectionFinalizer ∈ status.metadata.finalizers := by
    have handled := lvmVGNodeStatus_ensureDeleted_ok (Exec.unique early unique) deleting name
    simp only [IsValid, statuses, nodes] at handled
    rw [ProtectedAt, statusesAfter]
    exact handled
  rw [NoneProtected, nodesAfter]
  constructor
  · rintro none status member isProtected ⟨existing, isNode, named⟩
    have released := none existing isNode
    rw [left, named] at released
    by_cases isValid : r.IsValid cluster world status.metadata.name
    · refine ⟨isValid, ?_⟩
      have notTwice : ¬2 ≤ status.metadata.finalizers.count deleteProtectionFinalizer :=
        fun twice => released ⟨status, member, rfl, by simpa only [if_pos isValid]⟩
      have positive := List.count_pos_iff.mpr isProtected
      omega
    · exact absurd ⟨status, member, rfl, by simpa only [if_neg isValid]⟩ released
  · intro releasable existing isNode
    rw [left]
    rintro ⟨status, member, named, isLeft⟩
    rw [← named] at isLeft
    split at isLeft
    · have isProtected : deleteProtectionFinalizer ∈ status.metadata.finalizers :=
        List.count_pos_iff.mp (by omega)
      have once := (releasable status member isProtected ⟨existing, isNode, named.symm⟩).2
      omega
    · rename_i isInvalid
      exact isInvalid (releasable status member isLeft ⟨existing, isNode, named.symm⟩).1

/-- The request takes the finalizer from a cluster. -/
def takesFinalizer : Request → Bool
  | .api (.update .lvmCluster cluster) =>
      !cluster.metadata.finalizers.contains lvmClusterFinalizer
  | _ => false

/-- The finalizer is taken by an update. -/
theorem effect_of_takesFinalizer
    {request : Request}
    (takes : takesFinalizer request = true) :
    request.effect = .update .lvmCluster := by
  unfold takesFinalizer at takes
  split at takes
  · rfl
  · cases takes

theorem takesFinalizer_of_within
    {α : Type}
    {effects : List Effect}
    {program : Program sig α}
    (uses : program.Uses (Within effects))
    (updatesNone : .update .lvmCluster ∉ effects) :
    program.Uses (takesFinalizer · = false) := by
  refine uses.mono fun request isWithin => ?_
  rw [← Bool.not_eq_true]
  intro takes
  rw [Within, effect_of_takesFinalizer takes] at isWithin
  exact updatesNone isWithin

/-- A reconciliation of a cluster that is not deleted takes no finalizer. -/
theorem reconcile_takesFinalizer :
    (r.reconcile cluster).run.Uses (takesFinalizer · = false) := by
  have adds (cluster : LVMCluster) :
      (ensureFinalizer cluster).run.Uses (takesFinalizer · = false) := by
    dsimp only [ensureFinalizer]
    split
    · refine .run_mapError ⟨?_, fun _ => trivial⟩
      simp only [takesFinalizer, ObjectMeta.addFinalizer]
      split
      · rename_i contains
        simpa using contains
      · simp
    · trivial
  refine .run_bind (adds _) fun stored => ?_
  refine .run_bind (.run_lift (takesFinalizer_of_within (r.createResources_uses stored)
    (by decide))) fun results => ?_
  split
  · exact takesFinalizer_of_within (reportIncomplete_uses _) (by decide)
  · exact takesFinalizer_of_within finishReconcile_uses (by decide)

/-- When a reconciliation takes the finalizer from the cluster, no protected status of an
existing node is left if and only if all of them could be released. -/
theorem reconcileRequest_noneProtected_iff
    {name : String}
    {result : Except GoError Result}
    {event : Event sig World}
    (unique : world.api.Unique .nodeStatus)
    (ran : Exec (environment node) (r.reconcileRequest name).run world events result after)
    (member : event ∈ events)
    (takes : takesFinalizer event.request = true) :
    ∃ cluster, world.api.find? .lvmCluster name = some cluster ∧
      (NoneProtected event.before ↔ r.Releasable cluster world) := by
  have updates := effect_of_takesFinalizer takes
  obtain ⟨first, rest, rfl, reads, stopsOr⟩ := reconcileRequest_cases ran
  rcases List.mem_append.mp member with early | late
  · have reading := reads event early
    simp [updates] at reading
  rcases stopsOr with ⟨rfl, -⟩ | reconciled
  · cases late
  cases reconciled with
  | live found single unmarked ran =>
      have keeps := reconcile_takesFinalizer.events_allowed ran event late
      simp [keeps] at takes
  | deleted found single marked ran =>
      refine ⟨_, found, ?_⟩
      obtain ⟨middle, during, ended, ⟨framed, -, -⟩, processing, inside⟩ :=
        reconcileDeleted_reached ran late (by rw [updates]; decide)
      obtain ⟨removing, removed⟩ := processDelete_released processing inside updates
      have statuses : middle.api.objects .nodeStatus = world.api.objects .nodeStatus :=
        framed.objects .nodeStatus (by decide)
      have nodes : middle.api.objects .node = world.api.objects .node :=
        framed.objects .node (by decide)
      have released := deleteResources_noneProtected_iff
        (by rw [ApiServer.Unique, statuses]; exact unique) removed
      simp only [Releasable, IsValid, statuses, nodes] at released ⊢
      exact released

end Operator

/-! ## Every history -/

/-- Every action keeps the names of managed objects unique. -/
theorem System.Step.unique
    {system : System}
    {kind : Kind}
    {before after : World}
    {action : Action}
    {occurrences : List Occurrence}
    (step : system.Step before action occurrences after)
    (managed : kind ∈ managedKinds)
    (unique : before.api.Unique kind) :
    after.api.Unique kind := by
  cases step with
  | create _ _ ran | update _ _ _ _ ran | delete ran | operator ran =>
      exact Exec.unique ran unique
  | vgManager step =>
      obtain ⟨_, ran⟩ := step
      exact Exec.unique ran unique
  | change surroundings =>
      rw [ApiServer.Unique, surroundings.objects kind managed]
      exact unique

/-- After any history of nodes, specs and reconciliations: when the operator takes the
finalizer from the cluster, no protected status of an existing node is left if and only
if every protected status of an existing node is that of a node that is valid then. -/
theorem noneProtected_iff_releasable
    {system : System}
    {start world after : World}
    {past occurrences : List Occurrence}
    {name : String}
    {event : Event sig World}
    (unique : start.api.Unique .nodeStatus)
    (run : system.Run (fun _ _ => True) start past world)
    (step : system.Step world (.operator name) occurrences after)
    (member : .call .operator event ∈ occurrences)
    (takes : Operator.takesFinalizer event.request = true) :
    ∃ cluster, world.api.find? .lvmCluster name = some cluster ∧
      (NoneProtected event.before ↔ system.operator.Releasable cluster world) := by
  have reached : world.api.Unique .nodeStatus :=
    run.invariant (fun world => world.api.Unique .nodeStatus) unique
      fun _ _ _ unique ⟨_, _, step⟩ => step.unique (by decide) unique
  cases step with
  | operator ran =>
      obtain ⟨found, isFound, same⟩ := List.mem_map.mp member
      obtain rfl : found = event := by injection same
      obtain ⟨cluster, isCluster, released⟩ :=
        Operator.reconcileRequest_noneProtected_iff reached ran isFound takes
      exact ⟨cluster, isCluster, released⟩

/-! ### A node that is tainted -/

/-- A user creates a cluster, and the operator makes the status of the only node. -/
def statusMade : List Occurrence × World :=
  System.plain.performAll withoutFailures oneNodeWorld
    [.create { name := "cluster", inNamespace := "storage" }
      { deviceClasses := [{ name := "vg1", deviceSelector := some { paths := ["/dev/sda"] } }] },
      .operator "cluster"]

/-- The world with other nodes. -/
def World.withNodes (world : World) (nodes : List Node) : World :=
  { world with api := world.api.set .node nodes }

theorem surroundings_withNodes (world : World) (nodes : List Node) :
    Surroundings world (world.withNodes nodes) where
  objects kind managed := by
    refine ApiServer.set_objects_other _ _ ?_
    rintro rfl
    revert managed
    decide
  lvmdFile _ := rfl
  memory _ := .inl rfl

/-- The node as it was, and with a taint that is not tolerated. -/
def untainted : List Node := [{ metadata := { name := "node" } }]

def tainted : List Node :=
  [{ metadata := { name := "node" }, taints := [{ key := "dedicated" }] }]

/-- The node changes, the operator reconciles, and the cluster is deleted; the operator
reconciles as often as it takes to get to the last reconciliation. -/
def deletedAfter (nodes : List Node) (reconciliations : Nat) : List Occurrence × World :=
  System.plain.performAll withoutFailures (statusMade.2.withNodes nodes)
    ([.operator "cluster", .delete "cluster"] ++
      List.replicate reconciliations (.operator "cluster"))

/-- The last reconciliation. -/
def lastReconciliation (nodes : List Node) (reconciliations : Nat) :
    List Occurrence × World :=
  System.plain.perform withoutFailures (deletedAfter nodes reconciliations).2
    (.operator "cluster")

theorem deletedAfter_run
    {nodes : List Node}
    {reconciliations : Nat}
    (admits : System.plain.AdmitsAll withoutFailures (fun _ _ => True)
      (statusMade.2.withNodes nodes) ([.operator "cluster", .delete "cluster"] ++
        List.replicate reconciliations (.operator "cluster"))) :
    System.plain.Run (fun _ _ => True) oneNodeWorld
      ((statusMade.1 ++ [.change statusMade.2]) ++ (deletedAfter nodes reconciliations).1)
      (deletedAfter nodes reconciliations).2 :=
  ((System.performAll_run (by decide +kernel)).append
    (.single ⟨.change, trivial, .change (surroundings_withNodes _ nodes)⟩)).append
    (System.performAll_run admits)

theorem exists_call_of_any
    (occurrences : List Occurrence)
    (wanted : Event sig World → Bool)
    (found : occurrences.any (fun
      | .call .operator event => wanted event
      | _ => false) = true) :
    ∃ event, .call .operator event ∈ occurrences ∧ wanted event = true := by
  obtain ⟨occurrence, member, isWanted⟩ := List.any_eq_true.mp found
  split at isWanted
  · exact ⟨_, member, isWanted⟩
  · cases isWanted

/-- The status of a node that stays valid is released before the cluster. -/
theorem noneProtected_iff_releasable_untainted :
    ∃ event, .call .operator event ∈ (lastReconciliation untainted 2).1 ∧
      ∃ cluster, (deletedAfter untainted 2).2.api.find? .lvmCluster "cluster" = some cluster ∧
        (NoneProtected event.before ↔
          plainOperator.Releasable cluster (deletedAfter untainted 2).2) := by
  obtain ⟨event, member, takes⟩ := exists_call_of_any (lastReconciliation untainted 2).1
    (fun event => Operator.takesFinalizer event.request) (by decide +kernel)
  exact ⟨event, member, noneProtected_iff_releasable (by decide)
    (deletedAfter_run (by decide +kernel)) (System.perform_step trivial) member takes⟩

/-- The node is tainted after its status was made: the cluster is released while the
status is still protected. -/
theorem protected_status_left :
    ¬∀ (system : System) (start world after : World) (past occurrences : List Occurrence)
      (name : String) (event : Event sig World),
      (∀ kind ∈ managedKinds, start.api.objects kind = []) →
      system.Run (fun _ _ => True) start past world →
      system.Step world (.operator name) occurrences after →
      .call .operator event ∈ occurrences →
      Operator.takesFinalizer event.request = true → NoneProtected event.before := by
  intro always
  obtain ⟨event, member, holds⟩ := exists_call_of_any (lastReconciliation tainted 1).1
    (fun event => Operator.takesFinalizer event.request &&
      !decide (NoneProtected event.before)) (by decide +kernel)
  simp only [Bool.and_eq_true, Bool.not_eq_true', decide_eq_false_iff_not] at holds
  exact holds.2 (always System.plain oneNodeWorld _ _ _ _ "cluster" event (by decide)
    (deletedAfter_run (by decide +kernel)) (System.perform_step trivial) member holds.1)

end Lvms
