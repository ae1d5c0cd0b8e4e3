import Lvms.Operator.Steps
import Lvms.Outcomes
import Lvms.Interaction.Sweep

/-!
# Releasing what waits for nodes that are gone

Before a deleted cluster is torn down, the operator removes the finalizers that only a
node could remove that does not exist any more: the cleanup finalizers of volume groups,
and the finalizers of the logical volumes of TopoLVM. Both loops can end with some of
them still there.
-/

namespace Lvms

open Interaction

/-- The finalizers of an object; an object that is gone has none. -/
def World.finalizersOf (world : World) (kind : Kind) (name : String) : List String :=
  ((world.api.find? kind name).map fun object => (kind.metadata object).finalizers).getD []

theorem World.finalizersOf_of_find?
    {world : World}
    {kind : Kind}
    {name : String}
    {object : kind.Object}
    (found : world.api.find? kind name = some object) :
    world.finalizersOf kind name = (kind.metadata object).finalizers := by
  rw [finalizersOf, found]
  rfl

/-- An update sets the finalizers of one object. -/
theorem Client.update_finalizers
    {node : String}
    {kind : Kind}
    {object updated : kind.Object}
    {world after : World}
    {events : List (Event sig World)}
    (unique : world.api.Unique kind)
    (ran : Exec (environment node) (update kind object).run world events (.ok updated)
      after) :
    after.api.Unique kind ∧ kind.nameOf updated = kind.nameOf object ∧
      (kind.metadata updated).finalizers = (kind.metadata object).finalizers ∧
      after.finalizersOf kind (kind.nameOf object) = (kind.metadata object).finalizers ∧
      ∀ other, other ≠ kind.nameOf object →
        after.api.find? kind other = world.api.find? kind other := by
  obtain ⟨stillUnique, old, -, rfl, becomes, others⟩ := update_ok unique ran
  refine ⟨stillUnique, ApiServer.nameOf_getD_stored old object, ?_, ?_, others⟩
  · cases stored : ApiServer.stored kind old object with
    | some new => exact ApiServer.finalizers_of_stored stored
    | none => rfl
  · rw [World.finalizersOf, becomes]
    cases stored : ApiServer.stored kind old object with
    | some new => exact ApiServer.finalizers_of_stored stored
    | none => exact (ApiServer.finalizers_eq_nil_of_stored stored).symm

namespace Operator

variable {host : String} {nodes : List String} {world after : World}
variable {events : List (Event sig World)}
variable {vg : LVMVolumeGroup} {volume : TopolvmLogicalVolume}
variable {rest : List TopolvmLogicalVolume}

/-! ## Cleanup finalizers -/

/-- The cleanup finalizer of a node that is not in a list. -/
def isStale (nodes : List String) (finalizer : String) : Bool :=
  stringsHasPrefix finalizer (nodeCleanupFinalizer ++ "/") &&
    !nodes.contains (stringsTrimPrefix finalizer (nodeCleanupFinalizer ++ "/"))

/-- What `checkStaleNodeFinalizers` takes for such a finalizer. -/
def countsAsStale (nodes : List String) (finalizer : String) : Bool :=
  stringsHasPrefix finalizer nodeCleanupFinalizer &&
    !nodes.contains (stringsTrimPrefix finalizer (nodeCleanupFinalizer ++ "/"))

/-- Stale finalizers are those of missing nodes. -/
theorem isStale_iff {finalizer : String} :
    isStale nodes finalizer = true ↔
      ∃ node, node ∉ nodes ∧ finalizer = getFinalizer node := by
  rw [isStale, Bool.and_eq_true, Bool.not_eq_true', List.contains_eq_mem,
    decide_eq_false_iff_not]
  constructor
  · rintro ⟨isCleanup, gone⟩
    obtain ⟨node, rfl⟩ := exists_append_of_stringsHasPrefix isCleanup
    rw [stringsTrimPrefix_append] at gone
    exact ⟨node, gone, rfl⟩
  · rintro ⟨node, gone, rfl⟩
    rw [getFinalizer, stringsTrimPrefix_append]
    exact ⟨stringsHasPrefix_append _ _, gone⟩

/-- The loop over the finalizers of a volume group. -/
theorem removeStaleFinalizers_ok
    {array : List String}
    {positions : List Nat}
    (unique : world.api.Unique .volumeGroup)
    (current : world.finalizersOf .volumeGroup vg.name = vg.metadata.finalizers)
    (ran : Exec (environment host) (removeStaleFinalizers nodes vg array positions).run
      world events (.ok ()) after) :
    after.api.Unique .volumeGroup ∧
      after.finalizersOf .volumeGroup vg.name =
        sweep (countsAsStale nodes) "" vg.metadata.finalizers array positions ∧
      ∀ other, other ≠ vg.name →
        after.api.find? .volumeGroup other = world.api.find? .volumeGroup other := by
  induction positions generalizing vg array world events with
  | nil =>
      obtain ⟨-, -, rfl⟩ := Exec.run_pure_iff.mp ran
      exact ⟨unique, current, fun _ _ => rfl⟩
  | cons position rest inductionHypothesis =>
      rw [removeStaleFinalizers] at ran
      rw [sweep]
      dsimp only at ran ⊢
      generalize array.getD position "" = finalizer at ran ⊢
      have isTest : (!stringsHasPrefix finalizer nodeCleanupFinalizer ||
          nodes.contains (stringsTrimPrefix finalizer (nodeCleanupFinalizer ++ "/"))) =
          !countsAsStale nodes finalizer := by
        rw [countsAsStale, Bool.not_and, Bool.not_not]
      rw [isTest] at ran
      cases counts : countsAsStale nodes finalizer with
      | false =>
          rw [counts] at ran
          exact inductionHypothesis unique current ran
      | true =>
          rw [counts] at ran
          obtain ⟨updated, first, between, second, head, tail, rfl⟩ :=
            Exec.run_bind_ok_iff.mp ran
          obtain ⟨stillUnique, named, sameFinalizers, becomes, others⟩ :=
            Client.update_finalizers unique (Exec.run_mapError_ok_iff.mp head)
          change updated.name = vg.name at named
          obtain ⟨uniqueAfter, swept, othersAfter⟩ := inductionHypothesis stillUnique
            ((congrArg _ named).trans (becomes.trans sameFinalizers.symm)) tail
          change updated.metadata.finalizers =
            vg.metadata.finalizers.filter (· != finalizer) at sameFinalizers
          rw [named, sameFinalizers] at swept
          rw [named] at othersAfter
          exact ⟨uniqueAfter, swept, fun other different =>
            (othersAfter other different).trans (others other different)⟩

/-- The loop over the volume groups. -/
theorem releaseStale_ok
    {vgs : List LVMVolumeGroup}
    (unique : world.api.Unique .volumeGroup)
    (distinct : (vgs.map (·.name)).Nodup)
    (current : ∀ vg ∈ vgs,
      world.finalizersOf .volumeGroup vg.name = vg.metadata.finalizers)
    (ran : Exec (environment host)
      (forM vgs fun vg => removeStaleFinalizers nodes vg vg.metadata.finalizers
        (List.range vg.metadata.finalizers.length)).run world events (.ok ()) after) :
    after.api.Unique .volumeGroup ∧
      (∀ vg ∈ vgs, after.finalizersOf .volumeGroup vg.name =
        sweep (countsAsStale nodes) "" vg.metadata.finalizers vg.metadata.finalizers
          (List.range vg.metadata.finalizers.length)) ∧
      ∀ other ∉ vgs.map (·.name),
        after.api.find? .volumeGroup other = world.api.find? .volumeGroup other := by
  induction vgs generalizing world events with
  | nil =>
      obtain ⟨-, -, rfl⟩ := Exec.run_pure_iff.mp ran
      exact ⟨unique, by simp, fun _ _ => rfl⟩
  | cons vg rest inductionHypothesis =>
      rw [List.map_cons, List.nodup_cons] at distinct
      obtain ⟨isCurrent, currentRest⟩ := List.forall_mem_cons.mp current
      rw [List.forM_cons] at ran
      obtain ⟨_, first, between, second, head, tail, rfl⟩ := Exec.run_bind_ok_iff.mp ran
      obtain ⟨uniqueBetween, swept, others⟩ := removeStaleFinalizers_ok unique isCurrent head
      have stillCurrent : ∀ later ∈ rest,
          between.finalizersOf .volumeGroup later.name = later.metadata.finalizers := by
        intro later member
        have different : later.name ≠ vg.name := fun same =>
          distinct.1 (same ▸ List.mem_map_of_mem member)
        rw [World.finalizersOf, others _ different]
        exact currentRest later member
      obtain ⟨uniqueAfter, sweptRest, othersRest⟩ :=
        inductionHypothesis uniqueBetween distinct.2 stillCurrent tail
      refine ⟨uniqueAfter, ?_, ?_⟩
      · rw [List.forall_mem_cons]
        refine ⟨?_, sweptRest⟩
        rw [World.finalizersOf, othersRest _ distinct.1]
        exact swept
      · intro other outside
        rw [List.map_cons, List.mem_cons, not_or] at outside
        exact (othersRest other outside.2).trans (others other outside.1)

/-- What `checkStaleNodeFinalizers` makes of every volume group. -/
theorem checkStaleNodeFinalizers_ok
    (unique : world.api.Unique .volumeGroup)
    (ran : Exec (environment host) (checkStaleNodeFinalizers nodes).run world events (.ok ())
      after) :
    after.api.Unique .volumeGroup ∧
      (∀ vg ∈ world.api.objects .volumeGroup,
        after.finalizersOf .volumeGroup vg.name =
          sweep (countsAsStale nodes) "" vg.metadata.finalizers vg.metadata.finalizers
            (List.range vg.metadata.finalizers.length)) ∧
      ∀ other ∉ (world.api.objects .volumeGroup).map (·.name),
        after.api.find? .volumeGroup other = world.api.find? .volumeGroup other := by
  obtain ⟨listed, first, between, second, head, tail, rfl⟩ := Exec.run_attempt_bind_iff.mp ran
  cases listed with
  | error err =>
      dsimp only at tail
      rw [Client.list_error head] at tail
      exact (Exec.run_throw_not_ok tail).elim
  | ok vgs =>
      obtain ⟨rfl, rfl⟩ := Client.list_ok head
      exact releaseStale_ok unique unique
        (fun vg member => World.finalizersOf_of_find? (unique.find?_of_mem member)) tail

/-- No volume group waits for a node that is not in a list, and every other finalizer is
still there, in its place. -/
structure StaleReleased (nodes : List String) (world after : World) : Prop where
  released : ∀ vg ∈ after.api.objects .volumeGroup, ∀ node, node ∉ nodes →
    getFinalizer node ∉ vg.metadata.finalizers
  kept : ∀ vg ∈ world.api.objects .volumeGroup,
    (after.finalizersOf .volumeGroup vg.name).filter (!isStale nodes ·) =
      vg.metadata.finalizers.filter (!isStale nodes ·)

/-- No finalizer that counts as stale occurs twice at a volume group. -/
def StaleDistinct (nodes : List String) (vg : LVMVolumeGroup) : Prop :=
  (vg.metadata.finalizers.filter (countsAsStale nodes)).Nodup

/-- The finalizers that are stale are those that count as stale and that the loop does not
pass over. -/
def StaleSeen (nodes : List String) (vg : LVMVolumeGroup) : Prop :=
  ∀ before finalizer after, vg.metadata.finalizers = before ++ finalizer :: after →
    (isStale nodes finalizer = true ↔
      countsAsStale nodes finalizer = true ∧
        ¬PassedOver (countsAsStale nodes) before after)

/-- What counts as stale at a volume group is stale, and stands alone. -/
def StaleApart (nodes : List String) (vg : LVMVolumeGroup) : Prop :=
  (∀ finalizer ∈ vg.metadata.finalizers,
    countsAsStale nodes finalizer = true → isStale nodes finalizer = true) ∧
  Sweep.Isolated (countsAsStale nodes) vg.metadata.finalizers

/-- The loop handles the finalizers of a volume group. -/
def StaleReleasable (nodes : List String) (vg : LVMVolumeGroup) : Prop :=
  StaleDistinct nodes vg ∧ StaleSeen nodes vg ∨ StaleApart nodes vg

/-- What is stale counts as stale. -/
theorem countsAsStale_of_isStale
    {finalizer : String}
    (stale : isStale nodes finalizer = true) :
    countsAsStale nodes finalizer = true := by
  obtain ⟨node, gone, rfl⟩ := isStale_iff.mp stale
  rw [countsAsStale, getFinalizer, stringsTrimPrefix_append, String.append_assoc,
    stringsHasPrefix_append]
  simpa using gone

/-- The other finalizers are what is left. -/
theorem staleReleased_iff
    (unique : world.api.Unique .volumeGroup)
    (ran : Exec (environment host) (checkStaleNodeFinalizers nodes).run world events (.ok ())
      after) :
    StaleReleased nodes world after ↔
      ∀ vg ∈ world.api.objects .volumeGroup,
        sweep (countsAsStale nodes) "" vg.metadata.finalizers vg.metadata.finalizers
            (List.range vg.metadata.finalizers.length) =
          vg.metadata.finalizers.filter (!isStale nodes ·) := by
  obtain ⟨uniqueAfter, swept, others⟩ := checkStaleNodeFinalizers_ok unique ran
  constructor
  · intro property vg member
    rw [← swept vg member, ← property.kept vg member, eq_comm, List.filter_eq_self]
    intro finalizer carried
    rw [World.finalizersOf] at carried
    cases found : after.api.find? .volumeGroup vg.name with
    | none => simp [found] at carried
    | some new =>
        rw [found] at carried
        rw [Bool.not_eq_true', ← Bool.not_eq_true, isStale_iff]
        rintro ⟨node, gone, rfl⟩
        exact property.released new (List.mem_of_find?_eq_some found) node gone carried
  · intro same
    refine ⟨?_, ?_⟩
    · intro new member node gone carried
      have found := uniqueAfter.find?_of_mem member
      have known : new.name ∈ (world.api.objects .volumeGroup).map (·.name) := by
        by_contra unknown
        have there := List.mem_of_find?_eq_some ((others _ unknown).symm.trans found)
        exact unknown (List.mem_map_of_mem there)
      obtain ⟨vg, isVG, named⟩ := List.mem_map.mp known
      have becomes := swept vg isVG
      rw [same vg isVG, named] at becomes
      have left := (World.finalizersOf_of_find? found).symm.trans becomes
      change getFinalizer node ∈ (Kind.metadata .volumeGroup new).finalizers at carried
      rw [left, List.mem_filter, Bool.not_eq_true', ← Bool.not_eq_true, isStale_iff]
        at carried
      exact carried.2 ⟨node, gone, rfl⟩
    · intro vg member
      rw [swept vg member, same vg member, List.filter_filter]
      simp

theorem staleSeen_iff
    (distinct : StaleDistinct nodes vg) :
    StaleSeen nodes vg ↔
      sweep (countsAsStale nodes) "" vg.metadata.finalizers vg.metadata.finalizers
          (List.range vg.metadata.finalizers.length) =
        vg.metadata.finalizers.filter (!isStale nodes ·) := by
  rw [Sweep.eq_filter_iff_of_distinct distinct]
  refine forall_congr' fun before => forall_congr' fun finalizer => forall_congr' fun after =>
    imp_congr_right fun _ => ?_
  rw [← not_iff_not (a := isStale nodes finalizer = true), not_and, not_not,
    imp_iff_not_or, Bool.not_eq_true, Bool.not_eq_true, Bool.not_eq_true']

theorem sweep_of_staleReleasable
    (releasable : StaleReleasable nodes vg) :
    sweep (countsAsStale nodes) "" vg.metadata.finalizers vg.metadata.finalizers
        (List.range vg.metadata.finalizers.length) =
      vg.metadata.finalizers.filter (!isStale nodes ·) := by
  rcases releasable with ⟨distinct, seen⟩ | ⟨stale, isolated⟩
  · exact (staleSeen_iff distinct).mp seen
  · rw [Sweep.eq_filter_of_isolated isolated]
    apply List.filter_congr
    intro finalizer member
    rw [Bool.not_inj_iff, Bool.eq_iff_iff]
    exact ⟨stale finalizer member, countsAsStale_of_isStale⟩

/-- All stale finalizers are removed, and no others, if the loop handles the finalizers of
every volume group; when no finalizer is listed twice, only then. -/
theorem staleFinalizers_released_iff
    (unique : world.api.Unique .volumeGroup)
    (ran : Exec (environment host) (checkStaleNodeFinalizers nodes).run world events (.ok ())
      after) :
    ((∀ vg ∈ world.api.objects .volumeGroup, StaleReleasable nodes vg) →
      StaleReleased nodes world after) ∧
    ((∀ vg ∈ world.api.objects .volumeGroup, StaleDistinct nodes vg) →
      StaleReleased nodes world after →
      ∀ vg ∈ world.api.objects .volumeGroup, StaleReleasable nodes vg) := by
  rw [staleReleased_iff unique ran]
  constructor
  · intro releasable vg member
    exact sweep_of_staleReleasable (releasable vg member)
  · intro distinct same vg member
    exact .inl ⟨distinct vg member, (staleSeen_iff (distinct vg member)).mpr (same vg member)⟩

/-- A world with one volume group. -/
def waitingWorld (finalizers : List String) : World :=
  let vg : LVMVolumeGroup := { metadata := { name := "vg1", finalizers }, spec := {} }
  { World.empty with api := World.empty.api.set .volumeGroup [vg] }

/-- The stale finalizers of that volume group are removed by a run without failures. -/
def staleRun (finalizers : List String) :
    List (Event sig World) × Except GoError Unit × World :=
  Program.run (environment "") (fun _ _ => {}) (checkStaleNodeFinalizers ["node"]).run
    (waitingWorld finalizers)

theorem staleFinalizers_released_iff_separated :
    StaleReleased ["node"]
      (waitingWorld [getFinalizer "gone", getFinalizer "node", getFinalizer "lost"])
      (staleRun [getFinalizer "gone", getFinalizer "node", getFinalizer "lost"]).2.2 := by
  have succeeds : (staleRun [getFinalizer "gone", getFinalizer "node",
      getFinalizer "lost"]).2.1 = .ok () := by
    decide +kernel
  have unique : (waitingWorld [getFinalizer "gone", getFinalizer "node",
      getFinalizer "lost"]).api.Unique .volumeGroup := List.nodup_singleton _
  refine (staleFinalizers_released_iff unique
    (succeeds ▸ Program.run_exec (environment "") (fun _ _ => {}) _ _)).1 ?_
  intro vg member
  obtain rfl := List.mem_singleton.mp member
  right
  constructor <;> decide +kernel

/-- Of three nodes that are gone the volume group still waits for the second one. -/
theorem passedOver_finalizer_stays :
    (staleRun [getFinalizer "a", getFinalizer "b", getFinalizer "c"]).2.1 = .ok () ∧
      ¬StaleReleased ["node"]
        (waitingWorld [getFinalizer "a", getFinalizer "b", getFinalizer "c"])
        (staleRun [getFinalizer "a", getFinalizer "b", getFinalizer "c"]).2.2 := by
  refine ⟨by decide +kernel, fun property => ?_⟩
  have waits : ∃ vg ∈ (staleRun [getFinalizer "a", getFinalizer "b",
      getFinalizer "c"]).2.2.api.objects .volumeGroup,
      getFinalizer "b" ∈ vg.metadata.finalizers := by
    decide +kernel
  obtain ⟨vg, member, carried⟩ := waits
  exact property.released vg member "b" (by decide) carried

/-! ## Logical volumes -/

/-- The finalizer that `logicalVolumesExist` removes. -/
abbrev logicalVolumeFinalizer : String := "topolvm.io/logicalvolume"

/-- The logical volumes of other nodes than the listed ones are released, those of the
listed ones are as they were, and the answer says whether there are any. -/
structure VolumesReleased
    (nodes : List String)
    (volumes : List TopolvmLogicalVolume)
    (found : Bool)
    (after : World) : Prop where
  released : ∀ volume ∈ volumes, volume.nodeName ∉ nodes →
    logicalVolumeFinalizer ∉ after.finalizersOf .logicalVolume volume.metadata.name
  untouched : ∀ volume ∈ volumes, volume.nodeName ∈ nodes →
    after.api.find? .logicalVolume volume.metadata.name = some volume
  answer : found = true ↔ ∃ volume ∈ volumes, volume.nodeName ∈ nodes

/-- Behind a logical volume of a listed node there is none to release. -/
def NoneBehind (nodes : List String) (volumes : List TopolvmLogicalVolume) : Prop :=
  volumes.Pairwise fun earlier later =>
    earlier.nodeName ∈ nodes → later.nodeName ∉ nodes →
      logicalVolumeFinalizer ∉ later.metadata.finalizers

theorem noneBehind_cons_of_gone
    (gone : volume.nodeName ∉ nodes) :
    NoneBehind nodes (volume :: rest) ↔ NoneBehind nodes rest := by
  rw [NoneBehind, List.pairwise_cons]
  exact and_iff_right fun _ _ isNode => absurd isNode gone

theorem noneBehind_cons_of_mem
    (isNode : volume.nodeName ∈ nodes) :
    NoneBehind nodes (volume :: rest) ↔
      ∀ later ∈ rest, later.nodeName ∉ nodes →
        logicalVolumeFinalizer ∉ later.metadata.finalizers := by
  rw [NoneBehind, List.pairwise_cons]
  constructor
  · rintro ⟨head, -⟩ later member
    exact head later member isNode
  · intro bare
    exact ⟨fun later member _ => bare later member,
      List.pairwise_of_forall_mem_list fun _ _ later member _ => bare later member⟩

/-- A logical volume that is released adds nothing to what is left to do. -/
theorem volumesReleased_cons_of_gone
    {found : Bool}
    (gone : volume.nodeName ∉ nodes)
    (released : logicalVolumeFinalizer ∉
      after.finalizersOf .logicalVolume volume.metadata.name) :
    VolumesReleased nodes (volume :: rest) found after ↔
      VolumesReleased nodes rest found after := by
  have same : (∃ other ∈ volume :: rest, other.nodeName ∈ nodes) ↔
      ∃ other ∈ rest, other.nodeName ∈ nodes := by
    rw [List.exists_mem_cons_iff]
    exact or_iff_right gone
  constructor
  · rintro ⟨releasedAll, untouched, answer⟩
    exact ⟨(List.forall_mem_cons.mp releasedAll).2, (List.forall_mem_cons.mp untouched).2,
      answer.trans same⟩
  · rintro ⟨releasedRest, untouched, answer⟩
    exact ⟨List.forall_mem_cons.mpr ⟨fun _ => released, releasedRest⟩,
      List.forall_mem_cons.mpr ⟨fun there => absurd there gone, untouched⟩,
      answer.trans same.symm⟩

/-- When the loop ends at a logical volume of a listed node, those behind it are as they
were. -/
theorem volumesReleased_cons_of_mem
    (isNode : volume.nodeName ∈ nodes)
    (current : ∀ other ∈ volume :: rest,
      after.api.find? .logicalVolume other.metadata.name = some other) :
    VolumesReleased nodes (volume :: rest) true after ↔ NoneBehind nodes (volume :: rest) := by
  have carries : ∀ later ∈ rest, after.finalizersOf .logicalVolume later.metadata.name =
      later.metadata.finalizers := fun later member =>
    World.finalizersOf_of_find? (current later (.tail _ member))
  rw [noneBehind_cons_of_mem isNode]
  constructor
  · intro property later member gone
    rw [← carries later member]
    exact property.released later (.tail _ member) gone
  · intro bare
    refine ⟨?_, fun later member _ => current later member,
      iff_of_true rfl ⟨volume, .head _, isNode⟩⟩
    rw [List.forall_mem_cons]
    refine ⟨fun gone => absurd isNode gone, fun later member gone => ?_⟩
    rw [carries later member]
    exact bare later member gone

/-- The loop over the logical volumes. -/
theorem releaseLogicalVolumes_ok
    {volumes : List TopolvmLogicalVolume}
    {found : Bool}
    (unique : world.api.Unique .logicalVolume)
    (distinct : (volumes.map (·.metadata.name)).Nodup)
    (current : ∀ volume ∈ volumes,
      world.api.find? .logicalVolume volume.metadata.name = some volume)
    (ran : Exec (environment host) (releaseLogicalVolumes nodes volumes).run world events
      (.ok found) after) :
    (VolumesReleased nodes volumes found after ↔ NoneBehind nodes volumes) ∧
      ∀ other ∉ volumes.map (·.metadata.name),
        after.api.find? .logicalVolume other = world.api.find? .logicalVolume other := by
  induction volumes generalizing world events with
  | nil =>
      obtain ⟨-, isFound, rfl⟩ := Exec.run_pure_iff.mp ran
      obtain rfl := Except.ok.inj isFound
      refine ⟨iff_of_true ⟨by simp, by simp, by simp⟩ .nil, fun _ _ => rfl⟩
  | cons volume rest inductionHypothesis =>
      rw [List.map_cons, List.nodup_cons] at distinct
      obtain ⟨isCurrent, currentRest⟩ := List.forall_mem_cons.mp current
      rw [releaseLogicalVolumes] at ran
      by_cases isNode : volume.nodeName ∈ nodes
      · -- The loop ends here, and the rest of the list is as it was.
        rw [if_pos (List.contains_iff_mem.mpr isNode)] at ran
        obtain ⟨-, isFound, rfl⟩ := Exec.run_pure_iff.mp ran
        obtain rfl := Except.ok.inj isFound
        exact ⟨volumesReleased_cons_of_mem isNode current, fun _ _ => rfl⟩
      · rw [if_neg (mt List.contains_iff_mem.mp isNode)] at ran
        dsimp only at ran
        obtain ⟨updated, first, between, second, head, tail, rfl⟩ :=
          Exec.run_bind_ok_iff.mp ran
        obtain ⟨stillUnique, -, -, becomes, others⟩ :=
          Client.update_finalizers unique (Exec.run_mapError_ok_iff.mp head)
        have stillCurrent : ∀ later ∈ rest,
            between.api.find? .logicalVolume later.metadata.name = some later := by
          intro later member
          have different : later.metadata.name ≠ volume.metadata.name := fun same =>
            distinct.1 (same ▸ List.mem_map_of_mem member)
          exact (others _ different).trans (currentRest later member)
        obtain ⟨releasedRest, othersRest⟩ :=
          inductionHypothesis stillUnique distinct.2 stillCurrent tail
        have left : after.finalizersOf .logicalVolume volume.metadata.name =
            (volume.metadata.removeFinalizer logicalVolumeFinalizer).1.finalizers := by
          rw [World.finalizersOf, othersRest _ distinct.1]
          exact becomes
        have released : logicalVolumeFinalizer ∉
            after.finalizersOf .logicalVolume volume.metadata.name := by
          rw [left]
          exact ObjectMeta.not_mem_removeFinalizer _ _
        refine ⟨?_, ?_⟩
        · rw [noneBehind_cons_of_gone isNode, volumesReleased_cons_of_gone isNode released]
          exact releasedRest
        · intro other outside
          rw [List.map_cons, List.mem_cons, not_or] at outside
          exact (othersRest other outside.2).trans (others other outside.1)

/-- The logical volumes of the nodes that are gone are released exactly if none of them
comes after one of a node that exists. -/
theorem logicalVolumes_released_iff
    {found : Bool}
    (unique : world.api.Unique .logicalVolume)
    (ran : Exec (environment host) (logicalVolumesExist nodes).run world events (.ok found)
      after) :
    VolumesReleased nodes (world.api.objects .logicalVolume) found after ↔
      NoneBehind nodes (world.api.objects .logicalVolume) := by
  obtain ⟨volumes, first, between, second, head, tail, rfl⟩ := Exec.run_bind_ok_iff.mp ran
  obtain ⟨rfl, rfl⟩ := Client.list_ok (Exec.run_mapError_ok_iff.mp head)
  exact (releaseLogicalVolumes_ok unique unique
    (fun volume member => unique.find?_of_mem member) tail).1

/-- A world with a logical volume on each of some nodes, named after the node. -/
def volumesWorld (nodes : List String) : World :=
  let volumes : List TopolvmLogicalVolume := nodes.map fun nodeName =>
    { metadata := { name := nodeName, finalizers := [logicalVolumeFinalizer] }, nodeName }
  { World.empty with api := World.empty.api.set .logicalVolume volumes }

/-- The logical volumes are released by a run without failures. -/
def volumesRun (nodes : List String) :
    List (Event sig World) × Except GoError Bool × World :=
  Program.run (environment "") (fun _ _ => {}) (logicalVolumesExist ["node"]).run
    (volumesWorld nodes)

theorem logicalVolumes_released_iff_sorted :
    VolumesReleased ["node"] ((volumesWorld ["gone", "node"]).api.objects .logicalVolume)
      true (volumesRun ["gone", "node"]).2.2 := by
  have answers : (volumesRun ["gone", "node"]).2.1 = .ok true := by
    decide +kernel
  have unique : (volumesWorld ["gone", "node"]).api.Unique .logicalVolume := by
    change ["gone", "node"].Nodup
    decide
  refine (logicalVolumes_released_iff unique
    (answers ▸ Program.run_exec (environment "") (fun _ _ => {}) _ _)).mpr ?_
  rw [NoneBehind]
  decide +kernel

/-- A logical volume of a node that is gone comes after one of a node that exists: it keeps
its finalizer. -/
theorem volume_behind_kept :
    (volumesRun ["node", "gone"]).2.1 = .ok true ∧
      ¬VolumesReleased ["node"]
        ((volumesWorld ["node", "gone"]).api.objects .logicalVolume) true
        (volumesRun ["node", "gone"]).2.2 := by
  refine ⟨by decide +kernel, fun property => ?_⟩
  have waits : ∃ volume ∈ (volumesWorld ["node", "gone"]).api.objects .logicalVolume,
      volume.nodeName ∉ ["node"] ∧ logicalVolumeFinalizer ∈
        (volumesRun ["node", "gone"]).2.2.finalizersOf .logicalVolume
          volume.metadata.name := by
    decide +kernel
  obtain ⟨volume, member, gone, carried⟩ := waits
  exact property.released volume member gone carried

end Operator
end Lvms
