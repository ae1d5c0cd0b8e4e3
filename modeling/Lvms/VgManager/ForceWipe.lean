import Lvms.Operator.Migration
import Lvms.VgManager.Steps
import Lvms.VgManager.Wiping

/-!
# Force-wiping and live volume groups

With `forceWipeDevicesAndDestroyAllData` the devices of a selector are wiped
before they are added to the volume group, and an annotation keeps later
reconciliations from wiping them again. The annotation is only set when a device
was wiped. A failure to wipe the device of an optional path is ignored, so that
the device can be added without the annotation. As long as wiping does not fail
and paths do not change under the reconciliation, no member of the volume group
is wiped.
-/

namespace Lvms

open Interaction

variable {name device node : String} {event : Event sig World} {events : List (Event sig World)}
variable {r : Reconciler} {before after : World}

/-! ## Events -/

/-- The devices that an event adds to a volume group. -/
def addedDevices (name : String) : Event sig World → List String
  | ⟨_, .command (.vgcreate vg _ devices), .ok ()⟩ => if vg = name then devices else []
  | ⟨_, .command (.vgextend vg devices), .ok ()⟩ => if vg = name then devices else []
  | _ => []

/-- The names of the devices on top of those with a name. -/
def namesAbove (devices : List BlockDevice) (name : String) : List String :=
  ((allDevices devices).filter (·.kname == name)).flatMap
    fun device => allNames device.children

/-- The event wipes a device or removes a device-mapper reference on top of it. -/
def wipes (node device : String) : Event sig World → Bool
  | ⟨_, .command (.wipefs wiped), _⟩ => wiped == device
  | ⟨before, .command (.dmsetupRemove removed), _⟩ =>
      (namesAbove (before.host node).blockDevices device).contains removed
  | _ => false

/-- The device is a physical volume of a volume group. -/
def IsMember (host : Host) (name device : String) : Prop :=
  ∃ pv ∈ host.physicalVolumes, pv.pvName = device ∧ pv.vgName = name

/-- Once a device has been added to the volume group, no event wipes it as long as
it stays a member. -/
def SparesMembers (node name : String) (events : List (Event sig World)) : Prop :=
  ∀ device earlier added between last later,
    events = earlier ++ added :: (between ++ last :: later) →
    device ∈ addedDevices name added →
    (∀ event ∈ between ++ [last], IsMember (event.before.host node) name device) →
    wipes node device last = false

theorem effect_of_addedDevices
    (added : device ∈ addedDevices name event) :
    event.request.effect = .grow := by
  unfold addedDevices at added
  split at added
  · rfl
  · rfl
  · cases added

/-- Only calls that wipe wipe. -/
theorem wipes_of_effect
    (spares : event.request.effect ≠ .wipe) :
    wipes node device event = false := by
  unfold wipes
  split
  · exact absurd rfl spares
  · exact absurd rfl spares
  · rfl

/-- It is enough that nothing is wiped once anything has been added. -/
theorem SparesMembers.of_pairwise
    (ordered : events.Pairwise fun first second =>
      first.request.effect = .grow → second.request.effect ≠ .wipe) :
    SparesMembers node name events := by
  rintro device earlier added between last later rfl isAdded _
  refine wipes_of_effect ?_
  have suffix := (List.pairwise_append.mp ordered).2.1
  exact List.rel_of_pairwise_cons suffix (by simp) (effect_of_addedDevices isAdded)

/-! ## Careful environments -/

/-- Paths lead where given, and devices are wiped without a failure. -/
def careful (asked : String → Prop) (links : String → Option String) :
    Event sig World → Prop
  | ⟨_, .query (.evalSymlinks path), answer⟩ =>
      asked path → Except.toOption answer = links path
  | ⟨_, .command (.wipefs _), answer⟩ => answer = .ok ()
  | _ => True

theorem careful_dependable
    {host : Host}
    {asked : String → Prop}
    {links : String → Option String} :
    Dependable node (careful asked links) host asked links where
  answers choice world path sameHost isAsked assumed := by
    rw [← sameHost]
    exact assumed isAsked
  wipes _ _ _ assumed := assumed

section Careful

variable {r : Reconciler} {vg : LVMVolumeGroup} {world : World} {host : Host}
variable {asked : String → Prop} {links : String → Option String}
variable {selector : DeviceSelector}

/-- If no path leads to a device of the host, none is available. -/
theorem filterDevices_careful
    {options : FilterOptions}
    {devices : List BlockDevice}
    (isSelector : options.vg.spec.deviceSelector = some selector)
    (areAsked : ∀ path ∈ selector.allPaths, asked path)
    (unlinked : ∀ path ∈ selector.allPaths, Unlinked links devices path)
    (named : "" ∉ allNames devices)
    (current : Current r.nodeName host asked links world) :
    wp (environment r.nodeName) (.assuming (careful asked links))
      (filterDevices (defaultFilters options) devices)
      (fun result _ => result.available = []) world := by
  refine (filterDevices_acceptable (resolve_wp careful_dependable) current).mono ?_
  rintro result _ ⟨_, acceptable⟩
  refine List.eq_nil_iff_forall_not_mem.mpr fun device member => ?_
  obtain ⟨listed, isAcceptable⟩ := acceptable device member
  obtain ⟨path, isPath, answer, isAnswer, leads⟩ :=
    isAcceptable.selected selector isSelector
  obtain rfl := isAnswer (areAsked path isPath)
  have isName : (links path).getD "" ∈ allNames devices :=
    leads ▸ List.mem_map_of_mem listed
  by_cases empty : (links path).getD "" = ""
  · exact named (empty ▸ isName)
  · exact unlinked path isPath empty isName

theorem Reconciler.reconcileDevices_careful
    {devices : List BlockDevice}
    (vgs : List VolumeGroup)
    (isSelector : vg.spec.deviceSelector = some selector)
    (areAsked : ∀ path ∈ selector.allPaths, asked path)
    (unlinked : ∀ path ∈ selector.allPaths, Unlinked links devices path)
    (named : "" ∉ allNames devices)
    (current : Current r.nodeName host asked links world) :
    wp (environment r.nodeName) (avoiding (careful asked links) .grow)
      (r.reconcileDevices vg vgs devices).run (fun _ _ => True) world := by
  simp only [Reconciler.reconcileDevices, wp.run_bind_iff, wp.run_mapError_iff,
    wp.run_lift_iff]
  refine wp_avoiding (wp_reading (within (Lvm.listPVs_uses _) (by simp))
    fun _ => ⟨fun _ _ => trivial, fun pvs _ => ?_⟩) (Lvm.listPVs_uses _) (by decide)
  refine wp_avoiding (wp_reading (within (blockDeviceInfos_uses _) (by simp))
    fun bdi => ⟨fun _ _ => trivial, fun bdi _ => ?_⟩) (blockDeviceInfos_uses _)
    (by decide)
  refine (wp_avoiding (filterDevices_careful isSelector areAsked unlinked named current)
    (filterDevices_uses ..) (by decide)).mono ?_
  intro filtered _ empty
  refine ⟨fun _ _ => trivial, ?_⟩
  rintro _ ⟨⟩
  exact wp_avoiding_of_uses (r.useDevices_uses_of_empty empty) (by decide)

/-- A volume group that is to be wiped is not extended in the same
reconciliation. -/
theorem Reconciler.reconcileLive_careful
    (isSelector : vg.spec.deviceSelector = some selector)
    (areAsked : ∀ path ∈ selector.allPaths, asked path)
    (wanted : shouldWipeDevicesOnVolumeGroup r.nodeName vg = true)
    (named : "" ∉ allNames (world.host r.nodeName).blockDevices)
    (fresh : (world.memory r.nodeName).resolved = []) :
    wp (environment r.nodeName) (avoiding (careful asked links) .grow)
      (r.reconcileLive vg).run (fun _ _ => True) world := by
  have current : Current r.nodeName (world.host r.nodeName) asked links world :=
    ⟨rfl, by simp [fresh, GoMap.get?]⟩
  simp only [Reconciler.reconcileLive, listBlockDevices, wp.run_bind_iff,
    wp.run_mapError_iff]
  refine wp_avoiding (wp_query_of_report (fun _ => ⟨fun _ _ => trivial, by simp
    [Except.mapError]⟩) ⟨fun _ _ => trivial, ?_⟩) (query_uses _) (by decide)
  rintro _ ⟨⟩
  refine wp_avoiding (wp_reading (within Reconciler.refreshVGs_uses (by simp))
    fun vgs => ⟨fun _ _ => trivial, fun vgs _ => ?_⟩) Reconciler.refreshVGs_uses
    (by decide)
  cases r.checkRAIDVGHealth vgs vg with
  | error error =>
      exact wp_avoiding_of_uses (.run_bind (.run_lift
        (within (r.warningEvent_uses ..) (by decide))) fun _ =>
        .run_bind (.run_lift (r.reportFailure_uses ..)) fun _ => trivial) (by decide)
  | ok =>
      simp only [wp.run_bind_iff, wp.run_mapError_iff]
      refine (wp_avoiding (wipeDevices_wp careful_dependable r.nodeName _ ?_ current)
        (wipeDevices_uses ..) (by decide)).mono ?_
      · rintro _ same
        obtain rfl := Option.some.inj (isSelector.symm.trans same)
        exact areAsked
      · rintro result after unwiped
        refine ⟨fun _ _ => trivial, fun wiped succeeded => ?_⟩
        rw [Except.mapError_eq_ok_iff] at succeeded
        cases wiped with
        | some annotated =>
            exact wp_avoiding_of_uses (.run_bind (Client.update_uses ..)
              fun _ => trivial) (by decide)
        | none =>
            obtain ⟨stillCurrent, unlinked⟩ := unwiped succeeded
            exact Reconciler.reconcileDevices_careful vgs isSelector areAsked
              (unlinked wanted selector isSelector) named stillCurrent

theorem Reconciler.reconcile_careful
    (isSelector : vg.spec.deviceSelector = some selector)
    (areAsked : ∀ path ∈ selector.allPaths, asked path)
    (wanted : shouldWipeDevicesOnVolumeGroup r.nodeName vg = true)
    (named : "" ∉ allNames (world.host r.nodeName).blockDevices)
    (fresh : (world.memory r.nodeName).resolved = []) :
    wp (environment r.nodeName) (avoiding (careful asked links) .grow)
      (r.reconcile vg).run (fun _ _ => True) world := by
  dsimp only [Reconciler.reconcile]
  split
  · exact wp_avoiding_of_uses (.run_bind (r.processDelete_uses vg) fun _ => trivial)
      (by decide)
  · split
    · exact wp_avoiding_of_uses (.run_bind (Client.update_uses ..) fun _ => trivial)
        (by decide)
    · exact Reconciler.reconcileLive_careful isSelector areAsked wanted named fresh

end Careful

/-! ## Runs -/

/-- The volume group is to be wiped by force. -/
def IsForced (vg : LVMVolumeGroup) : Prop :=
  WipeRefactor.wipingEnabled vg = true

/-- The flag of the device selector. -/
theorem isForced_iff {vg : LVMVolumeGroup} :
    IsForced vg ↔ ∃ selector, vg.spec.deviceSelector = some selector ∧
      selector.forceWipeDevicesAndDestroyAllData = some true := by
  cases isSelector : vg.spec.deviceSelector <;>
    simp [IsForced, WipeRefactor.wipingEnabled, isSelector]

/-- The node has recorded that it has wiped the devices of the volume group. -/
def IsMarked (node : String) (vg : LVMVolumeGroup) : Prop :=
  vg.metadata.annotations.has (devicesWipedKey node) = true

/-- A path of the selector of a volume group. -/
def IsPath (vg : LVMVolumeGroup) (path : String) : Prop :=
  ∃ selector, vg.spec.deviceSelector = some selector ∧ path ∈ selector.allPaths

/-- While the volume group is not marked: every block device has a name, all
attempts to resolve a path have one outcome, and no device fails to be wiped. -/
def CarefulWith
    (r : Reconciler)
    (name : String)
    (before : World)
    (events : List (Event sig World)) : Prop :=
  ∀ vg, before.api.find? .volumeGroup name = some vg → ¬IsMarked r.nodeName vg →
    "" ∉ allNames (before.host r.nodeName).blockDevices ∧
      ∃ links, ∀ event ∈ events, careful (IsPath vg) links event

/-- Between reconciliations anything can change, but not the mark of the volume
group, and it stays one that is to be wiped by force. -/
def Drift (node name : String) (before after : World) : Prop :=
  ∀ new, after.api.find? .volumeGroup name = some new → IsForced new ∧
    ∃ old, before.api.find? .volumeGroup name = some old ∧
      (IsMarked node old → IsMarked node new)

/-- The volume group with a name has a property. -/
def OfVolumeGroup (name : String) (property : LVMVolumeGroup → Prop) (world : World) :
    Prop :=
  ∀ vg, world.api.find? .volumeGroup name = some vg → property vg

/-- Devices are to be wiped when it is asked for and has not been done on the node. -/
theorem shouldWipe_iff
    {vg : LVMVolumeGroup} :
    shouldWipeDevicesOnVolumeGroup node vg = true ↔ IsForced vg ∧ ¬IsMarked node vg := by
  cases isSelector : vg.spec.deviceSelector <;>
    simp [shouldWipeDevicesOnVolumeGroup, isForced_iff, IsMarked, isSelector]

/-- A reconciliation keeps the volume group one that is to be wiped by force, and
keeps its mark. -/
theorem ReconcileStep.keeps
    (step : ReconcileStep r name before events after) :
    (OfVolumeGroup name IsForced before → OfVolumeGroup name IsForced after) ∧
      (OfVolumeGroup name (IsMarked r.nodeName) before →
        OfVolumeGroup name (IsMarked r.nodeName) after) := by
  obtain ⟨_, _, _, _, ⟨_, rfl⟩ | ⟨vg, result, found, ran⟩⟩ := step.cases
  · exact ⟨id, id⟩
  have start : (before.withNewResolver r.nodeName).api.find? .volumeGroup name =
    some vg := found
  have descends := Reconciler.descends_of_exec start ran
  constructor
  · intro forced new isNew
    rw [isForced_iff, (descends new isNew).spec]
    exact isForced_iff.mp (forced vg found)
  · exact fun marked new isNew => (descends new isNew).annotations _ (marked vg found)

/-- A reconciliation of a marked volume group wipes nothing. -/
theorem ReconcileStep.wipes_nothing
    (step : ReconcileStep r name before events after)
    (marked : OfVolumeGroup name (IsMarked r.nodeName) before) :
    ∀ event ∈ events, event.request.effect ≠ .wipe := by
  obtain ⟨first, rest, rfl, reads, continued⟩ := step.cases
  refine List.forall_mem_append.mpr ⟨fun event member isWipe => ?_, ?_⟩
  · exact absurd (isWipe ▸ reads event member) (by decide)
  rcases continued with ⟨rfl, _⟩ | ⟨vg, result, found, ran⟩
  · simp
  · have spared : shouldWipeDevicesOnVolumeGroup r.nodeName vg = false := by
      have isMarked : _ = true := marked vg found
      cases isSelector : vg.spec.deviceSelector <;>
        simp [shouldWipeDevicesOnVolumeGroup, isSelector, isMarked]
    intro event member isWipe
    have used := (r.reconcile_uses_of_spared spared).events_allowed ran event member
    exact absurd (isWipe ▸ used : Effect.wipe ∈ sparingEffects) (by decide)

/-- A careful reconciliation of an unmarked volume group adds nothing to it. -/
theorem ReconcileStep.adds_nothing
    (step : ReconcileStep r name before events after)
    (withCare : CarefulWith r name before events)
    (forced : OfVolumeGroup name IsForced before)
    (unmarked : ¬OfVolumeGroup name (IsMarked r.nodeName) before) :
    ∀ event ∈ events, event.request.effect ≠ .grow := by
  obtain ⟨first, rest, rfl, reads, continued⟩ := step.cases
  refine List.forall_mem_append.mpr ⟨fun event member isGrow => ?_, ?_⟩
  · exact absurd (isGrow ▸ reads event member) (by decide)
  rcases continued with ⟨rfl, _⟩ | ⟨vg, result, found, ran⟩
  · simp
  · have notMarked : ¬IsMarked r.nodeName vg := by
      intro isMarked
      refine unmarked fun other isOther => ?_
      obtain rfl := Option.some.inj (found.symm.trans isOther)
      exact isMarked
    obtain ⟨named, links, cared⟩ := withCare vg found notMarked
    obtain ⟨selector, isSelector, _⟩ := isForced_iff.mp (forced vg found)
    have avoids : wp (environment r.nodeName) (avoiding (careful (IsPath vg) links) .grow)
        (r.reconcile vg).run (fun _ _ => True) (before.withNewResolver r.nodeName) :=
      Reconciler.reconcile_careful isSelector
        (fun path isPath => ⟨selector, isSelector, isPath⟩)
        (shouldWipe_iff.mpr ⟨forced vg found, notMarked⟩) named
        (by simp [World.withNewResolver])
    exact (avoids.sound ran fun event member =>
      cared event (List.mem_append_right _ member)).1

/-- In every run of careful reconciliations, between which the mark of the volume
group is left alone, no member of the volume group is wiped. -/
theorem sparesMembers_of_careful
    (r : Reconciler)
    (name : String)
    (world world' : World)
    (events : List (Event sig World))
    (forced : OfVolumeGroup name IsForced world)
    (run : History (fun before added after =>
      (ReconcileStep r name before added after ∧ CarefulWith r name before added) ∨
        added = [] ∧ Drift r.nodeName name before after) world events world') :
    SparesMembers r.nodeName name events := by
  -- What has been added was added under the mark, which then stays.
  refine .of_pairwise (run.induct (fun events world =>
    events.Pairwise (fun first second =>
      first.request.effect = .grow → second.request.effect ≠ .wipe) ∧
    OfVolumeGroup name IsForced world ∧
    ((∃ event ∈ events, event.request.effect = .grow) →
      OfVolumeGroup name (IsMarked r.nodeName) world)) ?_ ?_).1
  · exact ⟨.nil, forced, by simp⟩
  rintro earlier before added after ⟨ordered, isForced, marked⟩ step
  rcases step with ⟨step, withCare⟩ | ⟨rfl, drift⟩
  · have keeps := step.keeps
    by_cases isMarked : OfVolumeGroup name (IsMarked r.nodeName) before
    · have spared := step.wipes_nothing isMarked
      refine ⟨List.pairwise_append.mpr ⟨ordered, ?_, ?_⟩, keeps.1 isForced,
        fun _ => keeps.2 isMarked⟩
      · exact List.pairwise_of_forall_mem_list fun _ _ second member _ =>
          spared second member
      · exact fun _ _ second member _ => spared second member
    · have unchanged := step.adds_nothing withCare isForced isMarked
      have nothingBefore : ∀ event ∈ earlier, event.request.effect ≠ .grow :=
        fun event member isGrow => isMarked (marked ⟨event, member, isGrow⟩)
      have nothing : ∀ event ∈ earlier ++ added, event.request.effect ≠ .grow :=
        List.forall_mem_append.mpr ⟨nothingBefore, unchanged⟩
      refine ⟨List.pairwise_of_forall_mem_list fun first member _ _ isGrow =>
        absurd isGrow (nothing first member), keeps.1 isForced, ?_⟩
      rintro ⟨event, member, isGrow⟩
      exact absurd isGrow (nothing event member)
  · rw [List.append_nil]
    refine ⟨ordered, fun new isNew => (drift new isNew).1, fun grown new isNew => ?_⟩
    obtain ⟨_, old, isOld, kept⟩ := drift new isNew
    exact kept (marked grown old isOld)

/-! ### A device that cannot be wiped at first -/

/-- A volume group with one optional device, to be wiped by force. -/
def forcedVG : LVMVolumeGroup where
  metadata := { name := "vg1" }
  spec := { deviceSelector := some {
    optionalPaths := ["/dev/sdb"]
    forceWipeDevicesAndDestroyAllData := some true } }

def forcedWorld : World where
  api := ⟨fun
    | .volumeGroup => [forcedVG]
    | .nodeStatus => [{ metadata := { name := "node" } }]
    | .node => [{ metadata := { name := "node" } }]
    | _ => []⟩
  host := fun _ => {
    blockDevices := [.mk "/dev/sdb" "/dev/sdb" "disk" "" "" false "" []]
    symlinks := fun path => if path = "/dev/sdb" then some "/dev/sdb" else none }
  memory := fun _ => {}

theorem forcedWorld_forced : OfVolumeGroup "vg1" IsForced forcedWorld := by
  rintro _ ⟨⟩
  rfl

/-- A reconciliation of the volume group on its node. -/
def reconcileForced (pick : World → Request → Choice) (world : World) :
    List (Event sig World) × Except GoError Result × World :=
  (Reconciler.plain "node").runWith "vg1" pick world

/-- The worlds of a run in which nothing fails. -/
def forcedRun : Nat → World
  | 0 => forcedWorld
  | count + 1 => (reconcileForced (fun _ _ => {}) (forcedRun count)).2.2

/-- The events of the run up to a world. -/
def forcedEvents : Nat → List (Event sig World)
  | 0 => []
  | count + 1 => forcedEvents count ++ (reconcileForced (fun _ _ => {}) (forcedRun count)).1

/-- The check of `careful` for the paths of the volume group. -/
def leadsStraight : Event sig World → Bool
  | ⟨_, .query (.evalSymlinks path), answer⟩ => Except.toOption answer == some path
  | ⟨_, .command (.wipefs _), answer⟩ => (Except.toOption answer).isSome
  | _ => true

theorem careful_of_leadsStraight
    {asked : String → Prop}
    (straight : leadsStraight event = true) :
    careful asked some event := by
  obtain ⟨before, request, answer⟩ := event
  cases request with
  | query query =>
      cases query with
      | evalSymlinks path => exact fun _ => by simpa [leadsStraight] using straight
      | lsblk | losetup | vgs | pvs | lvs | openFile | readFile => exact trivial
  | command run =>
      cases run with
      | wipefs device =>
          cases answer with
          | ok => rfl
          | error error => cases straight
      | vgcreate | vgextend | vgreduce | vgchangeDeactivate | vgremove | pvremove
      | lvmdevicesDelpvid | lvcreate | lvextend | lvextendMetadata | lvchangeActivate
      | lvchangeDeactivate | lvremove | dmsetupRemove | writeFile | removeFile =>
          exact trivial
  | api | newResolver | loadResolved | storeResolved | cachedConfig | cacheConfig
  | mapOrder | now | event | raidMetrics | dropRAIDMetrics | turn | otherManager =>
      exact trivial

/-- Each reconciliation of the run is careful. -/
theorem forcedRun_history (count : Nat) :
    (∀ earlier < count,
      (∀ event ∈ (reconcileForced (fun _ _ => {}) (forcedRun earlier)).1,
        leadsStraight event = true) ∧
      "" ∉ allNames ((forcedRun earlier).host "node").blockDevices) →
    History (fun before added after =>
      (ReconcileStep (.plain "node") "vg1" before added after ∧
        CarefulWith (.plain "node") "vg1" before added) ∨
      added = [] ∧ Drift "node" "vg1" before after)
      forcedWorld (forcedEvents count) (forcedRun count) := by
  induction count with
  | zero => exact fun _ => .start _
  | succ count inductionHypothesis =>
      intro checked
      refine (inductionHypothesis fun earlier before =>
        checked earlier (by omega)).next (.inl ⟨Reconciler.runWith_step .., ?_⟩)
      obtain ⟨straight, named⟩ := checked count (by omega)
      exact fun vg _ _ => ⟨named, some, fun event member =>
        careful_of_leadsStraight (straight event member)⟩

/-- Four reconciliations register the node, wipe the device, report the progress and
create the volume group; the device is spared from then on. -/
theorem sparesMembers_of_careful_vg1 :
    (∃ event ∈ forcedEvents 4, "/dev/sdb" ∈ addedDevices "vg1" event) ∧
      SparesMembers "node" "vg1" (forcedEvents 4) :=
  ⟨by decide +kernel, sparesMembers_of_careful (.plain "node") "vg1" forcedWorld
    (forcedRun 4) (forcedEvents 4) forcedWorld_forced
    (forcedRun_history 4 (by decide +kernel))⟩

/-- The first addition in some events is followed by a wipe in later ones, between
which the device stays a member. -/
def wipesLater
    (node name device : String)
    (events later : List (Event sig World)) : Bool :=
  match events.dropWhile fun event => !(addedDevices name event).contains device,
    later.dropWhile fun event => !wipes node device event with
  | added :: between, last :: _ =>
      (addedDevices name added).contains device && wipes node device last &&
        (between ++ (later.takeWhile fun event => !wipes node device event) ++
          [last]).all fun event => (event.before.host node).physicalVolumes.any fun pv =>
            pv.pvName == device && pv.vgName == name
  | _, _ => false

theorem not_sparesMembers_of_wipesLater
    {earlier later : List (Event sig World)}
    (wiped : wipesLater node name device events later = true) :
    ¬SparesMembers node name (earlier ++ events ++ later) := by
  intro spares
  unfold wipesLater at wiped
  split at wiped
  · rename_i added between last rest isAdded isLast
    simp only [Bool.and_eq_true, List.all_eq_true, List.any_eq_true, beq_iff_eq,
      List.contains_iff_mem] at wiped
    obtain ⟨⟨adds, wipesLast⟩, members⟩ := wiped
    have split : earlier ++ events ++ later =
        (earlier ++ events.takeWhile fun event =>
          !(addedDevices name event).contains device) ++ added ::
        ((between ++ later.takeWhile fun event => !wipes node device event) ++
          last :: rest) := by
      conv_lhs =>
        rw [← List.takeWhile_append_dropWhile
          (p := fun event => !(addedDevices name event).contains device) (l := events), isAdded,
          ← List.takeWhile_append_dropWhile
          (p := fun event => !wipes node device event) (l := later), isLast]
      simp
    have spared := spares device _ added _ last rest split adds members
    rw [wipesLast] at spared
    cases spared
  · cases wiped

/-- `wipefs` fails. -/
def wipeFails (_ : World) : Request → Choice
  | .command (.wipefs _) => { failure := some "Device or resource busy" }
  | _ => {}

/-- The device of an optional path cannot be wiped in the first three
reconciliations, the third of which nevertheless creates the volume group with
it. The fourth wipes the device, which is now a member. -/
theorem wipes_member :
    ¬∀ (r : Reconciler) (name : String) (world world' : World)
      (events : List (Event sig World)),
      OfVolumeGroup name IsForced world →
      History (ReconcileStep r name) world events world' →
      SparesMembers r.nodeName name events := by
  intro spares
  let first := reconcileForced wipeFails forcedWorld
  let second := reconcileForced wipeFails first.2.2
  let third := reconcileForced wipeFails second.2.2
  let fourth := reconcileForced (fun _ _ => {}) third.2.2
  have run : History (ReconcileStep (.plain "node") "vg1") forcedWorld
      (first.1 ++ second.1 ++ third.1 ++ fourth.1) fourth.2.2 :=
    (((History.single (Reconciler.runWith_step ..)).next
      (Reconciler.runWith_step ..)).next (Reconciler.runWith_step ..)).next
      (Reconciler.runWith_step ..)
  have wiped : wipesLater "node" "vg1" "/dev/sdb" third.1 fourth.1 = true := by
    decide +kernel
  exact not_sparesMembers_of_wipesLater wiped
    (spares _ _ _ _ _ forcedWorld_forced run)

end Lvms