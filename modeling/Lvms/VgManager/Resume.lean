import Lvms.Steady
import Lvms.VgManager.Wiping

/-!
# Resuming an interrupted set-up

The volume group and its thin pool are created by separate commands of one
branch of `reconcile`, the one that is taken when devices are available. When
the pool could not be created, its devices are members of the volume group and
no longer available, and later reconciliations take the other branch, which
verifies the pool and never creates it.
-/

namespace Lvms

open Interaction

/-! ## Volume groups without their pool -/

/-- The volume group has no logical volume with the name of its pool. -/
def Poolless (node vgName pool : String) (world : World) : Prop :=
  ∀ lv ∈ (world.host node).logicalVolumes, lv.vgName = vgName → lv.name ≠ pool

/-- Only `lvcreate` adds a logical volume. -/
theorem Host.execute_logicalVolumes
    (choice : Choice)
    (host : Host)
    (run : Command)
    (created : run.effect ≠ .createPool) :
    ∀ lv ∈ (host.execute choice run).2.logicalVolumes,
      ∃ old ∈ host.logicalVolumes, old.vgName = lv.vgName ∧ old.name = lv.name := by
  have altered (vgName lvName : String) (change : LogicalVolume → LogicalVolume)
      (keeps : ∀ old, (change old).vgName = old.vgName ∧
        (change old).name = old.name) :
      ∀ lv ∈ host.alterLV vgName lvName change,
        ∃ old ∈ host.logicalVolumes, old.vgName = lv.vgName ∧ old.name = lv.name := by
    intro lv member
    obtain ⟨old, oldMember, rfl⟩ := List.mem_map.mp member
    refine ⟨old, oldMember, ?_⟩
    split
    · exact ⟨(keeps old).1.symm, (keeps old).2.symm⟩
    · exact ⟨rfl, rfl⟩
  rw [Host.execute]
  cases choice.failure with
  | some text =>
      intro lv member
      exact ⟨lv, by cases run <;> exact member, rfl, rfl⟩
  | none =>
      cases run with
      | lvcreate => exact absurd rfl created
      | lvextend | lvextendMetadata | lvchangeActivate | lvchangeDeactivate =>
          exact altered _ _ _ fun _ => ⟨rfl, rfl⟩
      | lvremove | vgremove =>
          intro lv member
          exact ⟨lv, (List.mem_filter.mp member).1, rfl, rfl⟩
      | vgcreate | removeFile =>
          intro lv member
          simp only [Host.apply] at member
          split at member <;> exact ⟨lv, member, rfl, rfl⟩
      | vgextend | vgreduce | vgchangeDeactivate | pvremove | lvmdevicesDelpvid | wipefs
      | dmsetupRemove | writeFile => exact fun lv member => ⟨lv, member, rfl, rfl⟩

/-- A program that creates no pool leaves the volume group without one. -/
theorem wp_poolless
    {α : Type}
    {effects : List Effect}
    {node vgName pool : String}
    {assumes : Event sig World → Prop}
    {program : Program sig α}
    {world : World}
    (uses : program.Uses (Within effects))
    (creates : .createPool ∉ effects)
    (poolless : Poolless node vgName pool world) :
    wp (environment node) (.assuming assumes) program
      (fun _ => Poolless node vgName pool) world := by
  refine wp.of_uses uses (fun choice before request allowed holds _ =>
    ⟨trivial, ?_⟩) poolless
  have other : request.effect ≠ .createPool := fun same =>
    creates (same ▸ allowed : Effect.createPool ∈ effects)
  cases request with
  | command run =>
      intro lv member
      simp only [environment, World.respond, World.setHost_host] at member
      obtain ⟨old, oldMember, sameVG, sameName⟩ :=
        Host.execute_logicalVolumes choice _ run other lv member
      exact sameVG ▸ sameName ▸ holds old oldMember
  | otherManager name =>
      simp only [environment, World.respond]
      split <;> exact holds
  | api | query | newResolver | loadResolved | storeResolved | cachedConfig
  | cacheConfig | mapOrder | now | event | raidMetrics | dropRAIDMetrics | turn =>
      exact holds

section Steady

variable {node : String} {world : World} {host : Host}

/-! ## Loop devices -/

/-- A device that counts as usable is a loop device without a back file of
Kubernetes. -/
def LoopsKnown (host : Host) (bdi : GoMap Bool) : Prop :=
  ∀ kname, bdi.get? kname = some true →
    ∃ device ∈ allDevices host.blockDevices, device.kname = kname ∧
      device.type = "loop" ∧
      ∀ backFile ∈ host.backFiles device.name,
        stringsContains backFile "plugins/kubernetes.io" = false

theorem foldl_set_mem
    {α : Type}
    (entries inner : GoMap α) :
    ∀ entry ∈ inner.foldl (fun entries entry => entries.set entry.1 entry.2) entries,
      (∃ other ∈ inner, other.2 = entry.2) ∨ entry ∈ entries := by
  induction inner generalizing entries with
  | nil => exact fun entry member => .inr member
  | cons first rest inductionHypothesis =>
      intro entry member
      rcases inductionHypothesis _ entry member with ⟨other, later, same⟩ | earlier
      · exact .inl ⟨other, .tail _ later, same⟩
      · rcases GoMap.mem_set earlier with same | old
        · exact .inl ⟨first, .head _, same.symm⟩
        · exact .inr old

mutual

theorem flattenBlockDevice_mem (flattened : GoMap BlockDevice) :
    (device : BlockDevice) →
    ∀ entry ∈ flattenBlockDevice flattened device,
      entry.2 ∈ device.subtree ∨ entry ∈ flattened
  | .mk _ _ _ _ _ _ _ children => by
      intro entry member
      rw [flattenBlockDevice] at member
      rw [BlockDevice.subtree]
      rcases foldl_set_mem _ _ entry member with ⟨other, inner, same⟩ | outer
      · rcases flattenBlockDevices_mem [] children other inner with deeper | impossible
        · exact .inl (same ▸ .tail _ deeper)
        · cases impossible
      · rcases GoMap.mem_set outer with same | old
        · exact .inl (same ▸ .head _)
        · exact .inr old

theorem flattenBlockDevices_mem (flattened : GoMap BlockDevice) :
    (devices : List BlockDevice) →
    ∀ entry ∈ flattenBlockDevices flattened devices,
      entry.2 ∈ allDevices devices ∨ entry ∈ flattened
  | [] => fun entry member => .inr member
  | device :: rest => by
      intro entry member
      rw [flattenBlockDevices] at member
      rw [allDevices, List.mem_append]
      rcases flattenBlockDevices_mem _ rest entry member with later | earlier
      · exact .inl (.inr later)
      · exact (flattenBlockDevice_mem flattened device entry earlier).imp_left .inl

end

theorem isUsableLoopDev_steady (device : BlockDevice) :
    wp (environment node) (.assuming (steady node ·)) (isUsableLoopDev device)
      (fun answer after => after = world ∧ (answer.1 = true →
        ∀ backFile ∈ (world.host node).backFiles device.name,
          stringsContains backFile "plugins/kubernetes.io" = false)) world := by
  rw [isUsableLoopDev, wp.bind_iff]
  refine wp_query_steady ?_
  refine ⟨rfl, fun usable => ?_⟩
  simpa using usable

/-- Only loop devices without a back file of Kubernetes count as usable. -/
theorem collectInfos_steady
    {flattened : GoMap BlockDevice}
    {infos : GoMap Bool}
    (listed : ∀ entry ∈ flattened,
      entry.2 ∈ allDevices (world.host node).blockDevices)
    (known : LoopsKnown (world.host node) infos)
    (knames : List String) :
    wp (environment node) (.assuming (steady node ·))
      (collectInfos flattened infos knames)
      (fun bdi after => after = world ∧ LoopsKnown (world.host node) bdi) world := by
  induction knames generalizing infos with
  | nil => exact ⟨rfl, known⟩
  | cons kname rest inductionHypothesis =>
      rw [collectInfos]
      cases found : flattened.get? kname with
      | none => exact inductionHypothesis known
      | some device =>
          dsimp only
          split
          · rename_i isLoop
            rw [wp.bind_iff]
            refine (isUsableLoopDev_steady device).mono ?_
            rintro ⟨usable, error⟩ _ ⟨rfl, justified⟩
            refine inductionHypothesis fun other isUsable => ?_
            by_cases same : other = device.kname
            · rw [same, GoMap.get?_set_self] at isUsable
              exact ⟨device, listed _ (GoMap.mem_of_get? found), same.symm, isLoop,
                justified (Option.some.inj isUsable)⟩
            · rw [GoMap.get?_set_other _ _ same] at isUsable
              exact known other isUsable
          · exact inductionHypothesis known

theorem blockDeviceInfos_steady :
    wp (environment node) (.assuming (steady node ·))
      (blockDeviceInfos (world.host node).blockDevices)
      (fun bdi after => after = world ∧ LoopsKnown (world.host node) bdi) world := by
  rw [blockDeviceInfos, wp.bind_iff]
  refine wp_mapOrder fun order _ => ?_
  refine collectInfos_steady (fun entry member => ?_) (fun _ found => by cases found) order
  exact (flattenBlockDevices_mem [] _ entry member).resolve_right (by simp)

/-! ## Paths and devices without mishaps -/

/-- Paths lead where the host says. -/
def Host.view (host : Host) : PathView :=
  fun path answer => answer = host.symlinks path

/-- Without mishaps paths lead where the host says and devices are wiped. -/
theorem steady_dependable :
    Dependable node (steady node ·) host (fun _ => True) host.symlinks where
  answers choice world path sameHost _ calm := by
    obtain ⟨choice', never, same⟩ := World.respond_of_steady calm
    have reported : host.answer choice (.evalSymlinks path) =
        host.report (.evalSymlinks path) := by
      simpa [World.respond, sameHost, Host.answer, never] using congrArg Prod.fst same
    rw [reported, Host.report]
    cases host.symlinks path <;> rfl
  wipes choice world device calm := by
    obtain ⟨choice', never, same⟩ := World.respond_of_steady calm
    have executed : ((world.host node).execute choice (.wipefs device)).1 =
        ((world.host node).execute choice' (.wipefs device)).1 := by
      simpa [World.respond] using congrArg Prod.fst same
    rw [executed, Host.execute, never]
    rfl

/-! ## The reconciliation -/

variable {r : Reconciler} {vg : LVMVolumeGroup} {pool : String}

/-- No device of the host can be used for a volume group. -/
def NothingAvailable (vg : LVMVolumeGroup) (host : Host) : Prop :=
  ∀ bdi, LoopsKnown host bdi → ∀ device ∈ allDevices host.blockDevices,
    ¬Acceptable host.view { vg, bdi, pvs := host.physicalVolumes } device

/-- A device that is a physical volume of a volume group cannot be used. -/
theorem not_acceptable_of_member
    {options : FilterOptions}
    {device : BlockDevice}
    (signed : device.fsType = "LVM2_member")
    (known : ∃ pv ∈ options.pvs, host.symlinks pv.pvName = some device.kname)
    (owned : ∀ pv ∈ options.pvs, host.symlinks pv.pvName = some device.kname →
      pv.vgName ≠ "") :
    ¬Acceptable host.view options device := by
  intro acceptable
  obtain ⟨pv, member, leads⟩ := known
  rcases acceptable.signature with unsigned | ⟨_, unknown | ⟨other, listed, same, free, _⟩⟩
  · simp [signed] at unsigned
  · obtain ⟨target, reached, different⟩ := unknown pv member
    exact different (Option.some.inj (reached.trans leads))
  · exact owned other listed same.symm free

theorem Lvm.listPVs_steady :
    wp (environment node) (.assuming (steady node ·)) (Lvm.listPVs "").run
      (fun result after => after = world ∧
        result = .ok (world.host node).physicalVolumes) world := by
  rw [Lvm.listPVs, wp.run_bind_iff]
  refine wp_query_steady ⟨by simp [Host.report], ?_⟩
  rintro _ ⟨⟩
  simp

/-- Without available devices no pool is created. -/
theorem Reconciler.reconcileDevices_poolless
    (vgs : List VolumeGroup)
    (nothing : NothingAvailable vg host)
    (current : Current r.nodeName host (fun _ => True) host.symlinks world)
    (poolless : Poolless r.nodeName vg.name pool world) :
    wp (environment r.nodeName) (.assuming (steady r.nodeName ·))
      (r.reconcileDevices vg vgs host.blockDevices).run
      (fun _ => Poolless r.nodeName vg.name pool) world := by
  obtain ⟨rfl, right⟩ := current
  simp only [Reconciler.reconcileDevices, wp.run_bind_iff, wp.run_mapError_iff,
    wp.run_lift_iff]
  refine Lvm.listPVs_steady.mono ?_
  rintro _ _ ⟨rfl, rfl⟩
  refine ⟨by simp [Except.mapError], ?_⟩
  rintro _ ⟨⟩
  refine blockDeviceInfos_steady.mono ?_
  rintro bdi after ⟨rfl, known⟩
  refine ⟨by simp, ?_⟩
  rintro _ ⟨⟩
  have resolves : Resolves r.nodeName (steady r.nodeName ·) _
      (after.host r.nodeName).view := fun path world current =>
    (resolve_wp steady_dependable path world current).mono
      fun _ _ answered => ⟨answered.1, answered.2 trivial⟩
  refine (filterDevices_acceptable resolves ⟨rfl, right⟩).mono ?_
  rintro devices last ⟨⟨sameHost, _⟩, acceptable⟩
  have empty : devices.available = [] := by
    refine List.eq_nil_iff_forall_not_mem.mpr fun device member => ?_
    obtain ⟨listed, isAcceptable⟩ := acceptable device member
    exact nothing bdi known device listed isAcceptable
  have stillPoolless : Poolless r.nodeName vg.name pool last := by
    rwa [Poolless, sameHost]
  refine ⟨by simp, ?_⟩
  rintro _ ⟨⟩
  exact wp_poolless (r.useDevices_uses_of_empty empty) (by decide) stillPoolless

theorem Reconciler.reconcileLive_poolless
    (nothing : NothingAvailable vg host)
    (current : Current r.nodeName host (fun _ => True) host.symlinks world)
    (poolless : Poolless r.nodeName vg.name pool world) :
    wp (environment r.nodeName) (.assuming (steady r.nodeName ·))
      (r.reconcileLive vg).run (fun _ => Poolless r.nodeName vg.name pool) world := by
  simp only [Reconciler.reconcileLive, listBlockDevices, wp.run_bind_iff,
    wp.run_mapError_iff]
  refine wp_query_steady ⟨by simp [Host.report, Except.mapError], ?_⟩
  rintro _ ⟨⟩
  refine wp_reading (within Reconciler.refreshVGs_uses (by simp)) fun vgs => ?_
  refine ⟨fun _ _ => poolless, fun vgs _ => ?_⟩
  cases r.checkRAIDVGHealth vgs vg with
  | error error =>
      simp only [wp.run_bind_iff, wp.run_lift_iff]
      refine (wp_poolless (r.warningEvent_uses ..) (by decide) poolless).mono ?_
      intro _ reported stillPoolless
      refine ⟨by simp, fun _ _ => ?_⟩
      refine (wp_poolless (r.reportFailure_uses ..) (by decide) stillPoolless).mono ?_
      exact fun _ _ finalPoolless => ⟨by simp, fun _ _ => finalPoolless⟩
  | ok =>
      simp only [wp.run_bind_iff, wp.run_mapError_iff]
      refine ((wipeDevices_wp steady_dependable r.nodeName _ (by simp) current).both
        (wp_poolless (wipeDevices_uses ..) (by decide) poolless)).mono ?_
      rintro result after ⟨unwiped, stillPoolless⟩
      refine ⟨fun _ _ => stillPoolless, fun wiped succeeded => ?_⟩
      rw [Except.mapError_eq_ok_iff] at succeeded
      cases wiped with
      | some annotated =>
          rw [wp.run_bind_iff]
          refine (wp_poolless (Client.update_uses ..) (by decide) stillPoolless).mono ?_
          exact fun _ _ finalPoolless => ⟨fun _ _ => finalPoolless, fun _ _ => finalPoolless⟩
      | none =>
          rw [current.host]
          exact Reconciler.reconcileDevices_poolless vgs nothing (unwiped succeeded).1
            stillPoolless

theorem Reconciler.reconcile_poolless
    (nothing : NothingAvailable vg host)
    (current : Current r.nodeName host (fun _ => True) host.symlinks world)
    (poolless : Poolless r.nodeName vg.name pool world) :
    wp (environment r.nodeName) (.assuming (steady r.nodeName ·))
      (r.reconcile vg).run (fun _ => Poolless r.nodeName vg.name pool) world := by
  dsimp only [Reconciler.reconcile]
  split
  · rw [wp.run_bind_iff]
    refine (wp_poolless (r.processDelete_uses _) (by decide) poolless).mono ?_
    exact fun _ _ finalPoolless => ⟨fun _ _ => finalPoolless, fun _ _ => finalPoolless⟩
  · split
    · rw [wp.run_bind_iff]
      refine (wp_poolless (Client.update_uses ..) (by decide) poolless).mono ?_
      exact fun _ _ finalPoolless => ⟨fun _ _ => finalPoolless, fun _ _ => finalPoolless⟩
    · exact Reconciler.reconcileLive_poolless nothing current poolless

/-- Without available devices a request does not create the pool. -/
theorem Reconciler.reconcileRequest_poolless
    {name : String}
    (found : world.api.find? .volumeGroup name = some vg)
    (nothing : NothingAvailable vg (world.host r.nodeName))
    (poolless : Poolless r.nodeName vg.name pool world) :
    wp (environment r.nodeName) (.assuming (steady r.nodeName ·))
      (r.reconcileRequest name).run (fun _ => Poolless r.nodeName vg.name pool)
      world := by
  simp only [Reconciler.reconcileRequest, wp.run_bind_iff, wp.run_lift_iff,
    wp.run_attempt_iff]
  refine wp_call_steady fun _ _ => ⟨by simp, fun _ _ => ?_⟩
  refine Client.wp_get_found found ⟨by simp, ?_⟩
  rintro _ ⟨⟩
  simp only [wp.run_bind_iff, wp.run_mapError_iff]
  refine wp_reading (within (r.matchesThisNode_uses _) (by simp)) fun _ => ⟨fun _ _ => poolless, ?_⟩
  rintro matched _
  split
  · exact poolless
  simp only [wp.run_bind_iff, wp.run_mapError_iff]
  refine wp_reading (within (Client.get_uses ..) (by simp)) fun _ =>
    ⟨fun _ _ => poolless, fun _ _ => ?_⟩
  refine Reconciler.reconcile_poolless nothing ⟨rfl, ?_⟩ poolless
  simp [World.respond, GoMap.get?]

end Steady

/-- The set-up of a volume group has stopped between its two parts: the volume
group is there with all devices it can have, and its pool is not. -/
structure Interrupted
    (r : Reconciler)
    (name : String)
    (vg : LVMVolumeGroup)
    (pool : ThinPoolConfig)
    (world : World) : Prop where
  found : world.api.find? .volumeGroup name = some vg
  pooled : vg.spec.thinPoolConfig = some pool
  created : ∃ row ∈ (world.host r.nodeName).volumeGroups, row.name = vg.name ∧
    row.tags.contains defaultTag = true
  members : NothingAvailable vg (world.host r.nodeName)
  poolless : Poolless r.nodeName vg.name pool.name world

/-- An interrupted set-up is never resumed: a reconciliation in which nothing goes
wrong is possible, and none of them creates the pool. -/
theorem interrupted_never_resumed
    (r : Reconciler)
    (name : String)
    (vg : LVMVolumeGroup)
    (pool : ThinPoolConfig)
    (world : World)
    (interrupted : Interrupted r name vg pool world) :
    (∃ events after, ReconcileStep r name world events after ∧
      ∀ event ∈ events, steady r.nodeName event) ∧
    ∀ events after, ReconcileStep r name world events after →
      (∀ event ∈ events, steady r.nodeName event) →
      Poolless r.nodeName vg.name pool.name after := by
  refine ⟨⟨_, _, r.runWith_step name (fun _ _ => {}) world, ?_⟩, ?_⟩
  · exact Program.run_events _ _ _ (fun _ _ => steady_of_no_failure rfl _ _) _ _
  · rintro events after ⟨result, ran⟩ undisturbed
    exact ((Reconciler.reconcileRequest_poolless interrupted.found
      interrupted.members interrupted.poolless).sound ran undisturbed).2

/-! ### A pool that could not be created -/

/-- A volume group with one device and a thin pool. -/
def pooledVG : LVMVolumeGroup where
  metadata := { name := "vg1" }
  spec := {
    deviceSelector := some { paths := ["/dev/sdb"] }
    thinPoolConfig := some { name := "thin-pool-1", overprovisionRatio := 10 } }

/-- A node on which nothing has been set up. -/
def blankWorld : World where
  api := ⟨fun
    | .volumeGroup => [pooledVG]
    | .nodeStatus => [{ metadata := { name := "node" } }]
    | .node => [{ metadata := { name := "node" } }]
    | _ => []⟩
  host := fun _ => {
    blockDevices := [.mk "/dev/sdb" "/dev/sdb" "disk" "" "" false "" []]
    symlinks := fun path => if path = "/dev/sdb" then some "/dev/sdb" else none }
  memory := fun _ => {}

/-- `lvcreate` fails, everything else succeeds. -/
def poolFails (_ : World) : Request → Choice
  | .command (.lvcreate _ _ _ _ _) => { failure := some "insufficient free space" }
  | _ => {}

/-- Reconciliations in which the pool cannot be created. -/
def failedSetUp : Nat → World
  | 0 => blankWorld
  | count + 1 => ((Reconciler.plain "node").runWith "vg1" poolFails
      (failedSetUp count)).2.2

/-- The volume group is reconciled, or the kernel reports the block devices
anew. -/
def NodeStep
    (r : Reconciler)
    (name : String)
    (before : World)
    (events : List (Event sig World))
    (after : World) : Prop :=
  ReconcileStep r name before events after ∨ events = [] ∧ ∃ blockDevices,
    after = before.setHost r.nodeName { before.host r.nodeName with blockDevices }

/-- The first reconciliation registers the node, the second reports the progress,
the third creates the volume group and fails at the pool. The device then shows
its new signature. -/
def halfSetUp : World :=
  (failedSetUp 3).setHost "node" { (failedSetUp 3).host "node" with
    blockDevices := [.mk "/dev/sdb" "/dev/sdb" "disk" "" "LVM2_member" false "" []] }

theorem halfSetUp_reached :
    ∃ events, History (NodeStep (.plain "node") "vg1") blankWorld events halfSetUp := by
  have reconciled (count : Nat) : ∃ events,
      History (NodeStep (.plain "node") "vg1") blankWorld events
        (failedSetUp count) := by
    induction count with
    | zero => exact ⟨_, .start _⟩
    | succ count inductionHypothesis =>
        obtain ⟨events, reached⟩ := inductionHypothesis
        exact ⟨_, reached.next (.inl (Reconciler.runWith_step ..))⟩
  obtain ⟨events, reached⟩ := reconciled 3
  exact ⟨_, reached.next (.inr ⟨rfl, _, rfl⟩)⟩

/-- The volume group with the finalizer of the node. -/
def registeredVG : LVMVolumeGroup :=
  { pooledVG with metadata := {
      name := "vg1"
      resourceVersion := 1
      finalizers := [getFinalizer "node"] } }

theorem halfSetUp_interrupted :
    Interrupted (.plain "node") "vg1" registeredVG
      { name := "thin-pool-1", overprovisionRatio := 10 } halfSetUp where
  found := by decide +kernel
  pooled := rfl
  created := by decide +kernel
  members := by
    have volumes : (halfSetUp.host "node").physicalVolumes =
        [{ pvName := "/dev/sdb", uuid := "/dev/sdb", vgName := "vg1" }] := by
      decide +kernel
    have leads : (halfSetUp.host "node").symlinks "/dev/sdb" = some "/dev/sdb" := by
      decide +kernel
    intro bdi _ device listed
    obtain rfl : device = .mk "/dev/sdb" "/dev/sdb" "disk" "" "LVM2_member" false ""
        [] := by
      simpa [halfSetUp, Reconciler.plain, allDevices, BlockDevice.subtree] using listed
    refine not_acceptable_of_member rfl ?_ ?_ <;>
      simp [Reconciler.plain, volumes, leads, BlockDevice.kname]
  poolless := by
    have empty : (halfSetUp.host "node").logicalVolumes = [] := by decide +kernel
    simp [Poolless, Reconciler.plain, empty]

theorem interrupted_never_resumed_vg1 :
    Interrupted (.plain "node") "vg1" registeredVG
        { name := "thin-pool-1", overprovisionRatio := 10 } halfSetUp ∧
      ∀ events after, ReconcileStep (.plain "node") "vg1" halfSetUp events after →
        (∀ event ∈ events, steady "node" event) →
        Poolless "node" "vg1" "thin-pool-1" after :=
  ⟨halfSetUp_interrupted, (interrupted_never_resumed (.plain "node") "vg1" registeredVG
    { name := "thin-pool-1", overprovisionRatio := 10 } halfSetUp
    halfSetUp_interrupted).2⟩

/-- After a failed `lvcreate`, a reconciliation in which every command succeeds
leaves the volume group without its pool. -/
theorem interrupted_not_resumed :
    ¬∀ (r : Reconciler) (name : String) (vg : LVMVolumeGroup) (pool : ThinPoolConfig)
      (start world : World) (earlier : List (Event sig World)),
      (start.host r.nodeName).volumeGroups = [] →
      History (NodeStep r name) start earlier world →
      Interrupted r name vg pool world →
      ∀ events after, ReconcileStep r name world events after →
        (∀ event ∈ events, steady r.nodeName event) →
        ∃ lv ∈ (after.host r.nodeName).logicalVolumes,
          lv.vgName = vg.name ∧ lv.name = pool.name := by
  intro resumed
  obtain ⟨earlier, reached⟩ := halfSetUp_reached
  have pools := resumed (.plain "node") "vg1" _ _ blankWorld halfSetUp earlier rfl reached
    halfSetUp_interrupted _ _ (Reconciler.runWith_step _ _ (fun _ _ => {}) _)
    (Program.run_events _ _ _ (fun _ _ => steady_of_no_failure rfl _ _) _ _)
  revert pools
  decide +kernel

end Lvms
