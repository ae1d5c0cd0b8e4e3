import Lvms.VgManager.Footprint
import Lvms.Reading
import Lvms.Writing

/-!
# What one reconciliation can do

The vg-manager reads the volume group and then reconciles it as it was read. Of
the object itself it only changes the finalizers and adds annotations.
-/

namespace Lvms

open Interaction Interaction.Program

/-! ## From the request to the volume group -/

/-- A reconciliation reads, and then stops or reconciles the volume group it has
found. -/
theorem ReconcileStep.cases
    {r : Reconciler}
    {name : String}
    {before after : World}
    {events : List (Event sig World)}
    (step : ReconcileStep r name before events after) :
    StopsOr (before.withNewResolver r.nodeName) after
      (fun rest => ∃ vg result, before.api.find? .volumeGroup name = some vg ∧
        Exec (environment r.nodeName) (r.reconcile vg).run
          (before.withNewResolver r.nodeName) rest result after)
      events := by
  obtain ⟨result, ran⟩ := step
  obtain ⟨_, reset, world, rest, wasReset, ran, rfl⟩ := Exec.run_lift_bind_iff.mp ran
  have resets : Reading reset :=
    (call_uses .newResolver (by decide)).events_allowed wasReset
  obtain rfl : world = before.withNewResolver r.nodeName :=
    ((wp_call_iff.mpr fun _ _ => rfl : wp (environment r.nodeName)
      (.assuming fun _ => True) newResolver
      (fun _ after => after = before.withNewResolver r.nodeName) before).sound wasReset
      fun _ _ => trivial).2
  refine .after_reads resets ?_
  rcases Exec.after_reading (.run_attempt (Client.get_uses ..)) ran with
    ⟨reads, rfl⟩ | ⟨answer, got, rest, rfl, reads, head, ran⟩
  · exact .stops reads
  refine .after_reads reads ?_
  obtain ⟨_, isAnswer, head⟩ := Exec.run_attempt_iff.mp head
  obtain rfl := Except.ok.inj isAnswer
  cases answer with
  | error error =>
      dsimp only at ran
      split at ran
      · obtain ⟨rfl, _, rfl⟩ := Exec.run_pure_iff.mp ran
        exact .stops (by simp [Reading])
      · obtain ⟨rfl, _, rfl⟩ := Exec.run_throw_iff.mp ran
        exact .stops (by simp [Reading])
  | ok vg =>
      have found := (Client.get_ok head).1
      rcases Exec.after_reading (.run_mapError (r.matchesThisNode_uses _)) ran with
        ⟨reads, rfl⟩ | ⟨matched, compared, rest, rfl, reads, _, ran⟩
      · exact .stops reads
      refine .after_reads reads ?_
      split at ran
      · obtain ⟨rfl, _, rfl⟩ := Exec.run_pure_iff.mp ran
        exact .stops (by simp [Reading])
      rcases Exec.after_reading
          (.run_mapError (Client.get_uses ..)) ran with
        ⟨reads, rfl⟩ | ⟨_, _, rest, rfl, reads, _, ran⟩
      · exact .stops reads
      exact .after_reads reads (.continues ⟨vg, result, found, ran⟩)

/-! ## What is written -/

/-- The volume group has been derived from another version of it: the finalizers
can differ and annotations can have been added. -/
structure Derived (vg object : LVMVolumeGroup) : Prop where
  spec : object.spec = vg.spec
  name : object.metadata.name = vg.metadata.name
  labels : object.metadata.labels = vg.metadata.labels
  owners : object.metadata.ownerReferences = vg.metadata.ownerReferences
  annotations : ∀ key, vg.metadata.annotations.has key = true →
    object.metadata.annotations.has key = true

theorem Derived.refl (vg : LVMVolumeGroup) : Derived vg vg :=
  ⟨rfl, rfl, rfl, rfl, fun _ => id⟩

theorem Derived.with_finalizers (vg : LVMVolumeGroup) (finalizers : List String) :
    Derived vg { vg with metadata := { vg.metadata with finalizers } } :=
  ⟨rfl, rfl, rfl, rfl, fun _ => id⟩

theorem Derived.with_registration (vg : LVMVolumeGroup) (finalizer : String) :
    Derived vg { vg with metadata := (vg.metadata.addFinalizer finalizer).1 } := by
  dsimp only [ObjectMeta.addFinalizer]
  split
  · exact .refl vg
  · exact .with_finalizers ..

theorem Derived.with_wiped_mark (node time : String) (vg : LVMVolumeGroup) :
    Derived vg (annotatedAsWiped node time vg) :=
  ⟨rfl, rfl, rfl, rfl, fun _ there => GoMap.has_set_of_has there⟩

/-- If the call updates a volume group, then with a good version. -/
def Updating (good : LVMVolumeGroup → Prop) (request : Request) : Prop :=
  ∀ object, request = .api (.update .volumeGroup object) → good object

/-- If the call updates a volume group, then with a version derived from `vg`. -/
def Derives (vg : LVMVolumeGroup) (request : Request) : Prop :=
  ∀ object, request = .api (.update .volumeGroup object) → Derived vg object

/-- Programs without updates of volume groups. -/
theorem updating_of_within
    {α : Type}
    {effects : List Effect}
    {good : LVMVolumeGroup → Prop}
    {program : Program sig α}
    (uses : program.Uses (Within effects))
    (absent : .update .volumeGroup ∉ effects) :
    program.Uses (Updating good) := by
  refine uses.mono ?_
  rintro _ allowed object rfl
  exact absurd allowed absent

theorem Client.update_updating
    {good : LVMVolumeGroup → Prop}
    {object : LVMVolumeGroup}
    (isGood : good object) :
    (Client.update .volumeGroup object).run.Uses (Updating good) := by
  refine ⟨?_, fun _ => trivial⟩
  rintro _ ⟨⟩
  exact isGood

/-- The classes of the calls of a reconciliation that wipes nothing. -/
def sparingEffects : List Effect :=
  .destroy :: .removeFile :: .update .volumeGroup :: setUpEffects

/-- The classes of the calls of a reconciliation. -/
def reconcileEffects : List Effect :=
  .wipe :: sparingEffects

namespace Reconciler

variable (r : Reconciler)
variable {vg : LVMVolumeGroup} {effects : List Effect}

section Updating

variable {good : LVMVolumeGroup → Prop} {vg : LVMVolumeGroup}

/-- A cleanup updates the volume group only to release it. -/
theorem processDelete_updating
    (released : good { vg with
      metadata := (vg.metadata.removeFinalizer (getFinalizer r.nodeName)).1 }) :
    (r.processDelete vg).run.Uses (Updating good) := by
  refine .run_bind (.run_mapError
    (updating_of_within (Lvmd.CachedFileConfig.load_uses _) (by decide))) fun _ => ?_
  refine .run_bind (updating_of_within (r.cleanUpDisks_uses _) (by decide)) fun _ => ?_
  refine .run_bind (updating_of_within (r.storeRemaining_uses ..) (by decide)) fun _ => ?_
  refine .run_bind (.run_mapError
    (updating_of_within (r.removeVolumeGroupStatus_uses _) (by decide))) fun _ => ?_
  dsimp only
  split
  · exact .run_bind (Client.update_updating released) fun _ => trivial
  · trivial

theorem wipeDevices_yields
    (nodeName : String)
    (vg : LVMVolumeGroup)
    (devices : List BlockDevice) :
    (wipeDevices nodeName vg devices).run.Yields fun result =>
      ∀ wiped, result = .ok wiped → ∀ annotated, wiped = some annotated →
        ∃ time, annotated = annotatedAsWiped nodeName time vg := by
  dsimp only [wipeDevices]
  split
  · rintro _ ⟨⟩ _ ⟨⟩
  · refine .run_bind (by simp) fun _ => .run_bind (by simp) fun _ => ?_
    split
    · refine .run_bind (by simp) fun time => ?_
      rintro _ ⟨⟩ _ ⟨⟩
      exact ⟨time, rfl⟩
    · rintro _ ⟨⟩ _ ⟨⟩

/-- A live volume group is updated only to mark it as wiped. -/
theorem reconcileLive_updating
    (marked : ∀ time, good (annotatedAsWiped r.nodeName time vg)) :
    (r.reconcileLive vg).run.Uses (Updating good) := by
  refine .run_bind (.run_mapError (updating_of_within (query_uses _) (by decide)))
    fun devices => ?_
  refine .run_bind (updating_of_within refreshVGs_uses (by decide)) fun vgs => ?_
  split
  · refine .run_bind (.run_lift (updating_of_within (r.warningEvent_uses ..) (by decide)))
      fun _ => ?_
    exact .run_bind (.run_lift (updating_of_within (r.reportFailure_uses ..) (by decide)))
      fun _ => trivial
  · refine .run_bind_of_yields (.run_mapError
      (updating_of_within (wipeDevices_uses ..) (by decide)))
      (.run_mapError (wipeDevices_yields ..)) fun wiped isMarked => ?_
    cases wiped with
    | some annotated =>
        obtain ⟨time, rfl⟩ := isMarked annotated rfl
        exact .run_bind (Client.update_updating (marked time)) fun _ => trivial
    | none => exact updating_of_within (r.reconcileDevices_uses ..) (by decide)

/-- A reconciliation updates the volume group it has read without the finalizer of its
node when it is deleted, and otherwise with the finalizer or with the annotation. -/
theorem reconcile_updating
    (released : vg.metadata.deletionTimestamp.isSome = true → good { vg with
      metadata := (vg.metadata.removeFinalizer (getFinalizer r.nodeName)).1 })
    (registered : good { vg with
      metadata := (vg.metadata.addFinalizer (getFinalizer r.nodeName)).1 })
    (marked : getFinalizer r.nodeName ∈ vg.metadata.finalizers →
      ∀ time, good (annotatedAsWiped r.nodeName time vg)) :
    (r.reconcile vg).run.Uses (Updating good) := by
  dsimp only [reconcile]
  split
  · rename_i isDeleted
    exact .run_bind (r.processDelete_updating (released isDeleted)) fun _ => trivial
  · split
    · exact .run_bind (Client.update_updating registered) fun _ => trivial
    · rename_i registeredBefore
      refine r.reconcileLive_updating (marked ?_)
      by_contra absent
      exact registeredBefore (by simp [ObjectMeta.addFinalizer, absent])

end Updating

/-- A reconciliation updates the volume group only with versions derived from the
one it has read. -/
theorem reconcile_derives (vg : LVMVolumeGroup) :
    (r.reconcile vg).run.Uses (Derives vg) :=
  r.reconcile_updating (fun _ => .with_finalizers vg _) (.with_registration vg _)
    fun _ time => .with_wiped_mark r.nodeName time vg

theorem reconcileLive_uses
    (wiping : ∀ devices,
      (wipeDevices r.nodeName vg devices).run.Uses (Within effects))
    (included : ∀ effect ∈ .update .volumeGroup :: setUpEffects, effect ∈ effects) :
    (r.reconcileLive vg).run.Uses (Within effects) := by
  have spares {α : Type} {program : Program sig α} {smaller : List Effect}
      (uses : program.Uses (Within smaller))
      (smallerIncluded : ∀ effect ∈ smaller,
        effect ∈ .update .volumeGroup :: setUpEffects) :
      program.Uses (Within effects) :=
    within uses fun effect member => included effect (smallerIncluded effect member)
  refine .run_bind (.run_mapError (spares (query_uses _) (by decide))) fun devices => ?_
  refine .run_bind (spares refreshVGs_uses (by decide)) fun vgs => ?_
  split
  · refine .run_bind (.run_lift (spares (r.warningEvent_uses ..) (by decide)))
      fun _ => ?_
    exact .run_bind (.run_lift (spares (r.reportFailure_uses ..) (by decide)))
      fun _ => trivial
  · refine .run_bind (.run_mapError (wiping _)) fun wiped => ?_
    cases wiped with
    | some annotated =>
        exact .run_bind (spares (Client.update_uses ..) (by decide)) fun _ => trivial
    | none => exact spares (r.reconcileDevices_uses ..) (by decide)

/-- A volume group that is not deleted is set up, or gets its finalizer. -/
theorem reconcile_uses_of_present
    (present : ¬vg.metadata.deletionTimestamp.isSome)
    (wiping : ∀ devices,
      (wipeDevices r.nodeName vg devices).run.Uses (Within effects))
    (included : ∀ effect ∈ .update .volumeGroup :: setUpEffects, effect ∈ effects) :
    (r.reconcile vg).run.Uses (Within effects) := by
  dsimp only [reconcile]
  rw [if_neg present]
  split
  · exact .run_bind (within (within (Client.update_uses ..) (by decide)) included)
      fun _ => trivial
  · exact r.reconcileLive_uses wiping included

theorem reconcile_uses_of
    (wiping : ∀ devices,
      (wipeDevices r.nodeName vg devices).run.Uses (Within effects))
    (included : ∀ effect ∈ sparingEffects, effect ∈ effects) :
    (r.reconcile vg).run.Uses (Within effects) := by
  by_cases marked : vg.metadata.deletionTimestamp.isSome
  · dsimp only [reconcile]
    rw [if_pos marked]
    exact .run_bind (within (within (r.processDelete_uses vg) (by decide)) included)
      fun _ => trivial
  · refine r.reconcile_uses_of_present marked wiping fun effect member => included effect ?_
    exact List.mem_cons_of_mem _ (List.mem_cons_of_mem _ member)

/-- The calls of a reconciliation. -/
theorem reconcile_uses (vg : LVMVolumeGroup) :
    (r.reconcile vg).run.Uses (Within reconcileEffects) :=
  r.reconcile_uses_of (fun _ => within (wipeDevices_uses ..) (by decide)) (by decide)

/-- A volume group that need not be wiped is reconciled without wiping. -/
theorem reconcile_uses_of_spared
    (spared : shouldWipeDevicesOnVolumeGroup r.nodeName vg = false) :
    (r.reconcile vg).run.Uses (Within sparingEffects) := by
  refine r.reconcile_uses_of (fun devices => ?_) (by simp)
  simp only [wipeDevices, spared]
  trivial

end Reconciler

/-! ## Versions of the object -/

/-- The volume group with a name has been derived from a version of it. -/
def Descends (name : String) (vg : LVMVolumeGroup) (world : World) : Prop :=
  ∀ new, world.api.find? .volumeGroup name = some new → Derived vg new

/-- What is stored of a derived volume group is derived. -/
theorem Derived.stored
    {vg old object new : LVMVolumeGroup}
    (derived : Derived vg object)
    (isStored : ApiServer.stored .volumeGroup old object = some new) :
    Derived vg new := by
  simp only [ApiServer.stored] at isStored
  split at isStored
  · cases isStored
  · obtain rfl := Option.some.inj isStored
    exact ⟨derived.spec, derived.name, derived.labels, derived.owners,
      derived.annotations⟩

theorem Request.eq_update_of_effect
    {kind : Kind}
    {request : Request}
    (updates : request.effect = .update kind) :
    ∃ object, request = .api (.update kind object) := by
  cases request with
  | api request =>
      cases request <;> cases updates
      exact ⟨_, rfl⟩
  | command run => cases run <;> cases updates
  | query | newResolver | loadResolved | storeResolved | cachedConfig | cacheConfig
  | mapOrder | now | event | raidMetrics | dropRAIDMetrics | turn | otherManager =>
      cases updates

/-- Updates with derived versions store derived versions. -/
theorem Descends.respond
    {name : String}
    {vg : LVMVolumeGroup}
    {world : World}
    {request : Request}
    (node : String)
    (choice : Choice)
    (descends : Descends name vg world)
    (named : vg.metadata.name = name)
    (allowed : Within reconcileEffects request)
    (derives : Derives vg request) :
    Descends name vg (World.respond node choice world request).2 := by
  by_cases touches : request.effect.touchesKind .volumeGroup = true
  · have only : ∀ effect ∈ reconcileEffects,
        effect.touchesKind .volumeGroup = true → effect = .update .volumeGroup := by
      decide
    obtain ⟨object, rfl⟩ := Request.eq_update_of_effect (only _ allowed touches)
    have derived := derives object rfl
    have objectNamed : Kind.nameOf .volumeGroup object = name := derived.name.trans named
    intro new found
    simp only [World.respond, ApiServer.respond] at found
    cases failure : choice.failure with
    | some text =>
        rw [failure] at found
        exact descends new found
    | none =>
        simp only [failure, ApiServer.answer] at found
        split at found
        · exact descends new found
        · split at found
          · rw [objectNamed] at found
            obtain ⟨old, _, _, isStored⟩ := ApiServer.exists_of_find?_alter found
            exact derived.stored isStored
          · exact descends new found
  · have frame := respond_frame node choice world request (.head [])
    intro new found
    rw [frame.find? .volumeGroup name (by simpa using touches)] at found
    exact descends new found

/-- After a reconciliation the volume group has been derived from the version that
was read. -/
theorem Reconciler.descends_of_exec
    {r : Reconciler}
    {name : String}
    {vg : LVMVolumeGroup}
    {world after : World}
    {events : List (Event sig World)}
    {result : Except GoError Result}
    (found : world.api.find? .volumeGroup name = some vg)
    (ran : Exec (environment r.nodeName) (r.reconcile vg).run world events result after) :
    Descends name vg after := by
  have named : vg.metadata.name = name := ApiServer.nameOf_of_find? found
  have start : Descends name vg world := by
    intro new isNew
    obtain rfl := Option.some.inj (found.symm.trans isNew)
    exact .refl _
  exact (((r.reconcile_uses vg).both (r.reconcile_derives vg)).preserves
    (fun choice _ _ allowed descends =>
      descends.respond _ choice named allowed.1 allowed.2) ran start).2

/-! ## Rules for volume groups -/

section Fitting

variable {fits : String → LVMVolumeGroupSpec → Prop} {declared : LVMClusterSpec → Prop}
variable {r : Reconciler}

/-- Only the volume group that was read is written, with the spec it has. -/
theorem Reconciler.reconcile_obeys
    {vg : LVMVolumeGroup}
    (isFit : fits vg.name vg.spec) :
    (r.reconcile vg).Obeys (writing fits declared) := by
  refine .run_of_uses ((r.reconcile_uses vg).both (r.reconcile_derives vg)) ?_
  rintro request ⟨isWithin, derives⟩
  by_cases updates : request.effect = .update .volumeGroup
  · obtain ⟨object, rfl⟩ := Request.eq_update_of_effect updates
    have derived := derives object rfl
    have fitsToo : fits object.name object.spec := by
      rw [derived.spec, LVMVolumeGroup.name, derived.name]
      exact isFit
    exact fitsToo
  · have others : ∀ effect ∈ reconcileEffects, effect ≠ .update .volumeGroup →
        effect ∉ writeEffects := by
      decide
    exact writing_allowed (others _ isWithin updates)

/-- A protocol that allows to read and to reconcile what is found allows all of it. -/
theorem Reconciler.reconcileRequest_obeys_of
    {protocol : Protocol sig}
    {name : String}
    (reads : ∀ request : Request, Within [.read, .resolve] request →
      protocol.allowed request)
    (reconciles : ∀ vg, protocol.expected (.api (.get .volumeGroup name)) (.ok vg) →
      (r.reconcile vg).Obeys protocol) :
    (r.reconcileRequest name).Obeys protocol := by
  have reading {α : Type} {program : Go α} (uses : program.run.Uses (Within [.read])) :
      program.Obeys protocol :=
    .run_of_uses (within uses (by simp)) reads
  refine .run_bind (.run_lift (.call_ignored (reads _ (.tail _ (.head _))))) fun _ _ => ?_
  refine .run_bind (.run_attempt ⟨reads _ (.head _), fun _ isExpected => isExpected⟩)
    fun found isExpected => ?_
  cases found with
  | error error =>
      dsimp only
      split <;> trivial
  | ok vg =>
      refine .run_bind (.run_mapError (reading (r.matchesThisNode_uses _)))
        fun nodeMatches _ => ?_
      split
      · trivial
      · exact .run_bind (.run_mapError (reading (Client.get_uses ..)))
          fun _ _ => reconciles vg isExpected

theorem Reconciler.reconcileRequest_obeys {name : String} :
    (r.reconcileRequest name).Obeys (writing fits declared) := by
  have reads : ∀ effect ∈ [Effect.read, .resolve], effect ∉ writeEffects := by decide
  exact reconcileRequest_obeys_of (fun _ isRead => writing_allowed (reads _ isRead))
    fun _ isExpected => reconcile_obeys isExpected.2

/-- A reconciliation of a volume group keeps the rules throughout. -/
theorem ReconcileStep.fitting
    {name : String}
    {before after : World}
    {events : List (Event sig World)}
    (step : ReconcileStep r name before events after)
    (fitting : Fitting fits declared before) :
    (∀ event ∈ events, Fitting fits declared event.before) ∧
      Fitting fits declared after := by
  obtain ⟨result, ran⟩ := step
  exact fitting.of_obeys Reconciler.reconcileRequest_obeys ran

end Fitting
end Lvms
