import Lvms.VgManager.ForceWipe
import Lvms.VgManager.Resolving

/-!
# What makes a node mark a volume group

A reconciliation adds the wiped annotation of its node, and of no other node, and only
after it has wiped a device to which a path of the volume group leads.
-/

namespace Lvms

open Interaction Interaction.Program

/-- A device to which a path of the volume group with a name leads has been wiped on a
node. -/
def WipesDevice (node name : String) (event : Event sig World) : Prop :=
  ∃ vg path device, event.before.api.find? .volumeGroup name = some vg ∧
    IsPath vg path ∧ (event.before.host node).symlinks path = some device ∧
    event.request = .command (.wipefs device) ∧
    event.request.failure event.response = none

/-! ## The resolver while devices are wiped -/

section Resolver

variable {node : String} {resolver : String → Option String} {world : World}
variable {assumes : Event sig World → Prop}

/-- Whatever fails, a path is only resolved to where it leads. -/
theorem resolve_follows
    (path : String)
    (isResolver : ResolverIs node resolver world) :
    wp (environment node) (.assuming assumes) (resolve path).run
      (fun result after => ResolverIs node resolver after ∧
        ∀ target, result = .ok target → resolver path = some target) world := by
  simp only [resolve, wp.run_bind_iff, wp.run_lift_iff]
  refine wp_call_iff.mpr fun _ _ => ⟨by simp, ?_⟩
  rintro _ ⟨⟩
  simp only [World.respond]
  cases known : (world.memory node).resolved.get? path with
  | some target =>
      refine ⟨isResolver, ?_⟩
      rintro _ ⟨⟩
      exact isResolver.cached path target known
  | none =>
      simp only [wp.run_bind_iff, wp.run_lift_iff]
      refine wp_query_of_report (fun _ => ⟨fun _ _ => ⟨isResolver, by simp⟩, by simp⟩) ?_
      rw [Host.report, isResolver.links]
      cases leads : resolver path with
      | none =>
          refine ⟨?_, by simp⟩
          rintro _ ⟨⟩
          exact ⟨isResolver, by simp⟩
      | some target =>
          refine ⟨by simp, ?_⟩
          rintro _ ⟨⟩
          refine wp_call_iff.mpr fun _ _ => ⟨by simp, ?_⟩
          rintro _ ⟨⟩
          exact ⟨isResolver.stored leads, by simp⟩

/-- No command changes where paths lead. -/
theorem Host.execute_symlinks
    (choice : Choice)
    (host : Host)
    (run : Command) :
    (host.execute choice run).2.symlinks = host.symlinks := by
  rw [Host.execute]
  cases choice.failure with
  | some text => cases run <;> rfl
  | none => cases run <;> dsimp only [Host.apply] <;> first | rfl | (split <;> rfl)

/-- Wiping a device leaves the paths as they are. -/
theorem ResolverIs.respond
    {request : Request}
    (choice : Choice)
    (isWipe : request.effect = .wipe)
    (isResolver : ResolverIs node resolver world) :
    ResolverIs node resolver (World.respond node choice world request).2 := by
  cases request with
  | command run =>
      refine ⟨fun path => ?_, isResolver.cached⟩
      rw [← isResolver.links path]
      simp [World.respond, Host.execute_symlinks]
  | api request => cases request <;> cases isWipe
  | query | newResolver | loadResolved | storeResolved | cachedConfig | cacheConfig
  | mapOrder | now | event | raidMetrics | dropRAIDMetrics | turn | otherManager =>
      cases isWipe

end Resolver

/-! ## Wiping without success -/

section Unwiped

variable {node name : String} {vg : LVMVolumeGroup} {resolver : String → Option String}
variable {world : World} {assumes : Event sig World → Prop}

/-- The volume group is stored as it was read, and the resolver is right. -/
structure Tracks
    (node name : String)
    (vg : LVMVolumeGroup)
    (resolver : String → Option String)
    (world : World) : Prop where
  found : world.api.find? .volumeGroup name = some vg
  resolver : ResolverIs node resolver world

theorem wp_tracks
    {α : Type}
    {program : Program sig α}
    (uses : program.Uses (Within [.wipe]))
    (tracks : Tracks node name vg resolver world) :
    wp (environment node) (.assuming assumes) program
      (fun _ => Tracks node name vg resolver) world := by
  refine wp.of_uses uses (fun choice world request isWipe tracks _ => ⟨trivial, ?_, ?_⟩)
    tracks
  · rw [← tracks.found]
    exact (respond_frame node choice world request isWipe).find? _ _ (by simp
      [Effect.touchesKind])
  · exact tracks.resolver.respond choice (List.mem_singleton.mp isWipe)

/-- What `wipeDevice` is asked to wipe: where a path of the volume group leads, or the
empty name. -/
def Target (vg : LVMVolumeGroup) (resolver : String → Option String) (device : String) :
    Prop :=
  device = "" ∨ ∃ path, IsPath vg path ∧ resolver path = some device

theorem wipe_unwiped
    {device : String}
    (target : Target vg resolver device)
    (tracks : Tracks node name vg resolver world) :
    wp (environment node) (.assuming fun event => ¬WipesDevice node name event)
      (wipe device).run (fun result _ => result ≠ .ok ()) world := by
  dsimp only [wipe]
  split
  · exact nofun
  rename_i named
  obtain ⟨path, isPath, leads⟩ := target.resolve_left named
  rw [wp.run_mapError_iff, wp_command_iff]
  intro choice unwiped succeeded
  rw [Except.mapError_eq_ok_iff] at succeeded
  refine unwiped ⟨vg, path, device, tracks.found, isPath, ?_, rfl, ?_⟩
  · exact (tracks.resolver.links path).trans leads
  · exact (congrArg errorOf succeeded :)

mutual

theorem wipeIfNamed_unwiped
    {deviceName : String}
    (target : Target vg resolver deviceName) :
    (device : BlockDevice) → (world : World) → Tracks node name vg resolver world →
    wp (environment node) (.assuming fun event => ¬WipesDevice node name event)
      (wipeIfNamed deviceName device).run
      (fun result _ => ∀ value, result = .ok value → value.1 = false) world
  | .mk _ kname _ _ _ _ _ children, world, tracks => by
      rw [wipeIfNamed]
      split
      · rename_i same
        subst same
        simp only [wp.run_bind_iff, wp.run_lift_iff]
        refine (wp_tracks (removeMapperReferences_uses children) tracks).mono ?_
        intro _ after tracks
        refine ⟨by simp, fun _ _ => (wipe_unwiped target tracks).mono ?_⟩
        exact fun result _ failed => ⟨fun _ _ => by simp, fun _ isOk => absurd isOk failed⟩
      · rw [wp.run_bind_iff]
        refine (wipeDevice_unwiped target children world tracks).mono ?_
        rintro result _ unwiped
        refine ⟨by simp, ?_⟩
        rintro value isOk _ ⟨⟩
        exact unwiped value isOk

/-- Without a wipe nothing counts as wiped. -/
theorem wipeDevice_unwiped
    {deviceName : String}
    (target : Target vg resolver deviceName) :
    (devices : List BlockDevice) → (world : World) →
    Tracks node name vg resolver world →
    wp (environment node) (.assuming fun event => ¬WipesDevice node name event)
      (wipeDevice deviceName devices).run
      (fun result _ => ∀ value, result = .ok value → value = false) world
  | [], _, _ => by
      rintro _ ⟨⟩
      rfl
  | device :: rest, world, tracks => by
      rw [wipeDevice, wp.run_bind_iff]
      refine ((wp_tracks (wipeIfNamed_uses deviceName device) tracks).both
        (wipeIfNamed_unwiped target device world tracks)).mono ?_
      rintro result after ⟨tracks, unwiped⟩
      refine ⟨by simp, ?_⟩
      rintro ⟨flag, stop⟩ isOk
      obtain rfl : flag = false := unwiped _ isOk
      dsimp only
      split
      · rintro _ ⟨⟩
        rfl
      · rw [wp.run_bind_iff]
        refine (wipeDevice_unwiped target rest after tracks).mono ?_
        intro later _ laterUnwiped
        refine ⟨by simp, ?_⟩
        rintro value laterOk _ ⟨⟩
        simpa using laterUnwiped value laterOk

end

theorem resolve_tracks
    (path : String)
    (tracks : Tracks node name vg resolver world) :
    wp (environment node) (.assuming assumes) (resolve path).run
      (fun result after => Tracks node name vg resolver after ∧
        ∀ target, result = .ok target → resolver path = some target) world := by
  refine ((wp_frame (resolve_uses path)).both
    (resolve_follows path tracks.resolver)).mono ?_
  rintro result after ⟨frame, isResolver, leads⟩
  refine ⟨⟨?_, isResolver⟩, leads⟩
  rw [← tracks.found]
  exact frame.find? _ _ (by decide)

/-- The loop over the mandatory paths reports no device that was not wiped. -/
theorem wipePaths_unwiped
    (devices : List BlockDevice)
    (paths : List DevicePath)
    (arePaths : ∀ path ∈ paths, IsPath vg path)
    (tracks : Tracks node name vg resolver world) :
    wp (environment node) (.assuming fun event => ¬WipesDevice node name event)
      (wipePaths devices paths).run
      (fun result after => ∀ value, result = .ok value →
        value = false ∧ Tracks node name vg resolver after) world := by
  induction paths generalizing world with
  | nil =>
      rintro _ ⟨⟩
      exact ⟨rfl, tracks⟩
  | cons path rest inductionHypothesis =>
      rw [List.forall_mem_cons] at arePaths
      simp only [wipePaths, wp.run_bind_iff, wp.run_mapError_iff]
      refine (resolve_tracks path tracks).mono ?_
      rintro resolved middle ⟨tracks, leads⟩
      refine ⟨by simp, fun device isDevice => ?_⟩
      rw [Except.mapError_eq_ok_iff] at isDevice
      have target : Target vg resolver device :=
        .inr ⟨path, arePaths.1, leads device isDevice⟩
      refine ((wp_tracks (wipeDevice_uses device devices) tracks).both
        (wipeDevice_unwiped target devices middle tracks)).mono ?_
      rintro wiped last ⟨tracks, unwiped⟩
      refine ⟨by simp, fun flag isFlag => ?_⟩
      rw [Except.mapError_eq_ok_iff] at isFlag
      obtain rfl := unwiped flag isFlag
      refine (inductionHypothesis arePaths.2 tracks).mono ?_
      rintro later final laterUnwiped
      refine ⟨by simp, ?_⟩
      rintro value isValue _ ⟨⟩
      simpa using laterUnwiped value isValue

/-- Neither does the loop over the optional paths. -/
theorem wipeOptionalPaths_unwiped
    (devices : List BlockDevice)
    (paths : List DevicePath)
    (arePaths : ∀ path ∈ paths, IsPath vg path)
    (tracks : Tracks node name vg resolver world) :
    wp (environment node) (.assuming fun event => ¬WipesDevice node name event)
      (wipeOptionalPaths devices paths) (fun flag _ => flag = false) world := by
  induction paths generalizing world with
  | nil => exact rfl
  | cons path rest inductionHypothesis =>
      rw [List.forall_mem_cons] at arePaths
      rw [wipeOptionalPaths_cons, wp.bind_iff]
      refine (resolve_tracks path tracks).mono ?_
      rintro resolved middle ⟨tracks, leads⟩
      have target : Target vg resolver (resolved.toOption.getD "") := by
        cases resolved with
        | ok device => exact .inr ⟨path, arePaths.1, leads device rfl⟩
        | error error => exact .inl rfl
      rw [wp.bind_iff]
      refine ((wp_tracks (wipeDevice_uses _ devices) tracks).both
        (wipeDevice_unwiped target devices middle tracks)).mono ?_
      rintro wiped last ⟨tracks, unwiped⟩
      rw [wp.bind_iff]
      refine (inductionHypothesis arePaths.2 tracks).mono ?_
      rintro _ _ rfl
      cases wiped with
      | ok flag => exact unwiped flag rfl
      | error error => exact rfl

/-- The annotation is only added when a device has been wiped. -/
theorem wipeDevices_wiped
    {devices : List BlockDevice}
    {annotated : LVMVolumeGroup}
    {events : List (Event sig World)}
    {after : World}
    (tracks : Tracks node name vg resolver world)
    (ran : Exec (environment node) (wipeDevices node vg devices).run world events
      (.ok (some annotated)) after) :
    ∃ event ∈ events, WipesDevice node name event := by
  by_contra unwiped
  simp only [not_exists, not_and] at unwiped
  have never : wp (environment node)
      (.assuming fun event => ¬WipesDevice node name event)
      (wipeDevices node vg devices).run
      (fun result _ => ∀ value, result = .ok value → value = none) world := by
    dsimp only [wipeDevices]
    split
    · rintro _ ⟨⟩
      rfl
    cases isSelector : vg.spec.deviceSelector with
    | none => simp_all [shouldWipeDevicesOnVolumeGroup]
    | some selector =>
        have arePaths : ∀ path ∈ selector.paths ++ selector.optionalPaths, IsPath vg path :=
          fun path member => ⟨selector, isSelector, member⟩
        rw [List.forall_mem_append] at arePaths
        rw [wp.run_bind_iff, Option.getD_some]
        refine (wipePaths_unwiped devices _ arePaths.1 tracks).mono ?_
        intro mandatory middle holds
        refine ⟨by simp, fun wiped isOk => ?_⟩
        obtain ⟨rfl, tracks⟩ := holds wiped isOk
        simp only [wp.run_bind_iff, wp.run_lift_iff]
        refine (wipeOptionalPaths_unwiped devices _ arePaths.2 tracks).mono ?_
        rintro _ _ rfl
        refine ⟨by simp, ?_⟩
        rintro _ ⟨⟩ _ ⟨⟩
        rfl
  cases (never.sound ran unwiped).2 _ rfl

end Unwiped

/-! ## What is stored -/

/-- The call changes volume groups only by an update with a good version. -/
def OnlyUpdating (good : LVMVolumeGroup → Prop) (request : Request) : Prop :=
  (request.effect.touchesKind .volumeGroup = true → request.effect = .update .volumeGroup) ∧
    Updating good request

/-- Updates with good versions store good versions. -/
theorem Exec.mem_of_updating
    {α : Type}
    {good : LVMVolumeGroup → Prop}
    {node : String}
    {program : Program sig α}
    {world after : World}
    {events : List (Event sig World)}
    {value : α}
    (uses : program.Uses (OnlyUpdating good))
    (stable : ∀ old object new, ApiServer.stored .volumeGroup old object = some new →
      good object → good new)
    (ran : Exec (environment node) program world events value after) :
    ∀ vg ∈ after.api.objects .volumeGroup,
      vg ∈ world.api.objects .volumeGroup ∨ good vg := by
  -- No other call has an effect on the objects.
  have kept (choice : Choice) (middle : World) (request : Request)
      (allowed : OnlyUpdating good request)
      (holds : ∀ vg ∈ middle.api.objects .volumeGroup,
        vg ∈ world.api.objects .volumeGroup ∨ good vg) :
      ∀ vg ∈ (World.respond node choice middle request).2.api.objects .volumeGroup,
        vg ∈ world.api.objects .volumeGroup ∨ good vg := by
    intro vg member
    by_cases touches : request.effect.touchesKind .volumeGroup = true
    · obtain ⟨object, rfl⟩ := Request.eq_update_of_effect (allowed.1 touches)
      cases ApiServer.arises member with
      | kept old => exact holds vg old
      | updated _ _ becomes => exact .inr (stable _ _ _ becomes (allowed.2 _ rfl))
    · rw [(respond_frame node choice middle request (.head [])).objects .volumeGroup
        (by simpa using touches)] at member
      exact holds vg member
  exact (uses.preserves kept ran fun _ => Or.inl).2

/-- Marks are kept by the API server. -/
theorem isMarked_of_stored
    {node : String}
    {old object new : LVMVolumeGroup}
    (becomes : ApiServer.stored .volumeGroup old object = some new) :
    IsMarked node new ↔ IsMarked node object := by
  rw [ApiServer.eq_of_stored becomes]
  rfl

/-- Nodes have different annotations. -/
theorem devicesWipedKey_inj {first second : String} :
    devicesWipedKey first = devicesWipedKey second ↔ first = second := by
  simp [devicesWipedKey]

/-- The annotation marks the node. -/
theorem isMarked_annotatedAsWiped {node other time : String} {vg : LVMVolumeGroup} :
    IsMarked other (annotatedAsWiped node time vg) ↔ IsMarked other vg ∨ other = node := by
  rw [IsMarked, annotatedAsWiped, GoMap.has_set_iff, devicesWipedKey_inj, IsMarked]

/-- An object with a name and marks that may be stored. -/
structure MarkedOnly
    (name : String)
    (may : String → Prop)
    (object : LVMVolumeGroup) : Prop where
  name : object.name = name
  marks : ∀ node, IsMarked node object → may node

theorem MarkedOnly.stored
    {name : String}
    {may : String → Prop}
    {old object new : LVMVolumeGroup}
    (becomes : ApiServer.stored .volumeGroup old object = some new)
    (only : MarkedOnly name may object) :
    MarkedOnly name may new :=
  ⟨(ApiServer.nameOf_of_stored becomes :).trans only.name,
    fun node marked => only.marks node ((isMarked_of_stored becomes).mp marked)⟩

namespace Reconciler

variable {r : Reconciler} {name : String} {vg : LVMVolumeGroup} {world after : World}
variable {events : List (Event sig World)} {result : Except GoError Result}

/-- As long as nothing has been wiped, the volume groups stay as they are. -/
theorem reconcileLive_unwiped
    {resolver : String → Option String}
    (tracks : Tracks r.nodeName name vg resolver world)
    (ran : Exec (environment r.nodeName) (r.reconcileLive vg).run world events result after)
    (unwiped : ∀ event ∈ events, ¬WipesDevice r.nodeName name event) :
    after.api.objects .volumeGroup = world.api.objects .volumeGroup := by
  have untouched {α : Type} {program : Program sig α} {effects : List Effect}
      (uses : program.Uses (Within effects))
      (absent : ∀ effect ∈ effects, effect.touchesKind .volumeGroup = false) :
      program.Uses fun request : Request =>
        request.effect.touchesKind .volumeGroup = false :=
    uses.mono fun _ member => absent _ member
  rcases Exec.after_reading (.run_mapError (query_uses _)) ran with
    ⟨-, rfl⟩ | ⟨devices, listed, rest, rfl, -, -, ran⟩
  · rfl
  rcases Exec.after_reading refreshVGs_uses ran with
    ⟨-, rfl⟩ | ⟨vgs, refreshed, rest, rfl, -, -, ran⟩
  · rfl
  simp only [List.forall_mem_append] at unwiped
  split at ran
  · refine Exec.objects_of_uses ran ?_
    exact .run_bind (.run_lift (untouched (r.warningEvent_uses ..) (by decide)))
      fun _ => .run_bind (.run_lift (untouched (r.reportFailure_uses ..) (by decide)))
      fun _ => trivial
  rcases Exec.run_bind_iff.mp ran with
    ⟨_, -, failed⟩ | ⟨wiped, attempts, middle, rest, head, ran, rfl⟩
  · exact Exec.objects_of_uses failed
      (.run_mapError (untouched (wipeDevices_uses ..) (by decide)))
  have head := Exec.run_mapError_ok_iff.mp head
  simp only [List.forall_mem_append] at unwiped
  cases wiped with
  | some annotated =>
      obtain ⟨event, member, wipes⟩ := wipeDevices_wiped tracks head
      exact absurd wipes (unwiped.2.2.1 event member)
  | none =>
      calc after.api.objects .volumeGroup
        _ = middle.api.objects .volumeGroup :=
          Exec.objects_of_uses ran (untouched (r.reconcileDevices_uses ..) (by decide))
        _ = world.api.objects .volumeGroup :=
          Exec.objects_of_uses head (untouched (wipeDevices_uses ..) (by decide))

/-- After a reconciliation the volume group has the marks it had, and that of the node
only if a device has been wiped. -/
theorem reconcile_marks
    {resolver : String → Option String}
    (tracks : Tracks r.nodeName name vg resolver world)
    (ran : Exec (environment r.nodeName) (r.reconcile vg).run world events result after) :
    ∀ new ∈ after.api.objects .volumeGroup, new ∈ world.api.objects .volumeGroup ∨
      MarkedOnly vg.name (fun node => IsMarked node vg ∨
        node = r.nodeName ∧ ∃ event ∈ events, WipesDevice node name event) new := by
  have only {may : String → Prop}
      {program : Program sig (Except GoError Result)}
      (ran : Exec (environment r.nodeName) program world events result after)
      (uses : program.Uses (Within reconcileEffects))
      (updating : program.Uses (Updating (MarkedOnly vg.name may))) :
      ∀ new ∈ after.api.objects .volumeGroup,
        new ∈ world.api.objects .volumeGroup ∨ MarkedOnly vg.name may new := by
    have touching : ∀ effect ∈ reconcileEffects,
        effect.touchesKind .volumeGroup = true → effect = .update .volumeGroup := by
      decide
    exact Exec.mem_of_updating ((uses.mono fun _ allowed => touching _ allowed).both updating)
      (fun _ _ _ => .stored) ran
  have released (finalizers : List String) :
      MarkedOnly vg.name (fun node => IsMarked node vg ∨
        node = r.nodeName ∧ ∃ event ∈ events, WipesDevice node name event)
        { vg with metadata := { vg.metadata with finalizers } } :=
    ⟨rfl, fun node marked => .inl marked⟩
  have registered : MarkedOnly vg.name (fun node => IsMarked node vg ∨
      node = r.nodeName ∧ ∃ event ∈ events, WipesDevice node name event)
      { vg with metadata := (vg.metadata.addFinalizer (getFinalizer r.nodeName)).1 } := by
    dsimp only [ObjectMeta.addFinalizer]
    split
    · exact released vg.metadata.finalizers
    · exact released _
  by_cases wiped : ∃ event ∈ events, WipesDevice r.nodeName name event
  · refine only ran (r.reconcile_uses vg) (r.reconcile_updating (fun _ => released _)
      registered fun _ time => ⟨rfl, fun node marked => ?_⟩)
    rcases isMarked_annotatedAsWiped.mp marked with earlier | rfl
    · exact .inl earlier
    · exact .inr ⟨rfl, wiped⟩
  · simp only [not_exists, not_and] at wiped
    dsimp only [reconcile] at ran
    split at ran
    · exact only ran
        (.run_bind (within (r.processDelete_uses vg) (by decide)) fun _ => trivial)
        (.run_bind (r.processDelete_updating (released _)) fun _ => trivial)
    · split at ran
      · exact only ran
          (.run_bind (within (Client.update_uses ..) (by decide)) fun _ => trivial)
          (.run_bind (Client.update_updating registered) fun _ => trivial)
      · rw [reconcileLive_unwiped tracks ran wiped]
        exact fun _ => .inl

end Reconciler

/-- A reconciliation adds no marks but that of its node, and that only when it has wiped
a device of the volume group. -/
theorem ReconcileStep.marks
    {r : Reconciler}
    {name : String}
    {before after : World}
    {events : List (Event sig World)}
    (step : ReconcileStep r name before events after) :
    ∀ new ∈ after.api.objects .volumeGroup, ∀ node, IsMarked node new →
      (∃ old ∈ before.api.objects .volumeGroup, old.name = new.name ∧ IsMarked node old) ∨
      node = r.nodeName ∧ ∃ event ∈ events, WipesDevice node new.name event := by
  obtain ⟨first, rest, rfl, -, ⟨_, rfl⟩ | ⟨vg, result, found, ran⟩⟩ := step.cases
  · exact fun new member node marked => .inl ⟨new, member, rfl, marked⟩
  have tracks : Tracks r.nodeName name vg (before.host r.nodeName).symlinks
      (before.withNewResolver r.nodeName) :=
    ⟨found, fun _ => rfl, by simp [World.withNewResolver, GoMap.get?]⟩
  have named : vg.name = name := ApiServer.nameOf_of_find? found
  intro new member node marked
  rcases Reconciler.reconcile_marks tracks ran new member with old | ⟨sameName, marks⟩
  · exact .inl ⟨new, old, rfl, marked⟩
  rcases marks node marked with earlier | ⟨isNode, event, later, wipes⟩
  · exact .inl ⟨vg, List.mem_of_find?_eq_some found, sameName.symm, earlier⟩
  · refine .inr ⟨isNode, event, List.mem_append_right _ later, ?_⟩
    rwa [sameName, named]

end Lvms
