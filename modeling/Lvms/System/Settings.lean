import Lvms.System

/-!
# Settings of volume groups

Admission compares a device class with the one of the same name in the previous spec,
and the operator copies the settings of a device class into its volume group object.
The object can outlive the device class, because it waits for the nodes to clean up.
Its settings stay what they are exactly as long as a device class that is added again
is compatible with the object that is still there.
-/

namespace Lvms

open Interaction Interaction.Program

/-- The fixed settings of a volume group object. -/
def LVMVolumeGroupSpec.settings (spec : LVMVolumeGroupSpec) : Settings where
  thinPool := spec.thinPoolConfig.map (·.settings)
  raidConfig := spec.raidConfig
  nodeSelector := spec.nodeSelector
  forceWipe := spec.deviceSelector.bind (·.forceWipeDevicesAndDestroyAllData)

/-- The settings of the volume group object with a name, while there is one. -/
def World.settingsOf (world : World) (name : String) : Option Settings :=
  (world.api.find? .volumeGroup name).map (·.spec.settings)

/-- A device class that an action adds has the settings of the volume group that is
still there under its name, if there is one. -/
def AddsAsItWas (action : Action) (world : World) : Prop :=
  ∀ spec ∈ action.declares, ∀ deviceClass ∈ spec.deviceClasses,
    (∀ cluster ∈ world.api.objects .lvmCluster,
      Webhook.deviceClassNamed cluster deviceClass.name = none) →
    ∀ vg ∈ world.api.objects .volumeGroup, vg.name = deviceClass.name →
      vg.spec.settings = deviceClass.settings

instance (action : Action) (world : World) : Decidable (AddsAsItWas action world) :=
  inferInstanceAs (Decidable (∀ spec ∈ action.declares,
    ∀ deviceClass ∈ spec.deviceClasses, _))

/-- The volume groups have the settings of their device classes. -/
structure Agrees (world : World) : Prop where
  unique : world.api.Unique .volumeGroup
  single : (world.api.objects .lvmCluster).length ≤ 1
  uniqueNames : ∀ cluster ∈ world.api.objects .lvmCluster, Webhook.UniqueNames cluster
  settings : ∀ cluster ∈ world.api.objects .lvmCluster,
    ∀ deviceClass ∈ cluster.spec.deviceClasses,
    ∀ vg ∈ world.api.objects .volumeGroup, vg.name = deviceClass.name →
      vg.spec.settings = deviceClass.settings

/-! ## What is recorded in a world -/

/-- Some volume group or device class with the name has the settings. -/
def Recorded (world : World) (name : String) (spec : LVMVolumeGroupSpec) : Prop :=
  (∃ vg ∈ world.api.objects .volumeGroup,
      vg.name = name ∧ vg.spec.settings = spec.settings) ∨
    ∃ cluster ∈ world.api.objects .lvmCluster,
      ∃ deviceClass ∈ cluster.spec.deviceClasses,
        deviceClass.name = name ∧ deviceClass.settings = spec.settings

/-- Some cluster has the spec. -/
def HasSpec (world : World) (spec : LVMClusterSpec) : Prop :=
  ∃ cluster ∈ world.api.objects .lvmCluster, cluster.spec = spec

theorem classesFit_recorded
    (r : Operator)
    (world : World)
    (spec : LVMClusterSpec)
    (hasSpec : HasSpec world spec) :
    r.ClassesFit (Recorded world) spec := by
  obtain ⟨cluster, member, rfl⟩ := hasSpec
  intro vg isVG
  obtain ⟨deviceClass, isClass, rfl⟩ := List.mem_map.mp isVG
  exact .inr ⟨cluster, member, deviceClass, isClass, rfl, rfl⟩

namespace Agrees

variable {world : World}

theorem fitting (agrees : Agrees world) :
    Fitting (Recorded world) (HasSpec world) world where
  volumeGroups vg member := .inl ⟨vg, member, rfl, rfl⟩
  clusters cluster member := ⟨cluster, member, rfl⟩
  unique := agrees.unique
  single := agrees.single

/-- Only one value of the settings is recorded under a name. -/
theorem settings_eq
    {name : String}
    {left right : LVMVolumeGroupSpec}
    (agrees : Agrees world)
    (isLeft : Recorded world name left)
    (isRight : Recorded world name right) :
    left.settings = right.settings := by
  rcases isLeft with ⟨vg, isVG, named, same⟩ | ⟨cluster, isCluster, deviceClass, isClass,
    named, same⟩
  · rcases isRight with ⟨other, isOther, otherNamed, sameOther⟩ |
      ⟨cluster, isCluster, deviceClass, isClass, classNamed, sameClass⟩
    · have found := agrees.unique.find?_of_mem isVG
      have foundOther := agrees.unique.find?_of_mem isOther
      have sameName : Kind.volumeGroup.nameOf other = Kind.volumeGroup.nameOf vg :=
        otherNamed.trans named.symm
      rw [sameName, found] at foundOther
      obtain rfl := Option.some.inj foundOther
      rw [← same, sameOther]
    · rw [← same, ← sameClass]
      exact agrees.settings cluster isCluster deviceClass isClass vg isVG
        (named.trans classNamed.symm)
  · rcases isRight with ⟨vg, isVG, vgNamed, sameVG⟩ |
      ⟨other, isOther, otherClass, isOtherClass, otherNamed, sameOther⟩
    · rw [← same, ← sameVG]
      exact (agrees.settings cluster isCluster deviceClass isClass vg isVG
        (vgNamed.trans named.symm)).symm
    · obtain rfl := eq_of_length_le_one agrees.single isCluster isOther
      have unique := agrees.uniqueNames other isOther
      have found := find?_key_of_mem unique isClass
      have foundOther := find?_key_of_mem unique isOtherClass
      rw [otherNamed.trans named.symm, found] at foundOther
      obtain rfl := Option.some.inj foundOther
      rw [← same, sameOther]

/-- Where only what was recorded is stored, the settings still agree. -/
theorem of_fitting
    {other : World}
    (agrees : Agrees world)
    (fitting : Fitting (Recorded world) (HasSpec world) other) :
    Agrees other where
  unique := fitting.unique
  single := fitting.single
  uniqueNames cluster member := by
    obtain ⟨known, isKnown, same⟩ := fitting.clusters cluster member
    have unique := agrees.uniqueNames known isKnown
    rw [Webhook.UniqueNames, ← same]
    exact unique
  settings cluster member deviceClass isClass vg isVG named := by
    obtain ⟨known, isKnown, same⟩ := fitting.clusters cluster member
    have recorded : Recorded world vg.name
        (lvmVolumeGroup "" known.spec.deviceClasses deviceClass).spec :=
      .inr ⟨known, isKnown, deviceClass, same ▸ isClass, named.symm, rfl⟩
    exact agrees.settings_eq (fitting.volumeGroups vg isVG) recorded

end Agrees

/-! ## Steps -/

/-- A volume group that is there in both worlds has the same settings. -/
def SettingsStay (before after : World) : Prop :=
  ∀ name, ∀ old ∈ before.settingsOf name, ∀ new ∈ after.settingsOf name, new = old

theorem SettingsStay.of_fitting
    {world before after : World}
    (agrees : Agrees world)
    (fitsBefore : Fitting (Recorded world) (HasSpec world) before)
    (fitsAfter : Fitting (Recorded world) (HasSpec world) after) :
    SettingsStay before after := by
  intro name old isOld new isNew
  obtain ⟨oldVG, foundOld, rfl⟩ := Option.map_eq_some_iff.mp isOld
  obtain ⟨newVG, foundNew, rfl⟩ := Option.map_eq_some_iff.mp isNew
  exact agrees.settings_eq (fitsAfter.of_find? foundNew) (fitsBefore.of_find? foundOld)

/-- A device class that was declared before was compared with what it was. -/
theorem Agrees.declaration
    {validator : Webhook.Validator}
    {before after : World}
    {action : Action}
    {l : LVMCluster}
    (agrees : Agrees before)
    (isSpec : action.declares = some l.spec)
    (adds : AddsAsItWas action before)
    (admitted : Admitted validator before l)
    (declaration : Declaration before after l.spec) :
    Agrees after := by
  have volumeGroups := declaration.objects .volumeGroup (by decide)
  refine ⟨?_, declaration.single, ?_, ?_⟩
  · rw [ApiServer.Unique, volumeGroups]
    exact agrees.unique
  · intro cluster member
    rcases declaration.clusters cluster member with kept | same
    · exact agrees.uniqueNames cluster kept
    · rw [Webhook.UniqueNames, same]
      exact admitted.inSchema.unique
  · intro cluster member deviceClass isClass vg isVG named
    rw [volumeGroups] at isVG
    rcases declaration.clusters cluster member with kept | same
    · exact agrees.settings cluster kept deviceClass isClass vg isVG named
    · rw [same] at isClass
      by_cases added : ∀ old ∈ before.api.objects .lvmCluster,
          Webhook.deviceClassNamed old deviceClass.name = none
      · exact adds l.spec isSpec deviceClass isClass added vg isVG named
      · obtain ⟨old, wasThere, isThere⟩ : ∃ old ∈ before.api.objects .lvmCluster,
            Webhook.deviceClassNamed old deviceClass.name ≠ none := by
          simpa using added
        obtain ⟨previous, found⟩ := Option.ne_none_iff_exists'.mp isThere
        have kept := (Webhook.validateDeviceClassUpdate_eq_ok_iff found).mp
          ((admitted.compatible old wasThere).deviceClasses deviceClass isClass)
        have sameName : previous.name = deviceClass.name := by
          simpa using List.find?_some found
        rw [kept.settings]
        exact agrees.settings old wasThere previous (List.mem_of_find?_eq_some found) vg
          isVG (named.trans sameName.symm)

/-- One action keeps the settings, from each world it passes through to the next. -/
theorem Agrees.step
    {system : System}
    {before after : World}
    {action : Action}
    {occurrences : List Occurrence}
    (agrees : Agrees before)
    (adds : AddsAsItWas action before)
    (step : system.Step before action occurrences after) :
    Agrees after ∧ (visited occurrences after).IsChain SettingsStay := by
  cases isSpec : action.declares with
  | none =>
      have throughout := step.fitting isSpec
        (classesFit_recorded system.operator before) agrees.fitting
      refine ⟨agrees.of_fitting (throughout after (by simp [visited, History.trail])), ?_⟩
      refine (List.Pairwise.isChain ?_)
      exact List.pairwise_of_forall_mem_list fun left isLeft right isRight =>
        .of_fitting agrees (throughout left isLeft) (throughout right isRight)
  | some spec =>
      obtain ⟨worlds, ⟨l, rfl, admitted⟩, declaration⟩ :=
        step.declaration isSpec agrees.single
      refine ⟨agrees.declaration isSpec adds admitted declaration, ?_⟩
      rw [worlds, List.isChain_pair]
      intro name old isOld new isNew
      have same : after.settingsOf name = before.settingsOf name := by
        rw [World.settingsOf, ApiServer.find?, declaration.objects .volumeGroup (by decide)]
        rfl
      rw [same] at isNew
      exact Option.mem_unique isNew isOld

/-! ## Runs -/

/-- In a run in which device classes are only added again as they were, a volume group
has the same settings in all worlds of its lifetime: of any part of the run during
which it is there. -/
theorem settings_constant_of_lifetime
    (system : System)
    (start last : World)
    (occurrences : List Occurrence)
    (name : String)
    (lifetime : List World)
    (unique : start.api.Unique .volumeGroup)
    (noCluster : start.api.objects .lvmCluster = [])
    (run : system.Run AddsAsItWas start occurrences last)
    (isPart : lifetime <:+: visited occurrences last)
    (present : ∀ world ∈ lifetime, (world.api.find? .volumeGroup name).isSome) :
    ∀ world ∈ lifetime, ∀ other ∈ lifetime,
      world.settingsOf name = other.settingsOf name := by
  have initial : Agrees start :=
    ⟨unique, by simp [noCluster], by simp [noCluster], by simp [noCluster]⟩
  have linked : (visited occurrences last).IsChain SettingsStay := by
    refine History.chain Agrees initial ?_ run
    rintro middle added last agrees ⟨action, adds, step⟩
    obtain ⟨final, stays⟩ := agrees.step adds step
    exact ⟨final, step.visited_head, stays⟩
  have same : lifetime.IsChain (fun world other =>
      world.settingsOf name = other.settingsOf name) := by
    have partLinked := List.IsChain.infix linked isPart
    refine partLinked.imp_of_mem_imp fun world other member isOther stays => ?_
    obtain ⟨vg, found⟩ := Option.isSome_iff_exists.mp (present world member)
    obtain ⟨otherVG, foundOther⟩ := Option.isSome_iff_exists.mp (present other isOther)
    have settings : world.settingsOf name = some vg.spec.settings := by
      rw [World.settingsOf, found, Option.map_some]
    have otherSettings : other.settingsOf name = some otherVG.spec.settings := by
      rw [World.settingsOf, foundOther, Option.map_some]
    rw [settings, otherSettings, stays name _ settings _ otherSettings]
  have : Std.Symm fun world other : World =>
      world.settingsOf name = other.settingsOf name := ⟨fun _ _ => Eq.symm⟩
  exact (List.isChain_iff_pairwise.mp same).forall_of_forall fun _ _ => rfl

/-- A device class with a thin pool that takes some part of its volume group. -/
def thinClassOf (name path : String) (sizePercent : Int) : DeviceClass where
  name := name
  deviceSelector := some { paths := [path] }
  thinPoolConfig := some { name := "pool", sizePercent, overprovisionRatio := 10 }

/-- A user removes a device class after a node has set up its volume group, and adds it
again while the volume group waits for the node. -/
def readding (sizePercent : Int) : List Action :=
  let vg2 := thinClassOf "vg2" "/dev/sdb" 90
  [.create { name := "cluster", inNamespace := "storage" }
      { deviceClasses := [thinClassOf "vg1" "/dev/sda" 90, vg2] },
    .operator "cluster",
    .vgManager "node" "vg1",
    .update "cluster" { deviceClasses := [vg2] },
    .operator "cluster",
    .update "cluster" { deviceClasses := [vg2, thinClassOf "vg1" "/dev/sda" sizePercent] },
    .operator "cluster"]

/-- The occurrences of that run, and where it ends. -/
def readdingRun (sizePercent : Int) : List Occurrence × World :=
  System.plain.performAll withoutFailures oneNodeWorld (readding sizePercent)

/-- The worlds in which the volume group waits for its node. -/
def readdedWorlds (sizePercent : Int) : List World :=
  (visited (readdingRun sizePercent).1 (readdingRun sizePercent).2).dropWhile fun world =>
    !(world.api.find? .volumeGroup "vg1").any (·.metadata.deletionTimestamp.isSome)

theorem readdedWorlds_isInfix (sizePercent : Int) :
    readdedWorlds sizePercent <:+:
      visited (readdingRun sizePercent).1 (readdingRun sizePercent).2 :=
  (List.dropWhile_suffix _).isInfix

/-- The class is added again as it was. -/
theorem settings_constant_of_lifetime_readded :
    1 < (readdedWorlds 90).length ∧
      ∀ world ∈ readdedWorlds 90, ∀ other ∈ readdedWorlds 90,
        world.settingsOf "vg1" = other.settingsOf "vg1" := by
  refine ⟨by decide +kernel, ?_⟩
  exact settings_constant_of_lifetime .plain oneNodeWorld (readdingRun 90).2
    (readdingRun 90).1 "vg1" (readdedWorlds 90) List.nodup_nil rfl
    (System.performAll_run (by decide +kernel)) (readdedWorlds_isInfix 90)
    (by decide +kernel)

/-- A thin pool of half the size replaces the settings of the volume group that is
waiting for its node. -/
theorem settings_change_of_readded :
    ¬∀ (system : System) (start last : World) (occurrences : List Occurrence)
      (name : String) (lifetime : List World),
      start.api.Unique .volumeGroup → start.api.objects .lvmCluster = [] →
      system.Run (fun _ _ => True) start occurrences last →
      lifetime <:+: visited occurrences last →
      (∀ world ∈ lifetime, (world.api.find? .volumeGroup name).isSome) →
      ∀ world ∈ lifetime, ∀ other ∈ lifetime,
        world.settingsOf name = other.settingsOf name := by
  intro always
  have same := always .plain oneNodeWorld (readdingRun 50).2 (readdingRun 50).1 "vg1"
    (readdedWorlds 50) List.nodup_nil rfl (System.performAll_run (by decide +kernel))
    (readdedWorlds_isInfix 50) (by decide +kernel)
  revert same
  decide +kernel

end Lvms
