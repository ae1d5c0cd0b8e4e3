import Lvms.System
import Lvms.VgManager.Configuring

/-!
# The default device class

Which device class is the default is decided three times. The webhook counts the
device classes that say so, the operator adds the only device class of a spec, and the
vg-manager writes the flag of a volume group into the configuration of lvmd when it
adds the device class there, and never again. A configuration has a single default as
long as a spec that has one names the same device class as everything that is left
from earlier specs.
-/

namespace Lvms

open Interaction Interaction.Program

variable {name : String} {before after : World}

/-- The volume group of the device class becomes the default. -/
def LVMClusterSpec.isDefault (spec : LVMClusterSpec) (deviceClass : DeviceClass) : Bool :=
  spec.deviceClasses.length = 1 || deviceClass.default

/-- The default of a spec that an action declares is also the only default among the
volume groups and in the configurations of the nodes. -/
def DefaultIsFree (action : Action) (world : World) : Prop :=
  ∀ spec ∈ action.declares, ∀ deviceClass ∈ spec.deviceClasses,
    spec.isDefault deviceClass →
      (∀ vg ∈ world.api.objects .volumeGroup, vg.spec.default →
        vg.name = deviceClass.name) ∧
      ∀ node config, HasConfig node world config →
        ∀ entry ∈ config.deviceClasses, entry.default → entry.name = deviceClass.name

/-! ## One configuration -/

/-- Only the device class with a name is a default, and no name occurs twice. -/
structure OnlyDefault (name : String) (config : Lvmd.Config) : Prop where
  default : ∀ entry ∈ config.deviceClasses, entry.default → entry.name = name
  unique : (config.deviceClasses.map (·.name)).Nodup

/-- Device classes with unique names of which only one can be a default. -/
theorem OnlyDefault.length_le
    {config : Lvmd.Config}
    (only : OnlyDefault name config) :
    (config.deviceClasses.filter (·.default)).length ≤ 1 := by
  have unique : ((config.deviceClasses.filter (·.default)).map (·.name)).Nodup :=
    only.unique.sublist (List.filter_sublist.map _)
  have all : ∀ found ∈ (config.deviceClasses.filter (·.default)).map (·.name),
      found = name := by
    intro found member
    obtain ⟨entry, isEntry, rfl⟩ := List.mem_map.mp member
    obtain ⟨listed, isDefault⟩ := List.mem_filter.mp isEntry
    exact only.default entry listed isDefault
  rw [List.eq_replicate_of_mem all, List.nodup_replicate, List.length_map] at unique
  exact unique

/-- Either some device class has the name of the volume group, and then all names and
flags stay, or none has it. -/
theorem Reconciler.refreshDeviceClasses_cases
    {vg : LVMVolumeGroup}
    {old : List Lvmd.DeviceClass}
    {refreshed : Option (List Lvmd.DeviceClass)}
    (ran : refreshDeviceClasses vg old = .ok refreshed) :
    (∃ new, refreshed = some new ∧
        new.map (fun entry => (entry.name, entry.default)) =
          old.map fun entry => (entry.name, entry.default)) ∨
      refreshed = none ∧ ∀ entry ∈ old, entry.name ≠ vg.name := by
  induction old generalizing refreshed with
  | nil =>
      obtain rfl := Except.ok.inj ran
      exact .inr ⟨rfl, by simp⟩
  | cons first rest inductionHypothesis =>
      rw [refreshDeviceClasses] at ran
      split at ran
      · obtain ⟨new, isNew, isRefreshed⟩ := Except.bind_eq_ok_iff.mp ran
        obtain rfl := Except.ok.inj isRefreshed
        obtain ⟨sameName, sameDefault⟩ := refreshDeviceClass_keeps isNew
        exact .inl ⟨_, rfl, by simp [sameName, sameDefault]⟩
      · rename_i different
        obtain ⟨others, areOthers, isRefreshed⟩ := Except.bind_eq_ok_iff.mp ran
        obtain rfl := Except.ok.inj isRefreshed
        rcases inductionHypothesis areOthers with ⟨new, rfl, same⟩ | ⟨rfl, none⟩
        · exact .inl ⟨_, rfl, by simp [same]⟩
        · exact .inr ⟨rfl, List.forall_mem_cons.mpr ⟨different, none⟩⟩

theorem OnlyDefault.of_same
    {old new : Lvmd.Config}
    (only : OnlyDefault name old)
    (same : new.deviceClasses.map (fun entry => (entry.name, entry.default)) =
      old.deviceClasses.map fun entry => (entry.name, entry.default)) :
    OnlyDefault name new := by
  constructor
  · intro entry member isDefault
    have listed : (entry.name, entry.default) ∈
        old.deviceClasses.map fun entry => (entry.name, entry.default) := by
      rw [← same]
      exact List.mem_map_of_mem member
    obtain ⟨known, isKnown, equal⟩ := List.mem_map.mp listed
    obtain ⟨sameName, sameDefault⟩ := Prod.mk.inj equal
    rw [← sameName]
    exact only.default known isKnown (sameDefault ▸ isDefault)
  · have names := congrArg (List.map Prod.fst) same
    simp only [List.map_map, Function.comp_def] at names
    rw [names]
    exact only.unique

/-- The volume groups of which only the one with a name is a default keep the rule. -/
theorem OnlyDefault.keepsGood
    {vg : LVMVolumeGroup}
    (fits : vg.spec.default → vg.name = name) :
    Reconciler.KeepsGood (OnlyDefault name) vg where
  empty := ⟨by simp, by simp⟩
  added config new only changed := by
    obtain ⟨refreshed, ran, stored⟩ := Except.bind_eq_ok_iff.mp changed
    rcases Reconciler.refreshDeviceClasses_cases ran with ⟨classes, rfl, same⟩ |
      ⟨rfl, fresh⟩
    · obtain rfl := Except.ok.inj stored
      exact only.of_same same
    · obtain rfl := Except.ok.inj stored
      obtain ⟨sameName, sameDefault⟩ := Reconciler.newDeviceClass_keeps vg
      constructor
      · intro entry member isDefault
        rcases List.mem_append.mp member with old | new
        · exact only.default entry old isDefault
        · obtain rfl := List.mem_singleton.mp new
          rw [sameName]
          exact fits (sameDefault ▸ isDefault)
      · rw [List.map_append, List.map_singleton, List.nodup_append]
        refine ⟨only.unique, by simp, ?_⟩
        intro oldName isOld newName isNew equal
        obtain ⟨entry, isEntry, rfl⟩ := List.mem_map.mp isOld
        obtain rfl := List.mem_singleton.mp isNew
        exact fresh entry isEntry (equal.trans sameName)
  removed config only := by
    have fewer : (Reconciler.withoutDeviceClass vg.name config).deviceClasses.Sublist
        config.deviceClasses := List.eraseP_sublist
    exact ⟨fun entry member => only.default entry (fewer.subset member),
      only.unique.sublist (fewer.map _)⟩

/-! ## Steps -/

/-- A volume group can be a default only if it has a name. -/
def DefaultFits (name : String) (vgName : String) (spec : LVMVolumeGroupSpec) : Prop :=
  spec.default → vgName = name

/-- The device classes of a spec can be a default only if they have a name. -/
def DefaultDeclared (name : String) (spec : LVMClusterSpec) : Prop :=
  ∀ deviceClass ∈ spec.deviceClasses, spec.isDefault deviceClass → deviceClass.name = name

/-- Only what has a name is a default, in the specs, among the volume groups and in the
configurations. -/
structure DefaultIs (name : String) (world : World) : Prop where
  fitting : Fitting (DefaultFits name) (DefaultDeclared name) world
  configured : Configured (OnlyDefault name) world

theorem classesFit_default
    (r : Operator)
    (name : String)
    (spec : LVMClusterSpec)
    (isDeclared : DefaultDeclared name spec) :
    r.ClassesFit (DefaultFits name) spec := by
  intro vg isVG isDefault
  obtain ⟨deviceClass, member, rfl⟩ := List.mem_map.mp isVG
  exact isDeclared deviceClass member isDefault

/-- Actions that declare no spec keep the default, in every world they pass through. -/
theorem DefaultIs.step
    {system : System}
    {action : Action}
    {occurrences : List Occurrence}
    (isDefault : DefaultIs name before)
    (step : system.Step before action occurrences after)
    (declaresNone : action.declares = none) :
    ∀ world ∈ visited occurrences after, DefaultIs name world := by
  have fitting := step.fitting declaresNone (classesFit_default system.operator name)
    isDefault.fitting
  have configured : ∀ world ∈ visited occurrences after,
      Configured (OnlyDefault name) world := by
    cases step with
    | create | update => cases declaresNone
    | delete ran =>
        exact forall_visited_calls
          (isDefault.configured.of_uses (Client.delete_uses ..) (by decide) ran)
    | operator ran =>
        exact forall_visited_calls (isDefault.configured.of_uses (Operator.reconcileRequest_uses _)
          (by decide) ran)
    | vgManager step =>
        exact forall_visited_calls (step.configured (fun _ => OnlyDefault.keepsGood)
          isDefault.fitting isDefault.configured)
    | change surroundings =>
        intro world member
        rcases List.mem_pair.mp member with rfl | rfl
        · exact isDefault.configured
        · refine isDefault.configured.of_same surroundings.lvmdFile fun node => ?_
          rcases surroundings.memory node with same | fresh
          · exact .inl (congrArg Memory.config same)
          · exact .inr (congrArg Memory.config fresh)
  exact fun world member => ⟨fitting world member, configured world member⟩

/-- A well-formed spec has at most one default. -/
theorem Webhook.WellFormed.isDefault_unique
    {validator : Webhook.Validator}
    {l : LVMCluster}
    {deviceClass other : DeviceClass}
    (wellFormed : Webhook.WellFormed validator l)
    (member : deviceClass ∈ l.spec.deviceClasses)
    (isDefault : l.spec.isDefault deviceClass)
    (isOther : other ∈ l.spec.deviceClasses)
    (otherDefault : l.spec.isDefault other) :
    other = deviceClass := by
  have few : l.spec.deviceClasses.countP (·.default) ≤ 1 := by
    obtain ⟨warnings, verified⟩ := wellFormed.defaults
    by_contra many
    rw [not_le] at many
    simp only [Webhook.verifyDeviceClass, if_pos many] at verified
    cases verified
  simp only [LVMClusterSpec.isDefault, Bool.or_eq_true, decide_eq_true_eq]
    at isDefault otherDefault
  by_cases only : l.spec.deviceClasses.length = 1
  · obtain ⟨single, isSingle⟩ := List.length_eq_one_iff.mp only
    rw [isSingle, List.mem_singleton] at member isOther
    rw [member, isOther]
  · rw [List.countP_eq_length_filter] at few
    exact eq_of_length_le_one few
      (List.mem_filter.mpr ⟨member, isDefault.resolve_left only⟩)
      (List.mem_filter.mpr ⟨isOther, otherDefault.resolve_left only⟩)

theorem Configured.of_declaration
    {good : Lvmd.Config → Prop}
    {spec : LVMClusterSpec}
    (configured : Configured good before)
    (declaration : Declaration before after spec) :
    Configured good after := by
  refine configured.of_same (fun node => ?_) fun node => .inl ?_
  · rw [Lvmd.stored, declaration.host]
    rfl
  · rw [Lvmd.cached, declaration.memory]
    rfl

/-- A spec whose default is free can be declared. -/
theorem DefaultIs.declaration
    {validator : Webhook.Validator}
    {action : Action}
    {l : LVMCluster}
    (isDefault : DefaultIs name before)
    (isSpec : action.declares = some l.spec)
    (free : DefaultIsFree action before)
    (admitted : Admitted validator before l)
    (declaration : Declaration before after l.spec) :
    ∃ name, DefaultIs name after := by
  have volumeGroups := declaration.objects .volumeGroup (by decide)
  have unique : after.api.Unique .volumeGroup := by
    rw [ApiServer.Unique, volumeGroups]
    exact isDefault.fitting.unique
  -- With a default in the new spec, its name is the one that everything has; without
  -- one, the name stays.
  obtain ⟨chosen, declared, fits, configured⟩ : ∃ chosen, DefaultDeclared chosen l.spec ∧
      (∀ vg ∈ before.api.objects .volumeGroup, DefaultFits chosen vg.name vg.spec) ∧
      Configured (OnlyDefault chosen) before := by
    by_cases hasDefault : ∃ deviceClass ∈ l.spec.deviceClasses,
        l.spec.isDefault deviceClass = true
    · obtain ⟨deviceClass, member, chosen⟩ := hasDefault
      obtain ⟨ofVolumeGroups, ofConfigs⟩ := free l.spec isSpec deviceClass member chosen
      refine ⟨deviceClass.name, ?_, ofVolumeGroups, ?_⟩
      · intro other isOther otherDefault
        rw [admitted.wellFormed.isDefault_unique member chosen isOther otherDefault]
      · intro node config holds
        exact ⟨ofConfigs node config holds, (isDefault.configured node config holds).unique⟩
    · refine ⟨name, ?_, isDefault.fitting.volumeGroups, isDefault.configured⟩
      intro other isOther otherDefault
      exact absurd ⟨other, isOther, otherDefault⟩ hasDefault
  by_cases stays : ∀ cluster ∈ after.api.objects .lvmCluster,
      cluster ∈ before.api.objects .lvmCluster
  · refine ⟨name, ⟨?_, ?_, unique, declaration.single⟩, ?_⟩
    · rw [volumeGroups]
      exact isDefault.fitting.volumeGroups
    · intro cluster member
      exact isDefault.fitting.clusters cluster (stays cluster member)
    · exact isDefault.configured.of_declaration declaration
  · refine ⟨chosen, ⟨?_, ?_, unique, declaration.single⟩, ?_⟩
    · rw [volumeGroups]
      exact fits
    · obtain ⟨stored, isStored, isNew⟩ : ∃ stored ∈ after.api.objects .lvmCluster,
          stored ∉ before.api.objects .lvmCluster := by
        simpa using stays
      intro cluster member
      rw [eq_of_length_le_one declaration.single isStored member,
        (declaration.clusters stored isStored).resolve_left isNew]
      exact declared
    · exact configured.of_declaration declaration

/-! ## Runs -/

/-- In a run in which every declared default is free, no configuration of lvmd has two
defaults: neither the file of a node nor the cache of its vg-manager. -/
theorem single_default_of_free
    (system : System)
    (start last : World)
    (occurrences : List Occurrence)
    (noCluster : start.api.objects .lvmCluster = [])
    (noVolumeGroup : start.api.objects .volumeGroup = [])
    (noConfig : ∀ node config, ¬HasConfig node start config)
    (run : system.Run DefaultIsFree start occurrences last) :
    ∀ world ∈ visited occurrences last, ∀ node config, HasConfig node world config →
      (config.deviceClasses.filter (·.default)).length ≤ 1 := by
  have initial : ∃ name, DefaultIs name start := by
    refine ⟨"", ⟨by simp [noVolumeGroup], by simp [noCluster], ?_, by simp [noCluster]⟩, ?_⟩
    · rw [ApiServer.Unique, noVolumeGroup]
      exact List.nodup_nil
    · intro node config holds
      exact absurd holds (noConfig node config)
  have throughout : ∀ world ∈ visited occurrences last, ∃ name, DefaultIs name world := by
    refine History.all_worlds (fun world => ∃ name, DefaultIs name world) initial ?_ run
    rintro middle added next ⟨name, isDefault⟩ ⟨action, free, step⟩
    cases isSpec : action.declares with
    | none =>
        intro world member
        exact ⟨name, isDefault.step step isSpec world member⟩
    | some spec =>
        obtain ⟨worlds, ⟨l, rfl, admitted⟩, declaration⟩ :=
          step.declaration isSpec isDefault.fitting.single
        intro world member
        replace member : world ∈ visited added next := member
        rw [worlds] at member
        rcases List.mem_pair.mp member with rfl | rfl
        · exact ⟨name, isDefault⟩
        · exact isDefault.declaration isSpec free admitted declaration
  intro world member node config holds
  obtain ⟨name, isDefault⟩ := throughout world member
  exact (isDefault.configured node config holds).length_le

/-- A device class on one disk. -/
def thickClass (name path : String) (default : Bool) : DeviceClass where
  name := name
  deviceSelector := some { paths := [path] }
  default := default

/-- A node sets up the only device class of a cluster. -/
def firstDefault : List Action :=
  [.create { name := "cluster", inNamespace := "storage" }
      { deviceClasses := [thickClass "vg1" "/dev/sda" false] },
    .operator "cluster",
    .vgManager "node" "vg1",
    .vgManager "node" "vg1",
    .vgManager "node" "vg1"]

/-- A user then adds a device class that says it is the default. -/
def secondDefault : List Action :=
  firstDefault ++
  [.update "cluster" { deviceClasses :=
      [thickClass "vg1" "/dev/sda" false, thickClass "vg2" "/dev/sdb" true] },
    .operator "cluster",
    .vgManager "node" "vg2",
    .vgManager "node" "vg2",
    .vgManager "node" "vg2"]

/-- A run of such actions. -/
def defaultsRun (actions : List Action) : List Occurrence × World :=
  System.plain.performAll withoutFailures oneNodeWorld actions

/-- The number of defaults in the file of lvmd. -/
def countDefaults (world : World) : Option Nat :=
  match Lvmd.stored "node" world with
  | some (.config config) => some (config.deviceClasses.filter (·.default)).length
  | _ => none

theorem oneNodeWorld_noConfig (node : String) (config : Lvmd.Config) :
    ¬HasConfig node oneNodeWorld config := by
  rintro (inFile | inCache)
  · cases inFile
  · cases inCache

theorem single_default_of_free_first :
    countDefaults (defaultsRun firstDefault).2 = some 1 ∧
      ∀ world ∈ visited (defaultsRun firstDefault).1 (defaultsRun firstDefault).2,
        ∀ node config, HasConfig node world config →
          (config.deviceClasses.filter (·.default)).length ≤ 1 := by
  refine ⟨by decide +kernel, ?_⟩
  refine single_default_of_free .plain oneNodeWorld _ _ rfl rfl oneNodeWorld_noConfig
    (System.performAll_run ⟨⟨?_, by decide +kernel⟩, ?_⟩)
  · intro spec isSpec deviceClass member isDefault
    refine ⟨by simp [oneNodeWorld], fun node config holds => ?_⟩
    exact absurd holds (oneNodeWorld_noConfig node config)
  · refine ⟨⟨?_, trivial⟩, ⟨?_, trivial⟩, ⟨?_, trivial⟩, ⟨?_, trivial⟩, trivial⟩
    all_goals
      intro spec isSpec
      cases isSpec

/-- The device class that was the only one stays a default next to the new one. -/
theorem two_defaults :
    ¬∀ (system : System) (start last : World) (occurrences : List Occurrence),
      start.api.objects .lvmCluster = [] → start.api.objects .volumeGroup = [] →
      (∀ node config, ¬HasConfig node start config) →
      system.Run (fun _ _ => True) start occurrences last →
      ∀ world ∈ visited occurrences last, ∀ node config, HasConfig node world config →
        (config.deviceClasses.filter (·.default)).length ≤ 1 := by
  intro always
  have few := always .plain oneNodeWorld (defaultsRun secondDefault).2
    (defaultsRun secondDefault).1 rfl rfl oneNodeWorld_noConfig
    (System.performAll_run (by decide +kernel)) (defaultsRun secondDefault).2
    (by simp [visited, History.trail]) "node"
  have counted : countDefaults (defaultsRun secondDefault).2 = some 2 := by
    decide +kernel
  unfold countDefaults at counted
  split at counted
  · rename_i config inFile
    have atMostOne := few config (.inl inFile)
    rw [Option.some.inj counted] at atMostOne
    omega
  · cases counted

end Lvms
