import Lvms.Interaction.History
import Lvms.Operator.Admission
import Lvms.Operator.Steps
import Lvms.VgManager.Steps

/-!
# The system

Users write the cluster object, which is admitted by its schema and the webhook. The
operator and the vg-managers reconcile what they find. Everything else, from claims
and nodes to the disks of the hosts, changes on its own. A run is any sequence of such
actions; reconciliations do not overlap.
-/

namespace Lvms

open Interaction Interaction.Program

/-! ## The schema of the cluster object -/

/-- A field that cannot change once it is set: `oldSelf == self`. -/
def SameOnceSet {α : Type} (old new : Option α) : Prop :=
  ∀ before ∈ old, ∀ after ∈ new, after = before

instance {α : Type} [DecidableEq α] (old new : Option α) :
    Decidable (SameOnceSet old new) :=
  inferInstanceAs (Decidable (∀ before ∈ old, ∀ after ∈ new, after = before))

/-- What the schema asks of a cluster: the names of device classes are keys, and the
policies of storage classes have defaults. -/
structure InSchema (l : LVMCluster) : Prop where
  unique : Webhook.UniqueNames l
  policies : ∀ deviceClass ∈ l.spec.deviceClasses,
    (deviceClass.storageClassOptions.bind (·.reclaimPolicy)).isSome

instance (l : LVMCluster) : Decidable (InSchema l) :=
  decidable_of_iff (Webhook.UniqueNames l ∧ ∀ deviceClass ∈ l.spec.deviceClasses,
      (deviceClass.storageClassOptions.bind (·.reclaimPolicy)).isSome)
    ⟨fun ⟨unique, policies⟩ => ⟨unique, policies⟩,
      fun ⟨unique, policies⟩ => ⟨unique, policies⟩⟩

/-- The transition rules of the schema for one device class. -/
structure KeepsSchema (old new : DeviceClass) : Prop where
  filesystemType : new.filesystemType = old.filesystemType
  raidConfig : SameOnceSet old.raidConfig new.raidConfig
  reclaimPolicy : SameOnceSet (old.storageClassOptions.bind (·.reclaimPolicy))
    (new.storageClassOptions.bind (·.reclaimPolicy))
  volumeBindingMode : SameOnceSet (old.storageClassOptions.bind (·.volumeBindingMode))
    (new.storageClassOptions.bind (·.volumeBindingMode))
  additionalParameters : SameOnceSet
    (old.storageClassOptions.map (·.additionalParameters))
    (new.storageClassOptions.map (·.additionalParameters))

instance (old new : DeviceClass) : Decidable (KeepsSchema old new) :=
  decidable_of_iff (new.filesystemType = old.filesystemType ∧
      SameOnceSet old.raidConfig new.raidConfig ∧
      SameOnceSet (old.storageClassOptions.bind (·.reclaimPolicy))
        (new.storageClassOptions.bind (·.reclaimPolicy)) ∧
      SameOnceSet (old.storageClassOptions.bind (·.volumeBindingMode))
        (new.storageClassOptions.bind (·.volumeBindingMode)) ∧
      SameOnceSet (old.storageClassOptions.map (·.additionalParameters))
        (new.storageClassOptions.map (·.additionalParameters)))
    ⟨fun ⟨fstype, raid, reclaim, binding, parameters⟩ =>
        ⟨fstype, raid, reclaim, binding, parameters⟩,
      fun ⟨fstype, raid, reclaim, binding, parameters⟩ =>
        ⟨fstype, raid, reclaim, binding, parameters⟩⟩

/-- The transition rules of the schema. -/
def SchemaAllows (old l : LVMCluster) : Prop :=
  ∀ deviceClass ∈ l.spec.deviceClasses,
    ∀ before ∈ Webhook.deviceClassNamed old deviceClass.name,
      KeepsSchema before deviceClass

instance (old l : LVMCluster) : Decidable (SchemaAllows old l) :=
  inferInstanceAs (Decidable (∀ deviceClass ∈ l.spec.deviceClasses,
    ∀ before ∈ Webhook.deviceClassNamed old deviceClass.name, _))

/-! ## Steps -/

/-- The parts of the system that LVMS installs. -/
structure System where
  operator : Operator
  validator : Webhook.Validator
  /-- The vg-manager of a node. -/
  vgManager : String → Reconciler
  nodeName_vgManager : ∀ node, (vgManager node).nodeName = node

/-- What happens next. -/
inductive Action
  /-- A user creates a cluster. -/
  | create (metadata : ObjectMeta) (spec : LVMClusterSpec)
  /-- A user replaces the spec of a cluster. -/
  | update (name : String) (spec : LVMClusterSpec)
  /-- A user deletes a cluster. -/
  | delete (name : String)
  /-- The operator reconciles a cluster. -/
  | operator (name : String)
  /-- The vg-manager of a node reconciles a volume group. -/
  | vgManager (node name : String)
  /-- The surroundings change. -/
  | change

/-- Who makes a call. -/
inductive Actor
  | user
  | operator
  | vgManager (node : String)
  deriving DecidableEq

/-- What is seen of a run: the calls, and the changes of the surroundings. -/
inductive Occurrence
  | call (actor : Actor) (event : Event sig World)
  | change (before : World)

/-- The world in which something occurs. -/
def Occurrence.before : Occurrence → World
  | .call _ event => event.before
  | .change before => before

/-- The kinds of objects that only users of the cluster object and the controllers
write. -/
def managedKinds : List Kind :=
  [.lvmCluster, .volumeGroup, .nodeStatus, .storageClass, .volumeSnapshotClass]

/-- Without users and controllers, the managed objects and the configuration of lvmd
stay. A process that is started again has lost its memory. -/
structure Surroundings (before after : World) : Prop where
  objects : ∀ kind ∈ managedKinds, after.api.objects kind = before.api.objects kind
  lvmdFile : ∀ node, (after.host node).lvmdFile = (before.host node).lvmdFile
  memory : ∀ node, after.memory node = before.memory node ∨ after.memory node = {}

/-- One action of the system. Users and the operator run on no host that matters. -/
inductive System.Step (system : System) (before : World) :
    Action → List Occurrence → World → Prop
  | create {metadata spec events result after}
      (inSchema : InSchema (Webhook.default { metadata, spec }))
      (accepted : (system.validator.validateCreate
        (.ok (before.api.objects .lvmCluster))
        (Webhook.default { metadata, spec })).result = .ok ())
      (ran : Exec (environment "")
        (Client.create .lvmCluster (Webhook.default { metadata, spec })).run before events
        result after) :
      Step system before (.create metadata spec) (events.map (.call .user)) after
  | update {name spec old events result after}
      (found : before.api.find? .lvmCluster name = some old)
      (inSchema : InSchema { old with spec })
      (allowed : SchemaAllows old { old with spec })
      (accepted : Webhook.AcceptsUpdate system.validator old { old with spec })
      (ran : Exec (environment "") (Client.update .lvmCluster { old with spec }).run
        before events result after) :
      Step system before (.update name spec) (events.map (.call .user)) after
  | delete {name events result after}
      (ran : Exec (environment "") (Client.delete .lvmCluster name).run before events
        result after) :
      Step system before (.delete name) (events.map (.call .user)) after
  | operator {name image events result after}
      (ran : Exec (environment "")
        (({ system.operator with imageName := image } : Operator).reconcileRequest
          name).run before events result after) :
      Step system before (.operator name) (events.map (.call .operator)) after
  | vgManager {node name events after}
      (step : ReconcileStep (system.vgManager node) name before events after) :
      Step system before (.vgManager node name) (events.map (.call (.vgManager node)))
        after
  | change {after}
      (surroundings : Surroundings before after) :
      Step system before .change [.change before] after

/-- A run in which every action meets a condition in the world it is taken in. -/
def System.Run
    (system : System)
    (meets : Action → World → Prop) :
    World → List Occurrence → World → Prop :=
  History fun before occurrences after =>
    ∃ action, meets action before ∧ system.Step before action occurrences after

/-- The worlds that a run passes through. -/
abbrev visited (occurrences : List Occurrence) (last : World) : List World :=
  History.trail Occurrence.before occurrences last

theorem visited_calls
    (actor : Actor)
    (events : List (Event sig World))
    (last : World) :
    visited (events.map (.call actor)) last = events.map (·.before) ++ [last] := by
  simp [visited, History.trail, Occurrence.before]

/-- What holds at every call and at the end holds in all worlds. -/
theorem forall_visited_calls
    {actor : Actor}
    {events : List (Event sig World)}
    {last : World}
    {holds : World → Prop}
    (throughout : (∀ event ∈ events, holds event.before) ∧ holds last) :
    ∀ world ∈ visited (events.map (.call actor)) last, holds world := by
  rw [visited_calls]
  simpa [or_imp, forall_and] using throughout

/-- The worlds of an execution start with the first one. -/
theorem Exec.trail_head
    {α : Type}
    {env : Environment sig World Choice}
    {program : Program sig α}
    {world last : World}
    {events : List (Event sig World)}
    {value : α}
    (ran : Exec env program world events value last) :
    (events.map (·.before) ++ [last]).head? = some world := by
  cases ran with
  | done => rfl
  | call => rfl

/-- The worlds of a step start with the one it is taken in. -/
theorem System.Step.visited_head
    {system : System}
    {before after : World}
    {action : Action}
    {occurrences : List Occurrence}
    (step : system.Step before action occurrences after) :
    (visited occurrences after).head? = some before := by
  cases step with
  | create _ _ ran | update _ _ _ _ ran | delete ran | operator ran =>
      rw [visited_calls]
      exact Exec.trail_head ran
  | vgManager step =>
      obtain ⟨_, ran⟩ := step
      rw [visited_calls]
      exact Exec.trail_head ran
  | change => rfl

/-! ## Specs that are declared -/

/-- The spec of the cluster that an action asks to store. -/
def Action.declares : Action → Option LVMClusterSpec
  | .create metadata spec => some (Webhook.default { metadata, spec }).spec
  | .update _ spec => some spec
  | .delete _ | .operator _ | .vgManager _ _ | .change => none

/-- The spec passes the schema and the webhook, next to the clusters that are there. -/
structure Admitted
    (validator : Webhook.Validator)
    (world : World)
    (l : LVMCluster) : Prop where
  inSchema : InSchema l
  wellFormed : Webhook.WellFormed validator l
  allowed : ∀ old ∈ world.api.objects .lvmCluster, SchemaAllows old l
  compatible : ∀ old ∈ world.api.objects .lvmCluster, Webhook.Compatible old l

/-- Only the cluster object changes, and to the new spec. -/
structure Declaration (before after : World) (spec : LVMClusterSpec) : Prop where
  host : after.host = before.host
  memory : after.memory = before.memory
  objects : ∀ kind, kind ≠ .lvmCluster → after.api.objects kind = before.api.objects kind
  clusters : ∀ cluster ∈ after.api.objects .lvmCluster,
    cluster ∈ before.api.objects .lvmCluster ∨ cluster.spec = spec
  single : (after.api.objects .lvmCluster).length ≤ 1

theorem Declaration.refl
    {world : World}
    {spec : LVMClusterSpec}
    (single : (world.api.objects .lvmCluster).length ≤ 1) :
    Declaration world world spec :=
  ⟨rfl, rfl, fun _ _ => rfl, fun _ member => .inl member, single⟩

/-- An action that declares a spec is one call, and the spec was admitted. -/
theorem System.Step.declaration
    {system : System}
    {before after : World}
    {action : Action}
    {occurrences : List Occurrence}
    {spec : LVMClusterSpec}
    (step : system.Step before action occurrences after)
    (isSpec : action.declares = some spec)
    (single : (before.api.objects .lvmCluster).length ≤ 1) :
    visited occurrences after = [before, after] ∧
      (∃ l, l.spec = spec ∧ Admitted system.validator before l) ∧
      Declaration before after spec := by
  have starts := step.visited_head
  cases step with
  | create inSchema accepted ran =>
      obtain rfl := Option.some.inj isSpec
      obtain ⟨⟨-, none⟩, wellFormed, -⟩ := Webhook.validateCreate_eq_ok_iff.mp accepted
      have none : before.api.objects .lvmCluster = [] := Except.ok.inj none
      obtain ⟨write, rfl, -, -, outcome⟩ := Client.create_cases ran
      obtain rfl : write.before = before := Option.some.inj starts
      refine ⟨rfl, ⟨_, rfl, inSchema, wellFormed, by simp [none], by simp [none]⟩, ?_⟩
      rcases outcome with ⟨_, -, rfl⟩ | ⟨uid, -, -, rfl⟩
      · exact .refl single
      · refine ⟨rfl, rfl, fun kind other => ApiServer.set_objects_other _ _ other, ?_, ?_⟩
        · intro cluster member
          rw [ApiServer.set_objects_self, none] at member
          obtain rfl := List.mem_singleton.mp member
          exact .inr rfl
        · simp [none]
  | @update name _ old _ _ _ found inSchema allowed accepted ran =>
      obtain rfl := Option.some.inj isSpec
      obtain ⟨wellFormed, compatible⟩ := Webhook.acceptsUpdate_iff.mp accepted
      have wasThere : old ∈ before.api.objects .lvmCluster :=
        List.mem_of_find?_eq_some found
      obtain ⟨write, rfl, -, -, outcome⟩ := Client.update_cases ran
      obtain rfl : write.before = before := Option.some.inj starts
      refine ⟨rfl, ⟨_, rfl, inSchema, wellFormed, ?_, ?_⟩, ?_⟩
      · intro other isOther
        rw [eq_of_length_le_one single wasThere isOther]
        exact allowed
      · intro other isOther
        rw [eq_of_length_le_one single wasThere isOther]
        exact compatible
      · rcases outcome with ⟨_, -, rfl⟩ | ⟨_, -, -, -, rfl⟩
        · exact .refl single
        · refine ⟨rfl, rfl, fun kind other => ApiServer.set_objects_other _ _ other, ?_,
            (ApiServer.length_alter_le ..).trans single⟩
          intro cluster member
          rcases ApiServer.mem_alter member with kept | ⟨_, -, -, becomes⟩
          · exact .inl kept
          · rw [ApiServer.eq_of_stored becomes]
            exact .inr rfl
  | delete | operator | vgManager | change => cases isSpec

/-! ## Rules for volume groups -/

/-- The other actions keep rules for volume groups, in every world they pass through. -/
theorem System.Step.fitting
    {system : System}
    {fits : String → LVMVolumeGroupSpec → Prop}
    {declared : LVMClusterSpec → Prop}
    {before after : World}
    {action : Action}
    {occurrences : List Occurrence}
    (step : system.Step before action occurrences after)
    (declaresNone : action.declares = none)
    (classesFit : ∀ spec, declared spec → system.operator.ClassesFit fits spec)
    (fitting : Fitting fits declared before) :
    ∀ world ∈ visited occurrences after, Fitting fits declared world := by
  cases step with
  | create | update => cases declaresNone
  | delete ran =>
      exact forall_visited_calls (fitting.of_obeys
        (obeys_of_within (fun _ => writing_allowed) (Client.delete_uses ..) (by decide)) ran)
  | operator ran =>
      exact forall_visited_calls (Operator.reconcileRequest_fitting ran classesFit fitting)
  | vgManager step => exact forall_visited_calls (step.fitting fitting)
  | change surroundings =>
      have volumeGroups := surroundings.objects .volumeGroup (by decide)
      have clusters := surroundings.objects .lvmCluster (by decide)
      have final : Fitting fits declared after := by
        refine ⟨?_, ?_, ?_, ?_⟩
        · rw [volumeGroups]
          exact fitting.volumeGroups
        · rw [clusters]
          exact fitting.clusters
        · rw [ApiServer.Unique, volumeGroups]
          exact fitting.unique
        · rw [clusters]
          exact fitting.single
      intro world member
      rcases List.mem_pair.mp member with rfl | rfl
      · exact fitting
      · exact final

/-! ## Runs that are computed -/

namespace System

/-- An action under the choices of a strategy; the surroundings stay as they are. -/
def perform
    (system : System)
    (pick : World → Request → Choice)
    (world : World) : Action → List Occurrence × World
  | .create metadata spec =>
      let (events, _, after) := Program.run (environment "") pick
        (Client.create .lvmCluster (Webhook.default { metadata, spec })).run world
      (events.map (.call .user), after)
  | .update name spec =>
      match world.api.find? .lvmCluster name with
      | none => ([], world)
      | some old =>
          let (events, _, after) := Program.run (environment "") pick
            (Client.update .lvmCluster { old with spec }).run world
          (events.map (.call .user), after)
  | .delete name =>
      let (events, _, after) := Program.run (environment "") pick
        (Client.delete .lvmCluster name).run world
      (events.map (.call .user), after)
  | .operator name =>
      let (events, _, after) := Program.run (environment "") pick
        (system.operator.reconcileRequest name).run world
      (events.map (.call .operator), after)
  | .vgManager node name =>
      let (events, _, after) := (system.vgManager node).runWith name pick world
      (events.map (.call (.vgManager node)), after)
  | .change => ([.change world], world)

/-- The schema and the webhook let the action pass. -/
def Admits (system : System) (world : World) : Action → Prop
  | .create metadata spec =>
      InSchema (Webhook.default { metadata, spec }) ∧
        (system.validator.validateCreate (.ok (world.api.objects .lvmCluster))
          (Webhook.default { metadata, spec })).result = .ok ()
  | .update name spec =>
      ∃ old ∈ world.api.find? .lvmCluster name, InSchema { old with spec } ∧
        SchemaAllows old { old with spec } ∧
        Webhook.AcceptsUpdate system.validator old { old with spec }
  | .delete _ | .operator _ | .vgManager _ _ | .change => True

instance (system : System) (world : World) (action : Action) :
    Decidable (system.Admits world action) :=
  match action with
  | .create _ _ => inferInstanceAs (Decidable (_ ∧ _ = _))
  | .update name _ =>
      inferInstanceAs (Decidable (∃ old ∈ world.api.find? .lvmCluster name, _ ∧ _))
  | .delete _ | .operator _ | .vgManager _ _ | .change => inferInstanceAs (Decidable True)

theorem perform_step
    {system : System}
    {pick : World → Request → Choice}
    {world : World}
    {action : Action}
    (admits : system.Admits world action) :
    system.Step world action (system.perform pick world action).1
      (system.perform pick world action).2 := by
  cases action with
  | create metadata spec => exact .create admits.1 admits.2 (Program.run_exec ..)
  | update name spec =>
      obtain ⟨old, found, inSchema, allowed, accepted⟩ := admits
      simp only [perform, Option.mem_def.mp found]
      exact .update found inSchema allowed accepted (Program.run_exec ..)
  | delete name => exact .delete (Program.run_exec ..)
  | operator name => exact .operator (Program.run_exec ..)
  | vgManager node name => exact .vgManager (Reconciler.runWith_step ..)
  | change => exact .change ⟨fun _ _ => rfl, fun _ => rfl, fun _ => .inl rfl⟩

/-- Some actions, one after the other. -/
def performAll
    (system : System)
    (pick : World → Request → Choice)
    (world : World) : List Action → List Occurrence × World
  | [] => ([], world)
  | action :: rest =>
      let (occurrences, after) := system.perform pick world action
      let (later, last) := performAll system pick after rest
      (occurrences ++ later, last)

/-- The actions are admitted and meet a condition, each in the world it is taken in. -/
def AdmitsAll
    (system : System)
    (pick : World → Request → Choice)
    (meets : Action → World → Prop)
    (world : World) : List Action → Prop
  | [] => True
  | action :: rest =>
      (meets action world ∧ system.Admits world action) ∧
        AdmitsAll system pick meets (system.perform pick world action).2 rest

instance decidableAdmitsAll
    (system : System)
    (pick : World → Request → Choice)
    (meets : Action → World → Prop)
    [∀ action world, Decidable (meets action world)]
    (world : World)
    (actions : List Action) :
    Decidable (system.AdmitsAll pick meets world actions) :=
  match actions with
  | [] => inferInstanceAs (Decidable True)
  | action :: rest =>
      have := decidableAdmitsAll system pick meets
        (system.perform pick world action).2 rest
      inferInstanceAs (Decidable ((meets action world ∧ system.Admits world action) ∧ _))

theorem performAll_run
    {system : System}
    {pick : World → Request → Choice}
    {meets : Action → World → Prop}
    {world : World}
    {actions : List Action}
    (admits : system.AdmitsAll pick meets world actions) :
    system.Run meets world (system.performAll pick world actions).1
      (system.performAll pick world actions).2 := by
  induction actions generalizing world with
  | nil => exact .start world
  | cons action rest inductionHypothesis =>
      obtain ⟨⟨condition, isAdmitted⟩, later⟩ := admits
      exact (History.single ⟨action, condition, perform_step isAdmitted⟩).append
        (inductionHypothesis later)

/-- A system without optional resources. -/
def plain : System where
  operator := plainOperator
  validator := .lenient "storage"
  vgManager := Reconciler.plain
  nodeName_vgManager _ := rfl

end System

/-- A cluster of one node with two empty disks, before LVMS is used. -/
def oneNodeWorld : World where
  api := ⟨fun
    | .node => [{ metadata := { name := "node" } }]
    | _ => []⟩
  host := fun _ => {
    blockDevices := ["/dev/sda", "/dev/sdb"].map fun name =>
      .mk name name "disk" "" "" false "" []
    symlinks := fun path =>
      if path ∈ ["/dev/sda", "/dev/sdb"] then some path else none }
  memory := fun _ => {}

/-- No call fails. -/
def withoutFailures (_ : World) (_ : Request) : Choice :=
  { fresh := "uid", now := 1 }

end Lvms
