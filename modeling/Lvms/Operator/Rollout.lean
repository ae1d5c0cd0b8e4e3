import Lvms.Operator.Steps
import Lvms.Outcomes

/-!
# How changes of the cluster reach the pods of the vg-manager

A new daemon set is a copy of its template. Of an existing one the operator assigns
the fields of the pod template one by one, the affinity only when the template has
one. This module follows the daemon set through every sequence of such updates.
-/

namespace Lvms

open Interaction

/-! ## Pods of a template -/

/-- The pod templates of two daemon sets agree in what the operator configures. -/
structure SamePods (ds template : DaemonSet) : Prop where
  affinity : ds.affinity = template.affinity
  tolerations : ds.tolerations = template.tolerations
  containers : ds.containers = template.containers
  volumes : ds.volumes = template.volumes
  serviceAccountName : ds.serviceAccountName = template.serviceAccountName
  priorityClassName : ds.priorityClassName = template.priorityClassName

/-- A daemon set has the pods of a template, with an older affinity where the template
has none. -/
def RolledOut (template : DaemonSet) (old : Option DaemonSet) (ds : DaemonSet) : Prop :=
  SamePods ds { template with
    affinity := template.affinity <|> old.bind DaemonSet.affinity }

/-- What is rolled out is the template, unless an older affinity shows through. -/
theorem RolledOut.samePods_iff
    {template ds : DaemonSet}
    {old : Option DaemonSet}
    (rolledOut : RolledOut template old ds) :
    SamePods ds template ↔
      ∀ older, old = some older → template.affinity.isSome ∨ older.affinity = none := by
  have affinity := rolledOut.affinity
  constructor
  · intro same older isOlder
    rw [same.affinity, isOlder] at affinity
    cases chosen : template.affinity with
    | some selector => exact .inl rfl
    | none => exact .inr (by simpa [chosen] using affinity.symm)
  · intro fresh
    refine { rolledOut with affinity := affinity.trans ?_ }
    cases chosen : template.affinity with
    | some selector => rfl
    | none =>
        cases old with
        | none => rfl
        | some older => simpa [chosen] using fresh older rfl

/-! ## One application -/

/-- The API server has stored the daemon set of the vg-manager, if there is one, and
nobody has deleted it. -/
structure Deployed (server : ApiServer) : Prop where
  unique : server.Unique .daemonSet
  created : ∀ ds, server.find? .daemonSet vgManagerUnit = some ds →
    ds.metadata.resourceVersion ≠ 0
  unmarked : ∀ ds, server.find? .daemonSet vgManagerUnit = some ds →
    ds.metadata.deletionTimestamp = none

/-- `EnsureCreated` has come as far as waiting for the pods. -/
def Applied (result : Except GoError Unit) : Prop :=
  ∀ err, result = .error err →
    ∃ cause, err = GoError.wrapped "DaemonSet is not considered ready" cause

/-- Errors of the calls are not about waiting for the pods. -/
theorem Applied.not_mapError
    {α : Type}
    {err : GoError}
    {wrap : GoError → GoError}
    {inner : Except GoError α}
    (applied : Applied (.error err))
    (isError : .error err = inner.mapError wrap)
    (differs : ∀ failure cause,
      wrap failure ≠ GoError.wrapped "DaemonSet is not considered ready" cause) :
    False := by
  obtain ⟨cause, rfl⟩ := applied err rfl
  cases inner with
  | ok value => cases isError
  | error failure => exact differs failure cause (Except.error.inj isError).symm

/-- What the update of an existing daemon set computes. -/
theorem updateDaemonSet_existing
    {cluster : LVMCluster}
    {template ds new : DaemonSet}
    (created : ds.metadata.resourceVersion ≠ 0)
    (updates : updateDaemonSet cluster template ds = .ok new) :
    RolledOut template (some ds) new ∧ new.metadata.name = ds.metadata.name ∧
      new.metadata.deletionTimestamp = ds.metadata.deletionTimestamp := by
  simp only [updateDaemonSet, if_neg created] at updates
  cases controls : ds.metadata.setControllerReference cluster.metadata with
  | error err => rw [controls] at updates; cases updates
  | ok metadata =>
      rw [controls] at updates
      obtain rfl := Except.ok.inj updates
      rw [ObjectMeta.setControllerReference_eq controls]
      exact ⟨⟨rfl, rfl, rfl, rfl, rfl, rfl⟩, rfl, rfl⟩

/-- How the daemon set is after `CreateOrUpdate`. -/
theorem stores_daemonSet
    {ns : String}
    {cluster : LVMCluster}
    {template : DaemonSet}
    {world after : World}
    {events : List (Event sig World)}
    {result : Except GoError (Client.OperationResult × Kind.daemonSet.Object)}
    (deployed : Deployed world.api)
    (named : template.metadata.name = vgManagerUnit)
    (stores : Client.Stores Kind.daemonSet
      { metadata := { name := vgManagerUnit, inNamespace := ns } }
      (updateDaemonSet cluster template) world events result after) :
    Deployed after.api ∧ ∀ answer, result = .ok answer →
      ∃ ds, after.api.find? .daemonSet vgManagerUnit = some ds ∧
        RolledOut template (world.api.find? .daemonSet vgManagerUnit) ds := by
  cases stores with
  | unread | rejected | unwritten => exact ⟨deployed, fun _ isOk => by cases isOk⟩
  | @unchanged look existing asked answered found same =>
      have found : world.api.find? .daemonSet vgManagerUnit = some existing := found
      refine ⟨deployed, fun _ _ => ⟨existing, found, ?_⟩⟩
      rw [found]
      exact (updateDaemonSet_existing (deployed.created _ found) same).1
  | @updated look write existing object old asked answered found changed differs replaced =>
      have found : world.api.find? .daemonSet vgManagerUnit = some existing := found
      obtain ⟨rolledOut, sameName, -⟩ :=
        updateDaemonSet_existing (deployed.created _ found) changed
      have isNamed : Kind.daemonSet.nameOf object = vgManagerUnit :=
        sameName.trans (ApiServer.nameOf_of_find? found)
      rw [isNamed] at replaced
      obtain rfl : existing = old := Option.some.inj (found.symm.trans replaced)
      have unmarked := deployed.unmarked _ found
      obtain ⟨new, becomes⟩ := ApiServer.exists_stored_of_unmarked object unmarked
      have finds := deployed.unique.find?_update (isNamed.symm ▸ found)
      have unique : (world.api.alter .daemonSet (Kind.daemonSet.nameOf object) fun old =>
          ApiServer.stored .daemonSet old object).Unique .daemonSet :=
        deployed.unique.alter fun _ _ _ => ApiServer.nameOf_of_stored
      simp only [becomes, isNamed] at finds unique ⊢
      have isNew := ApiServer.eq_of_stored becomes
      refine ⟨⟨unique, ?_, ?_⟩, fun _ _ => ⟨new, finds, ?_⟩⟩
      · intro ds isDs
        obtain rfl : new = ds := Option.some.inj (finds.symm.trans isDs)
        rw [isNew]
        exact Nat.succ_ne_zero _
      · intro ds isDs
        obtain rfl : new = ds := Option.some.inj (finds.symm.trans isDs)
        rw [isNew]
        exact unmarked
      · rw [found, isNew]
        exact ⟨rolledOut.affinity, rolledOut.tolerations, rolledOut.containers,
          rolledOut.volumes, rolledOut.serviceAccountName, rolledOut.priorityClassName⟩
  | @created look write object uid asked answered missing changed =>
      have missing : world.api.find? .daemonSet vgManagerUnit = none := missing
      obtain rfl : template = object := Except.ok.inj changed
      have isNamed : Kind.daemonSet.nameOf (ApiServer.createdAs .daemonSet uid template) =
        vgManagerUnit := named
      have finds := ApiServer.find?_set_append missing isNamed
      refine ⟨⟨deployed.unique.append (isNamed ▸ missing), ?_, ?_⟩,
        fun _ _ => ⟨_, finds, ?_⟩⟩
      · intro ds isDs
        obtain rfl := Option.some.inj (finds.symm.trans isDs)
        exact Nat.one_ne_zero
      · intro ds isDs
        obtain rfl := Option.some.inj (finds.symm.trans isDs)
        rfl
      · rw [missing]
        exact ⟨by simp [ApiServer.createdAs, Kind.withMetadata], rfl, rfl, rfl, rfl, rfl⟩

namespace Operator

variable {r : Operator} {cluster : LVMCluster} {node : String} {world after : World}
variable {events : List (Event sig World)} {result : Except GoError Unit}

/-- `EnsureCreated` fails without an effect, or stores what the template makes of the
daemon set and waits for its pods. -/
theorem ensureCreated_cases
    (ran : Exec (environment node) (r.vgManager.ensureCreated cluster).run world events
      result after) :
    (¬Applied result ∧ after = world) ∨
    ∃ metadata answer during,
      (r.templateVGManagerDaemonset cluster).metadata.setControllerReference
        cluster.metadata = .ok metadata ∧
      Client.Stores Kind.daemonSet
        { metadata := { name := vgManagerUnit, inNamespace := r.ns } }
        (updateDaemonSet cluster { r.templateVGManagerDaemonset cluster with metadata })
        world during (.ok answer) after := by
  rcases Exec.run_bind_iff.mp ran with
    ⟨err, rfl, refused⟩ | ⟨metadata, _, _, _, controls, applies, rfl⟩
  · obtain ⟨inner, isError, computed⟩ := Exec.run_mapError_iff.mp refused
    obtain ⟨rfl, rfl, rfl⟩ := Exec.pure_iff.mp computed
    exact .inl ⟨fun applied => applied.not_mapError isError nofun, rfl⟩
  · obtain ⟨inner, isOk, computed⟩ := Exec.run_mapError_iff.mp controls
    obtain ⟨rfl, rfl, rfl⟩ := Exec.pure_iff.mp computed
    rw [eq_comm, Except.mapError_eq_ok_iff] at isOk
    rcases Exec.run_bind_iff.mp applies with
      ⟨err, rfl, failed⟩ | ⟨answer, during, _, _, stores, verifies, rfl⟩
    · obtain ⟨inner, isError, stores⟩ := Exec.run_mapError_iff.mp failed
      refine .inl ⟨fun applied => applied.not_mapError isError ?_, ?_⟩
      · simp [failedToReconcile, GoError.wrapped, vgManagerUnit]
      · cases Client.createOrUpdateObject_stores stores with
        | unread | rejected | unwritten => rfl
        | unchanged | updated | created => cases isError
    · rw [Exec.run_mapError_ok_iff] at stores
      obtain ⟨_, -, computed⟩ := Exec.run_mapError_iff.mp verifies
      obtain ⟨-, -, rfl⟩ := Exec.pure_iff.mp computed
      exact .inr ⟨metadata, answer, during, isOk, Client.createOrUpdateObject_stores stores⟩

/-- `EnsureCreated` keeps the daemon set deployed, and rolls the template out unless a
call fails. -/
theorem ensureCreated_rolledOut
    (deployed : Deployed world.api)
    (ran : Exec (environment node) (r.vgManager.ensureCreated cluster).run world events
      result after) :
    Deployed after.api ∧ (Applied result →
      ∃ ds, after.api.find? .daemonSet vgManagerUnit = some ds ∧
        RolledOut (r.templateVGManagerDaemonset cluster)
          (world.api.find? .daemonSet vgManagerUnit) ds) := by
  rcases ensureCreated_cases ran with
    ⟨failed, rfl⟩ | ⟨metadata, answer, during, controls, stores⟩
  · exact ⟨deployed, fun applied => absurd applied failed⟩
  · have named : metadata.name = vgManagerUnit :=
      ObjectMeta.setControllerReference_name controls
    obtain ⟨stays, rolledOut⟩ := stores_daemonSet deployed named stores
    obtain ⟨ds, found, isRolledOut⟩ := rolledOut answer rfl
    exact ⟨stays, fun _ => ⟨ds, found, { isRolledOut with }⟩⟩

/-- The daemon set comes from calls of `EnsureCreated` for arbitrary clusters, with
arbitrary failures; in between everything else may change. -/
inductive Produced : World → Prop
  | start
      {world : World}
      (unique : world.api.Unique .daemonSet)
      (missing : world.api.find? .daemonSet vgManagerUnit = none) :
      Produced world
  | ensured
      {world after : World}
      {node : String}
      {events : List (Event sig World)}
      {result : Except GoError Unit}
      (earlier : Produced world)
      (r : Operator)
      (cluster : LVMCluster)
      (ran : Exec (environment node) (r.vgManager.ensureCreated cluster).run world events
        result after) :
      Produced after
  | elsewhere
      {world after : World}
      (earlier : Produced world)
      (same : after.api.objects .daemonSet = world.api.objects .daemonSet) :
      Produced after

theorem Produced.deployed (produced : Produced world) : Deployed world.api := by
  induction produced with
  | start unique missing =>
      exact ⟨unique, by simp [missing], by simp [missing]⟩
  | ensured _ r cluster ran inductionHypothesis =>
      exact (ensureCreated_rolledOut inductionHypothesis ran).1
  | @elsewhere world after _ same inductionHypothesis =>
      have finds : after.api.find? .daemonSet = world.api.find? .daemonSet := by
        funext name
        rw [ApiServer.find?, ApiServer.find?, same]
      obtain ⟨unique, created, unmarked⟩ := inductionHypothesis
      rw [ApiServer.Unique, ← same] at unique
      rw [← finds] at created unmarked
      exact ⟨unique, created, unmarked⟩

/-- After every sequence of calls, applying the template of a cluster gives its pods
exactly if the template has an affinity or the daemon set had none. -/
theorem templateReached_iff
    (produced : Produced world)
    (ran : Exec (environment node) (r.vgManager.ensureCreated cluster).run world events
      result after)
    (applied : Applied result) :
    ∃ ds, after.api.find? .daemonSet vgManagerUnit = some ds ∧
      (SamePods ds (r.templateVGManagerDaemonset cluster) ↔
        ∀ old, world.api.find? .daemonSet vgManagerUnit = some old →
          (r.templateVGManagerDaemonset cluster).affinity.isSome ∨
            old.affinity = none) := by
  obtain ⟨ds, found, rolledOut⟩ :=
    (ensureCreated_rolledOut produced.deployed ran).2 applied
  exact ⟨ds, found, rolledOut.samePods_iff⟩

/-- A cluster with one device class on the nodes of a zone. -/
def zonedCluster : LVMCluster where
  metadata := { name := "lvmcluster", uid := "1" }
  spec := { deviceClasses := [{
    name := "vg1"
    default := true
    deviceSelector := some { paths := ["/dev/sda"] }
    nodeSelector := some ⟨[{ matchExpressions :=
      [{ key := "zone", operator := .inValues, values := ["a"] }] }]⟩ }] }

/-- The cluster with a second device class, for all nodes. -/
def widenedCluster : LVMCluster where
  metadata := zonedCluster.metadata
  spec := { deviceClasses := zonedCluster.spec.deviceClasses ++
    [{ name := "vg2", deviceSelector := some { paths := ["/dev/sdb"] } }] }

/-- A world without objects. -/
def emptyWorld : World :=
  ⟨⟨fun _ => []⟩, fun _ => {}, fun _ => {}⟩

/-- `EnsureCreated` for a cluster without failures. -/
def ensuredRun (cluster : LVMCluster) (world : World) :
    List (Event sig World) × Except GoError Unit × World :=
  (plainOperator.vgManager.ensureCreated cluster).run.run (environment "")
    (fun _ _ => {}) world

/-- The daemon set has been created for the zone. -/
def zonedWorld : World :=
  (ensuredRun zonedCluster emptyWorld).2.2

theorem zonedWorld_produced : Produced zonedWorld := by
  have start : Produced emptyWorld := .start List.nodup_nil rfl
  exact start.ensured plainOperator zonedCluster
    (Program.run_exec (environment "") (fun _ _ => {}) _ _)

theorem templateReached_iff_zoned :
    ∃ ds, (ensuredRun zonedCluster zonedWorld).2.2.api.find? .daemonSet vgManagerUnit =
        some ds ∧
      (SamePods ds (plainOperator.templateVGManagerDaemonset zonedCluster) ↔
        ∀ old, zonedWorld.api.find? .daemonSet vgManagerUnit = some old →
          (plainOperator.templateVGManagerDaemonset zonedCluster).affinity.isSome ∨
            old.affinity = none) := by
  refine templateReached_iff zonedWorld_produced
    (Program.run_exec (environment "") (fun _ _ => {}) _ _) ?_
  have succeeds : (ensuredRun zonedCluster zonedWorld).2.1 = .ok () := by
    decide +kernel
  intro err isError
  cases succeeds.symm.trans isError

/-- The pods stay in the zone although the template admits all nodes. -/
theorem widenedCluster_stays_zoned :
    (ensuredRun widenedCluster zonedWorld).2.1 = .ok () ∧
      (plainOperator.templateVGManagerDaemonset widenedCluster).affinity = none ∧
      ((ensuredRun widenedCluster zonedWorld).2.2.api.find? .daemonSet
        vgManagerUnit).bind DaemonSet.affinity =
        some ⟨[{ matchExpressions :=
          [{ key := "zone", operator := .inValues, values := ["a"] }] }]⟩ := by
  decide +kernel

end Operator

end Lvms
