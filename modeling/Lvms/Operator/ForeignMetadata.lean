import Lvms.Operator.Rollout

/-!
# Foreign metadata of the daemon set

Users and other controllers also label and annotate the daemon set of the vg-manager
and its pods. An update copies the entries of the template into the four maps of the
existing object. A map with a single entry is emptied before, so that entry is lost
unless the template defines its key.
-/

namespace Lvms

open Interaction

/-! ## Maps -/

/-- The entries of a template are in a map, and the other old entries still are. -/
structure MergedInto (template old new : StringMap) : Prop where
  kept : ∀ key value, old.get? key = some value → template.get? key = none →
    new.get? key = some value
  defined : ∀ key value, template.get? key = some value → new.get? key = some value

/-- The map is not a single entry under a key that the template lacks. -/
def NoLoneEntry (template old : StringMap) : Prop :=
  ∀ key value, old = [(key, value)] → template.has key = true

/-- What is copied into a map hides what was there. -/
theorem get?_copyInto
    {additions : StringMap}
    (distinct : additions.keys.Nodup)
    (entries : StringMap)
    (key : String) :
    (copyInto entries additions).get? key =
      (additions.get? key).or (entries.get? key) := by
  induction additions generalizing entries with
  | nil => simp [copyInto, GoMap.get?]
  | cons entry rest inductionHypothesis =>
      obtain ⟨first, value⟩ := entry
      rw [GoMap.keys, List.map_cons, List.nodup_cons] at distinct
      have copied := inductionHypothesis distinct.2 (entries.set first value)
      change (copyInto (entries.set first value) rest).get? key = _
      rw [copied]
      by_cases same : key = first
      · subst same
        have absent : GoMap.get? rest key = none := by
          rw [GoMap.get?, List.lookup_eq_none_iff]
          intro other member
          rw [bne_iff_ne]
          intro same
          exact distinct.1 (List.mem_map.mpr ⟨other, member, same.symm⟩)
        rw [absent, GoMap.get?_set_self]
        simp [GoMap.get?]
      · have unequal : (key == first) = false := beq_eq_false_iff_ne.mpr same
        rw [GoMap.get?_set_other value entries same]
        simp only [GoMap.get?, List.lookup_cons, unequal]

/-- A map is merged exactly if it was not emptied. -/
theorem mergedInto_iff
    {template old new : StringMap}
    (isNew : new = copyInto (initMapIfNil old) template)
    (distinct : template.keys.Nodup) :
    MergedInto template old new ↔ NoLoneEntry template old := by
  subst isNew
  have defined (key value : String) (isDefined : template.get? key = some value) :
      (copyInto (initMapIfNil old) template).get? key = some value := by
    rw [get?_copyInto distinct, isDefined, Option.some_or]
  constructor
  · rintro merged key value rfl
    by_contra lacks
    have missing : template.get? key = none := by
      simpa [GoMap.has] using lacks
    have kept := merged.kept key value (by simp [GoMap.get?]) missing
    rw [get?_copyInto distinct, missing] at kept
    simp [initMapIfNil, GoMap.get?] at kept
  · intro noLone
    refine ⟨fun key value isOld missing => ?_, defined⟩
    rw [get?_copyInto distinct, missing, Option.none_or]
    rcases old with _ | ⟨⟨other, _⟩, _ | ⟨_, _⟩⟩
    · exact isOld
    · have has := noLone other _ rfl
      simp only [GoMap.get?, List.lookup_cons, List.lookup_nil] at isOld
      split at isOld
      · rename_i same
        rw [← eq_of_beq same, GoMap.has, missing] at has
        cases has
      · cases isOld
    · rw [initMapIfNil, if_pos (by simp)]
      exact isOld

/-! ## The update of the daemon set -/

/-- The four maps of a daemon set are merged with those of its template. -/
structure MetadataMerged (template old new : DaemonSet) : Prop where
  labels : MergedInto template.metadata.labels old.metadata.labels new.metadata.labels
  annotations : MergedInto template.metadata.annotations old.metadata.annotations
    new.metadata.annotations
  templateLabels : MergedInto template.templateLabels old.templateLabels new.templateLabels
  templateAnnotations : MergedInto template.templateAnnotations old.templateAnnotations
    new.templateAnnotations

/-- None of the four maps of a daemon set is emptied. -/
structure NoLoneEntries (template old : DaemonSet) : Prop where
  labels : NoLoneEntry template.metadata.labels old.metadata.labels
  annotations : NoLoneEntry template.metadata.annotations old.metadata.annotations
  templateLabels : NoLoneEntry template.templateLabels old.templateLabels
  templateAnnotations : NoLoneEntry template.templateAnnotations old.templateAnnotations

/-- The maps of a daemon set that has been updated from a template. -/
structure HasCopies (template old new : DaemonSet) : Prop where
  labels : new.metadata.labels =
    copyInto (initMapIfNil old.metadata.labels) template.metadata.labels
  annotations : new.metadata.annotations =
    copyInto (initMapIfNil old.metadata.annotations) template.metadata.annotations
  templateLabels : new.templateLabels =
    copyInto (initMapIfNil old.templateLabels) template.metadata.labels
  templateAnnotations : new.templateAnnotations =
    copyInto (initMapIfNil old.templateAnnotations) template.templateAnnotations

theorem updateDaemonSet_copies
    {cluster : LVMCluster}
    {template ds new : DaemonSet}
    (created : ds.metadata.resourceVersion ≠ 0)
    (updates : updateDaemonSet cluster template ds = .ok new) :
    HasCopies template ds new ∧ new.metadata.finalizers = ds.metadata.finalizers := by
  simp only [updateDaemonSet, if_neg created] at updates
  cases controls : ds.metadata.setControllerReference cluster.metadata with
  | error err =>
      rw [controls] at updates
      cases updates
  | ok metadata =>
      rw [controls] at updates
      obtain rfl := Except.ok.inj updates
      rw [ObjectMeta.setControllerReference_eq controls]
      exact ⟨⟨rfl, rfl, rfl, rfl⟩, rfl⟩

/-- The API server has the daemon set of the vg-manager, and keeps deleted objects for
their finalizers only. -/
structure Existing (server : ApiServer) (ds : DaemonSet) : Prop where
  unique : server.Unique .daemonSet
  collected : server.Collected .daemonSet
  found : server.find? .daemonSet vgManagerUnit = some ds
  created : ds.metadata.resourceVersion ≠ 0

/-- An existing daemon set is stored with the maps that the update computes. -/
theorem stores_copies
    {ns : String}
    {cluster : LVMCluster}
    {template ds : DaemonSet}
    {world after : World}
    {events : List (Event sig World)}
    {answer : Client.OperationResult × Kind.daemonSet.Object}
    (existing : Existing world.api ds)
    (stores : Client.Stores Kind.daemonSet
      { metadata := { name := vgManagerUnit, inNamespace := ns } }
      (updateDaemonSet cluster template) world events (.ok answer) after) :
    ∃ new, after.api.find? .daemonSet vgManagerUnit = some new ∧
      HasCopies template ds new := by
  cases stores with
  | @unchanged look stored asked answered found same =>
      obtain rfl : ds = stored := Option.some.inj (existing.found.symm.trans found)
      exact ⟨ds, found, (updateDaemonSet_copies existing.created same).1⟩
  | @updated look write stored object old asked answered found changed differs replaced =>
      obtain rfl : ds = stored := Option.some.inj (existing.found.symm.trans found)
      obtain ⟨copies, finalizers⟩ := updateDaemonSet_copies existing.created changed
      obtain ⟨-, sameName, -⟩ := updateDaemonSet_existing existing.created changed
      have isNamed : Kind.daemonSet.nameOf object = vgManagerUnit :=
        sameName.trans (ApiServer.nameOf_of_find? found)
      have becomes : ∃ new, ApiServer.stored .daemonSet ds object = some new := by
        cases marked : ds.metadata.deletionTimestamp with
        | none => exact ApiServer.exists_stored_of_unmarked object marked
        | some time =>
            have waits : object.metadata.finalizers ≠ [] := by
              rw [finalizers]
              exact existing.collected ds (List.mem_of_find?_eq_some found)
                (Option.isSome_of_eq_some marked)
            exact @ApiServer.exists_stored_of_finalizers .daemonSet object ds waits
      obtain ⟨new, becomes⟩ := becomes
      rw [isNamed] at replaced
      obtain rfl : ds = old := Option.some.inj (existing.found.symm.trans replaced)
      have finds := existing.unique.find?_update (isNamed.symm ▸ replaced)
      simp only [isNamed, becomes] at finds
      refine ⟨new, by simpa only [isNamed] using finds, ?_⟩
      rw [ApiServer.eq_of_stored becomes]
      exact ⟨copies.labels, copies.annotations, copies.templateLabels,
        copies.templateAnnotations⟩
  | created asked answered missing =>
      cases existing.found.symm.trans missing

namespace Operator

variable {r : Operator} {cluster : LVMCluster} {node : String} {world after : World}
variable {events : List (Event sig World)} {result : Except GoError Unit}

/-- The maps of an updated daemon set are merged exactly if none of them was
emptied. -/
theorem metadataMerged_iff
    {metadata : ObjectMeta}
    {old new : DaemonSet}
    (controls : (r.templateVGManagerDaemonset cluster).metadata.setControllerReference
      cluster.metadata = .ok metadata)
    (copies : HasCopies { r.templateVGManagerDaemonset cluster with metadata } old new) :
    MetadataMerged (r.templateVGManagerDaemonset cluster) old new ↔
      NoLoneEntries (r.templateVGManagerDaemonset cluster) old := by
  rw [ObjectMeta.setControllerReference_eq controls] at copies
  have distinct : vgManagerLabels.keys.Nodup := by decide
  have labels := mergedInto_iff copies.labels distinct
  have annotations := mergedInto_iff copies.annotations List.nodup_nil
  have templateLabels := mergedInto_iff copies.templateLabels distinct
  have templateAnnotations := mergedInto_iff copies.templateAnnotations
    (List.nodup_singleton _)
  constructor
  · intro merged
    exact ⟨labels.mp merged.labels, annotations.mp merged.annotations,
      templateLabels.mp merged.templateLabels,
      templateAnnotations.mp merged.templateAnnotations⟩
  · intro noLone
    exact ⟨labels.mpr noLone.labels, annotations.mpr noLone.annotations,
      templateLabels.mpr noLone.templateLabels,
      templateAnnotations.mpr noLone.templateAnnotations⟩

/-- An update of the daemon set keeps foreign labels and annotations exactly if none of
the four maps is a single entry that the template does not define. -/
theorem foreignMetadata_kept_iff
    {ds : DaemonSet}
    (existing : Existing world.api ds)
    (ran : Exec (environment node) (r.vgManager.ensureCreated cluster).run world events
      result after)
    (applied : Applied result) :
    ∃ new, after.api.find? .daemonSet vgManagerUnit = some new ∧
      (MetadataMerged (r.templateVGManagerDaemonset cluster) ds new ↔
        NoLoneEntries (r.templateVGManagerDaemonset cluster) ds) := by
  rcases ensureCreated_cases ran with
    ⟨failed, -⟩ | ⟨metadata, answer, during, controls, stores⟩
  · exact absurd applied failed
  · obtain ⟨new, found, copies⟩ := stores_copies existing stores
    exact ⟨new, found, metadataMerged_iff controls copies⟩

/-- The daemon set of a cluster, with an annotation that the API server adds. -/
def annotatedDaemonSet : DaemonSet :=
  let template := plainOperator.templateVGManagerDaemonset zonedCluster
  { template with metadata := { template.metadata with
      resourceVersion := 1
      annotations := [("deprecated.daemonset.template.generation", "1")] } }

/-- A world with that daemon set. -/
def annotatedWorld : World :=
  { emptyWorld with api := emptyWorld.api.set .daemonSet [annotatedDaemonSet] }

theorem annotatedWorld_existing : Existing annotatedWorld.api annotatedDaemonSet where
  unique := List.nodup_singleton _
  collected := by
    intro object member marked
    obtain rfl := List.mem_singleton.mp member
    cases marked
  found := by decide
  created := Nat.one_ne_zero

theorem foreignMetadata_kept_iff_annotated :
    ∃ new, (ensuredRun zonedCluster annotatedWorld).2.2.api.find? .daemonSet
        vgManagerUnit = some new ∧
      (MetadataMerged (plainOperator.templateVGManagerDaemonset zonedCluster)
          annotatedDaemonSet new ↔
        NoLoneEntries (plainOperator.templateVGManagerDaemonset zonedCluster)
          annotatedDaemonSet) := by
  refine foreignMetadata_kept_iff annotatedWorld_existing
    (Program.run_exec (environment "") (fun _ _ => {}) _ _) ?_
  have succeeds : (ensuredRun zonedCluster annotatedWorld).2.1 = .ok () := by
    decide +kernel
  intro err isError
  cases succeeds.symm.trans isError

/-- The only annotation of the daemon set is gone after an update. -/
theorem lone_annotation_lost :
    annotatedDaemonSet.metadata.annotations.get? "deprecated.daemonset.template.generation" =
        some "1" ∧
      (plainOperator.templateVGManagerDaemonset zonedCluster).metadata.annotations.get?
        "deprecated.daemonset.template.generation" = none ∧
      (ensuredRun zonedCluster annotatedWorld).2.1 = .ok () ∧
      ((ensuredRun zonedCluster annotatedWorld).2.2.api.find? .daemonSet vgManagerUnit).map
        (·.metadata.annotations) = some [] := by
  decide +kernel

end Operator

end Lvms
