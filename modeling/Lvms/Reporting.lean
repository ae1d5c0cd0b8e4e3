import Lvms.Operator.Readiness
import Lvms.VgManager.Evidence
import Lvms.VgManager.Steps
import Lvms.Writing

/-!
# Reporting states

The vg-managers report the states of their volume groups in the node statuses, and the operator
sums them up in the status of the cluster. Both write back objects that they have read. What is
reported about one volume group is therefore only written by the vg-manager of its node when it
reconciles this volume group; everybody else leaves it as it was.
-/

namespace Lvms

open Interaction Interaction.Program

/-! ## The protocol -/

/-- All that a node status lists is known of the node, and each volume group is listed
once. -/
structure EntriesKnown
    (known : String → VGStatus → Prop)
    (status : LVMVolumeGroupNodeStatus) : Prop where
  unique : (status.lvmVGStatus.map (·.name)).Nodup
  isKnown : ∀ entry ∈ status.lvmVGStatus, known status.metadata.name entry

/-- A status without entries claims nothing. -/
theorem EntriesKnown.of_empty (known : String → VGStatus → Prop) (metadata : ObjectMeta) :
    EntriesKnown known { metadata } :=
  ⟨.nil, by simp⟩

/-- Only known states are written to node statuses, and only conditions of the operator to
clusters. What is read is the same. -/
def reporting (known : String → VGStatus → Prop) : Protocol sig where
  allowed
    | .api (.create .nodeStatus object) | .api (.update .nodeStatus object) =>
        EntriesKnown known object
    | .api (.create .lvmCluster object) | .api (.update .lvmCluster object)
    | .api (.updateStatus object) => OperatorOwned object.status.conditions
    | _ => True
  expected
    | .api (.get .nodeStatus name), response =>
        OnOk (fun object : LVMVolumeGroupNodeStatus =>
          object.metadata.name = name ∧ EntriesKnown known object) response
    | .api (.list .nodeStatus), response =>
        OnOk (fun objects : List LVMVolumeGroupNodeStatus =>
          ∀ object ∈ objects, EntriesKnown known object) response
    | .api (.get .lvmCluster _), response | .api (.update .lvmCluster _), response =>
        OnOk (fun object : LVMCluster => OperatorOwned object.status.conditions) response
    | _, _ => True

/-- All stored states are known, and the stored clusters have the operator's conditions. -/
structure StatusesKnown (known : String → VGStatus → Prop) (world : World) : Prop where
  unique : world.api.Unique .nodeStatus
  statuses : ∀ status ∈ world.api.objects .nodeStatus, EntriesKnown known status
  clusters : ∀ cluster ∈ world.api.objects .lvmCluster,
    OperatorOwned cluster.status.conditions

theorem StatusesKnown.mono
    {known weaker : String → VGStatus → Prop}
    {world : World}
    (reported : StatusesKnown known world)
    (implies : ∀ node entry, known node entry → weaker node entry) :
    StatusesKnown weaker world := by
  refine ⟨reported.unique, fun status member => ?_, reported.clusters⟩
  have listed := reported.statuses status member
  exact ⟨listed.unique, fun entry inStatus => implies _ _ (listed.isKnown entry inStatus)⟩

/-- The calls that write node statuses or clusters. -/
def reportEffects : List Effect :=
  [.create .nodeStatus, .update .nodeStatus, .create .lvmCluster, .update .lvmCluster,
    .updateStatus]

section Protocol

variable {known : String → VGStatus → Prop} {node : String} {world after : World}
variable {request : Request}

/-- Allowed calls keep the entries known. -/
theorem respond_reported
    {choice : Choice}
    (isAllowed : (reporting known).allowed request)
    (reported : StatusesKnown known world) :
    StatusesKnown known (World.respond node choice world request).2 := by
  cases request with
  | api request =>
      refine ⟨reported.unique.respond request, ?_, ?_⟩
      · intro status member
        cases ApiServer.arises member with
        | kept wasThere => exact reported.statuses status wasThere
        | created missing =>
            have given : EntriesKnown known _ := isAllowed
            exact ⟨given.unique, given.isKnown⟩
        | updated wasThere named becomes =>
            have given : EntriesKnown known _ := isAllowed
            rw [ApiServer.eq_of_stored becomes]
            exact ⟨given.unique, given.isKnown⟩
        | marked wasThere named becomes =>
            have same := reported.statuses _ wasThere
            rcases ApiServer.eq_of_deleted becomes with rfl | rfl
            · exact same
            · exact ⟨same.unique, same.isKnown⟩
      · intro cluster member
        cases ApiServer.arises member with
        | kept wasThere => exact reported.clusters cluster wasThere
        | created missing => exact isAllowed
        | updated wasThere named becomes =>
            have same := reported.clusters _ wasThere
            rw [ApiServer.eq_of_stored becomes]
            exact same
        | marked wasThere named becomes =>
            have same := reported.clusters _ wasThere
            rcases ApiServer.eq_of_deleted becomes with rfl | rfl
            · exact same
            · exact same
        | reported wasThere named => exact isAllowed
  | otherManager =>
      simp only [World.respond]
      split <;> exact ⟨reported.unique, reported.statuses, reported.clusters⟩
  | query | command | newResolver | loadResolved | storeResolved | cachedConfig
  | cacheConfig | mapOrder | now | event | raidMetrics | dropRAIDMetrics | turn =>
      exact ⟨reported.unique, reported.statuses, reported.clusters⟩

/-- Only known entries are read. -/
theorem respond_reported_expected
    {choice : Choice}
    (isAllowed : (reporting known).allowed request)
    (reported : StatusesKnown known world) :
    (reporting known).expected request (World.respond node choice world request).1 := by
  unfold reporting
  dsimp only
  split
  · simp only [World.respond, ApiServer.respond, ApiServer.answer]
    split
    · trivial
    · split
      · rename_i found
        exact ⟨ApiServer.nameOf_of_find? found,
          reported.statuses _ (List.mem_of_find?_eq_some found)⟩
      · trivial
  · simp only [World.respond, ApiServer.respond, ApiServer.answer]
    split
    · trivial
    · exact reported.statuses
  · simp only [World.respond, ApiServer.respond, ApiServer.answer]
    split
    · trivial
    · split
      · rename_i found
        exact reported.clusters _ (List.mem_of_find?_eq_some found)
      · trivial
  · simp only [World.respond, ApiServer.respond, ApiServer.answer]
    repeat' split
    · trivial
    · trivial
    · rename_i old found _
      cases becomes : ApiServer.stored .lvmCluster old _ with
      | none => exact isAllowed
      | some updated =>
          have same := reported.clusters _ (List.mem_of_find?_eq_some found)
          obtain rfl := ApiServer.eq_of_stored becomes
          exact same
    · trivial
  · trivial

/-- Programs that report only what is known keep the states known. -/
theorem StatusesKnown.of_obeys
    {α : Type}
    {good : α → Prop}
    {program : Program sig α}
    {events : List (Event sig World)}
    {value : α}
    (reported : StatusesKnown known world)
    (obeys : program.Obeys (reporting known) good)
    (ran : Exec (environment node) program world events value after) :
    (∀ event ∈ events, StatusesKnown known event.before) ∧ StatusesKnown known after := by
  have kept (choice : Choice) (world : World) (request : Request)
      (isAllowed : (reporting known).allowed request)
      (holds : StatusesKnown known world) :
      (reporting known).expected request (World.respond node choice world request).1 ∧
        StatusesKnown known (World.respond node choice world request).2 :=
    ⟨respond_reported_expected isAllowed holds, respond_reported isAllowed holds⟩
  obtain ⟨throughout, final, -⟩ := obeys.sound kept ran reported
  exact ⟨fun event member => (throughout event member).2, final⟩

/-- A call that writes neither node statuses nor clusters is allowed. -/
theorem reporting_allowed
    (untouched : request.effect ∉ reportEffects) :
    (reporting known).allowed request := by
  unfold reporting
  dsimp only
  split <;> simp_all [reportEffects, Request.effect, ApiRequest.effect]

/-- Code that reports only what is known. -/
abbrev Reports {α : Type} (known : String → VGStatus → Prop) (program : Go α) : Prop :=
  program.Obeys (reporting known)

/-- Programs that do not touch the statuses report nothing. -/
theorem reports_of_within
    {α : Type}
    {effects : List Effect}
    {program : Go α}
    (uses : program.run.Uses (Within effects))
    (untouched : ∀ effect ∈ effects, effect ∉ reportEffects) :
    Reports known program :=
  .run_of_uses uses fun _ allowed => reporting_allowed (untouched _ allowed)

/-- A change of a node status that keeps its states known can be stored. -/
theorem createOrUpdate_reports
    {metadata : ObjectMeta}
    {change : LVMVolumeGroupNodeStatus → Except GoError LVMVolumeGroupNodeStatus}
    {wrap : GoError → GoError}
    (keeps : ∀ existing object, existing.metadata.name = metadata.name →
      EntriesKnown known existing → change existing = .ok object →
      EntriesKnown known object) :
    Reports known
      (Fallible.mapError wrap (Client.createOrUpdate .nodeStatus { metadata } change)) := by
  refine .run_mapError (Client.createOrUpdate_obeys trivial ?_ ?_)
  · rintro existing object ⟨isNode, isKnown⟩ changed
    exact keeps existing object isNode isKnown changed
  · intro object changed
    exact keeps { metadata } object rfl (.of_empty known _) changed

end Protocol

/-! ## The vg-manager -/

namespace Reconciler

variable {r : Reconciler} {vg : LVMVolumeGroup} {vgs : List VolumeGroup}
variable {devices : FilteredBlockDevices} {known : String → VGStatus → Prop}

/-- What is reported about one volume group on a node is known, whatever it is. -/
def KnowsOwn (known : String → VGStatus → Prop) (node name : String) : Prop :=
  ∀ entry : VGStatus, entry.name = name → known node entry

/-- What is reported about one volume group on a node is known unless it is the ready
state. -/
def KnowsUnready (known : String → VGStatus → Prop) (node name : String) : Prop :=
  ∀ entry : VGStatus, entry.name = name → entry.status ≠ .ready → known node entry

/-- Only the new entry is added. -/
theorem mem_putVGStatus
    {status entry : VGStatus}
    {entries : List VGStatus}
    (member : entry ∈ putVGStatus status entries) :
    entry = status ∨ entry ∈ entries := by
  unfold putVGStatus at member
  split at member
  · obtain ⟨old, isOld, rfl⟩ := List.mem_map.mp member
    split
    · exact .inl rfl
    · exact .inr isOld
  · simpa [or_comm] using member

/-- A volume group has one entry. -/
theorem putVGStatus_unique
    {entries : List VGStatus}
    (status : VGStatus)
    (unique : (entries.map (·.name)).Nodup) :
    ((putVGStatus status entries).map (·.name)).Nodup := by
  unfold putVGStatus
  split
  · have sameNames : (entries.map fun old =>
        if old.name == status.name then status else old).map (·.name) =
        entries.map (·.name) := by
      rw [List.map_map]
      refine List.map_congr_left fun old _ => ?_
      by_cases same : old.name = status.name <;> simp [same]
    rwa [sameNames]
  · rename_i absent
    have isNew : status.name ∉ entries.map (·.name) := by
      simpa using absent
    simpa [List.nodup_append, unique] using isNew

/-- Only the entry of the volume group is replaced. -/
theorem setVolumeGroupStatus_reports
    {status : VGStatus}
    (own : known r.nodeName
      { status with deviceDiscoveryPolicy := discoveryPolicyStatus vg }) :
    Reports known (r.setVolumeGroupStatus vg status) := by
  refine .run_bind (createOrUpdate_reports ?_) fun _ _ => trivial
  rintro existing _ isNode isKnown ⟨⟩
  refine ⟨putVGStatus_unique _ isKnown.unique, fun entry member => ?_⟩
  change known existing.metadata.name entry
  rcases mem_putVGStatus member with rfl | old
  · exact isNode ▸ own
  · exact isKnown.isKnown entry old

theorem applyRAIDStatus_reports
    {config : RAIDConfig}
    {status : VGStatus} :
    (r.applyRAIDStatus vg config vgs status).run.Obeys (reporting known)
      (OnOk fun final => final.name = status.name ∧
        (final.status = status.status ∨ final.status = .degraded)) := by
  have applies : Reports known (r.applyRAIDStatus vg config vgs status) :=
    reports_of_within (r.applyRAIDStatus_uses ..) (by decide)
  refine (applies.yields applyRAIDStatus_yields).mono ?_
  rintro (error | final) ⟨-, yields⟩
  · trivial
  · exact yields final rfl

/-- The state is reported, or that the volume group is degraded. -/
theorem finishStatus_reports
    {status : VGStatus}
    (own : ∀ entry : VGStatus, entry.name = status.name →
      entry.status = status.status ∨ entry.status = .degraded → known r.nodeName entry) :
    Reports known (r.finishStatus vg vgs status) := by
  dsimp only [finishStatus]
  split
  · exact setVolumeGroupStatus_reports (own _ rfl (.inl rfl))
  · refine .run_bind (.run_mapError applyRAIDStatus_reports) fun final same => ?_
    exact setVolumeGroupStatus_reports (own _ same.1 same.2)

/-- Only the entry of the volume group is removed. -/
theorem removeVolumeGroupStatus_reports :
    Reports known (r.removeVolumeGroupStatus vg) := by
  have drops (existing : LVMVolumeGroupNodeStatus)
      (isKnown : EntriesKnown known existing) :
      EntriesKnown known (if existing.lvmVGStatus.any (·.name == vg.name) then
        { existing with
          metadata := { existing.metadata with
            ownerReferences := existing.metadata.ownerReferences.eraseP
              (·.uid == vg.metadata.uid) }
          lvmVGStatus := dropVGStatus vg.name existing.lvmVGStatus }
        else existing) := by
    split
    · have fewer : (dropVGStatus vg.name existing.lvmVGStatus).Sublist
          existing.lvmVGStatus := by
        rw [dropVGStatus, ← List.reverse_sublist, List.reverse_reverse]
        exact List.eraseP_sublist
      exact ⟨isKnown.unique.sublist (fewer.map _), fun entry member =>
        isKnown.isKnown entry (fewer.subset member)⟩
    · exact isKnown
  dsimp only [removeVolumeGroupStatus]
  split
  · refine .run_bind (.run_lift (.call_ignored trivial)) fun _ _ =>
      .run_bind (createOrUpdate_reports ?_) fun _ _ => trivial
    rintro existing _ - isKnown ⟨⟩
    exact drops existing isKnown
  · refine .run_bind (createOrUpdate_reports ?_) fun _ _ => trivial
    rintro existing _ - isKnown ⟨⟩
    exact drops existing isKnown

section Unready

variable (unready : KnowsUnready known r.nodeName vg.name)

include unready

/-- A failure is reported as one. -/
theorem reportFailure_reports (error : GoError) :
    Reports known (liftM (r.reportFailure vg vgs devices error) : Go Unit) := by
  refine .run_lift (.bind (finishStatus_reports fun entry named isState =>
    unready entry (named.trans ?_) ?_) fun _ _ => trivial)
  · dsimp only
    split <;> rfl
  · rintro isReady
    rw [isReady] at isState
    dsimp only at isState
    split at isState <;> simp at isState

theorem failWith_reports {α : Type} (reason : String) (error : GoError) :
    Reports known (r.failWith vg vgs devices reason error : Go α) :=
  .run_bind (reports_of_within (.run_lift (r.warningEvent_uses ..)) (by decide)) fun _ _ =>
    .run_bind (reportFailure_reports unready error) fun _ _ => trivial

theorem orFailWith_reports
    {step : Go Unit}
    {reason : String}
    {wrap : GoError → GoError}
    (obeys : Reports known step) :
    Reports known (r.orFailWith vg vgs devices reason wrap step) := by
  refine .run_bind (.run_attempt obeys) fun result _ => ?_
  cases result with
  | ok done => trivial
  | error error => exact failWith_reports unready ..

theorem validateOrFail_reports :
    Reports known (r.validateOrFail vg vgs devices) :=
  orFailWith_reports unready (reports_of_within (r.validateLVs_uses _) (by decide))

theorem applyLVMDConfig_reports :
    Reports known (r.applyLVMDConfig vg vgs devices) := by
  refine .run_bind (.run_attempt (reports_of_within (Lvmd.CachedFileConfig.load_uses _)
    (by decide))) fun loaded _ => ?_
  cases loaded with
  | error error => exact .run_bind (reportFailure_reports unready _) fun _ _ => trivial
  | ok loaded =>
      refine .run_bind (.run_of_uses trivial fun _ => id) fun newConfig _ => ?_
      refine .run_bind (.run_attempt (reports_of_within
        (r.updateLVMDConfigAfterReconcile_uses ..) (by decide))) fun stored _ => ?_
      cases stored with
      | ok done => trivial
      | error error => exact .run_bind (reportFailure_reports unready _) fun _ _ => trivial

theorem setUpThinPool_reports :
    Reports known (r.setUpThinPool vg vgs devices) := by
  dsimp only [setUpThinPool]
  split
  · trivial
  · exact .run_bind (orFailWith_reports unready (reports_of_within (r.addThinPoolToVG_uses ..)
      (by decide))) fun _ _ => validateOrFail_reports unready

theorem deleteThinPool_reports {config : ThinPoolConfig} :
    Reports known (r.deleteThinPool vg vgs config) := by
  refine .run_bind (.run_mapError (reports_of_within (Lvm.lvExists_uses ..) (by decide)))
    fun found _ => ?_
  split
  · refine .run_bind (.run_attempt (reports_of_within (Lvm.deleteLV_uses ..) (by decide)))
      fun removed _ => ?_
    cases removed with
    | ok done => trivial
    | error error => exact .run_bind (reportFailure_reports unready _) fun _ _ => trivial
  · trivial

/-- The cleanup of the disks reports only its failures. -/
theorem cleanUpDisks_reports :
    Reports known (r.cleanUpDisks vg) := by
  have deletes (vgs : List VolumeGroup) (existing : VolumeGroup) :
      Reports known (r.deleteVolumeGroup vg vgs existing) := by
    refine .run_bind (.run_attempt (reports_of_within (Lvm.deleteVG_uses _) (by decide)))
      fun removed _ => ?_
    cases removed with
    | ok done => trivial
    | error error => exact .run_bind (reportFailure_reports unready _) fun _ _ => trivial
  refine .run_bind (.run_mapError (reports_of_within (Lvm.listVGs_uses _) (by decide)))
    fun vgs _ => ?_
  split
  · trivial
  refine .run_bind (reports_of_within (r.checkRetained_uses _) (by decide)) fun _ _ => ?_
  dsimp only [deleteDisks]
  split
  · exact .run_bind (deleteThinPool_reports unready) fun _ _ => deletes ..
  · exact deletes ..

theorem processDelete_reports :
    Reports known (r.processDelete vg) := by
  refine .run_bind (.run_mapError (reports_of_within
    (Lvmd.CachedFileConfig.load_uses _) (by decide))) fun _ _ => ?_
  refine .run_bind (cleanUpDisks_reports unready) fun _ _ => ?_
  refine .run_bind (reports_of_within (r.storeRemaining_uses ..) (by decide)) fun _ _ => ?_
  refine .run_bind (.run_mapError removeVolumeGroupStatus_reports) fun _ _ => ?_
  dsimp only
  split
  · exact .run_bind (reports_of_within (Client.update_uses ..) (by decide))
      fun _ _ => trivial
  · trivial

end Unready

section Own

variable (own : KnowsOwn known r.nodeName vg.name)

include own

theorem KnowsOwn.unready : KnowsUnready known r.nodeName vg.name :=
  fun entry named _ => own entry named

/-- `Ready` is reported of the own volume group. -/
theorem announceReady_reports :
    Reports known (r.announceReady vg vgs devices) := by
  refine .run_bind (.run_mapError (finishStatus_reports fun entry named _ => own entry named))
    fun updated _ => ?_
  split
  · exact reports_of_within (.run_lift (r.normalEvent_uses ..)) (by decide)
  · trivial

theorem finishExisting_reports :
    Reports known (r.finishExisting vg vgs devices) := by
  have last : Reports known (do
      r.applyLVMDConfig vg vgs devices
      r.announceReady vg vgs devices
      return determineFinishedRequeue vg : Go Result) :=
    .run_bind (applyLVMDConfig_reports own.unready) fun _ _ =>
      .run_bind (announceReady_reports own) fun _ _ => trivial
  dsimp only [finishExisting]
  split
  · exact .run_bind (validateOrFail_reports own.unready) fun _ _ => last
  · exact last

theorem reconcileExisting_reports :
    Reports known (r.reconcileExisting vg vgs devices) := by
  unfold reconcileExisting
  split
  · exact failWith_reports own.unready ..
  · refine .run_bind (.run_attempt (reports_of_within (r.deleteRemovedDevices_uses ..)
      (by decide))) fun deleted _ => ?_
    cases deleted with
    | error error => exact .run_bind (reportFailure_reports own.unready _) fun _ _ => trivial
    | ok deleted =>
        dsimp only
        split
        · exact .run_bind (reports_of_within refreshVGs_uses (by decide))
            fun _ _ => finishExisting_reports own
        · exact .run_bind (.run_of_uses trivial fun _ => id)
            fun _ _ => finishExisting_reports own

theorem setUp_reports :
    Reports known (r.setUp vg vgs devices) := by
  have counts : Reports known (r.checkDeviceCount vg vgs devices) := by
    dsimp only [checkDeviceCount]
    split
    · trivial
    · exact orFailWith_reports own.unready (.run_of_uses trivial fun _ => id)
  exact .run_bind counts fun _ _ =>
    .run_bind (orFailWith_reports own.unready (reports_of_within (addDevicesToVG_uses ..)
      (by decide))) fun _ _ =>
    .run_bind (setUpThinPool_reports own.unready) fun _ _ =>
    .run_bind (reports_of_within refreshVGs_uses (by decide)) fun _ _ =>
    .run_bind (applyLVMDConfig_reports own.unready) fun _ _ =>
    .run_bind (announceReady_reports own) fun _ _ => trivial

/-- The use of the devices reports only the own volume group. -/
theorem useDevices_reports :
    Reports known (r.useDevices vg vgs devices) := by
  have checks : Reports known (r.checkMandatoryPaths vg vgs devices) := by
    dsimp only [checkMandatoryPaths]
    split
    · trivial
    · exact orFailWith_reports own.unready
        (reports_of_within (verifyMandatoryDevicePaths_uses ..) (by decide))
  refine .run_bind checks fun _ _ => ?_
  dsimp only
  split
  · exact reconcileExisting_reports own
  · refine .run_bind (.run_attempt (finishStatus_reports fun entry named _ => own entry named))
      fun updated _ => ?_
    split
    · trivial
    · exact setUp_reports own

/-- A live volume group reports only its own entry. -/
theorem reconcileLive_reports :
    Reports known (r.reconcileLive vg) := by
  refine .run_bind (.run_mapError (reports_of_within (query_uses _) (by decide)))
    fun blockDevices _ => ?_
  refine .run_bind (reports_of_within refreshVGs_uses (by decide)) fun vgs _ => ?_
  split
  · refine .run_bind (reports_of_within (.run_lift (r.warningEvent_uses ..)) (by decide))
      fun _ _ => ?_
    exact .run_bind (reportFailure_reports own.unready _) fun _ _ => trivial
  refine .run_bind (.run_mapError (reports_of_within (wipeDevices_uses ..) (by decide)))
    fun wiped _ => ?_
  cases wiped with
  | some annotated =>
      exact .run_bind (reports_of_within (Client.update_uses ..) (by decide))
        fun _ _ => trivial
  | none =>
      refine .run_bind (.run_mapError (reports_of_within (Lvm.listPVs_uses _) (by decide)))
        fun pvs _ => ?_
      refine .run_bind (reports_of_within (.run_lift (blockDeviceInfos_uses _))
        (by decide)) fun bdi _ => ?_
      exact .run_bind (reports_of_within (.run_lift (filterDevices_uses ..)) (by decide))
        fun devices _ => useDevices_reports own

end Own

/-- A reconciliation of a volume group reports only about this volume group, and the ready
state only if it is not being deleted. -/
theorem reconcile_reports
    (unready : KnowsUnready known r.nodeName vg.name)
    (own : vg.metadata.deletionTimestamp = none → KnowsOwn known r.nodeName vg.name) :
    Reports known (r.reconcile vg) := by
  dsimp only [reconcile]
  split
  · exact .run_bind (processDelete_reports unready) fun _ _ => trivial
  · rename_i unmarked
    split
    · exact .run_bind (reports_of_within (Client.update_uses ..) (by decide))
        fun _ _ => trivial
    · exact reconcileLive_reports (own (Option.not_isSome_iff_eq_none.mp unmarked))

end Reconciler

/-! ## The operator -/

namespace Operator

variable {r : Operator} {cluster : LVMCluster} {known : String → VGStatus → Prop}

/-- The operator does not change the entries of a status. -/
theorem updateNodeStatus_ok
    {status updated : LVMVolumeGroupNodeStatus}
    (updates : updateNodeStatus cluster status = .ok updated) :
    ∃ metadata, status.metadata.setControllerReference cluster.metadata = .ok metadata ∧
      updated = { status with
        metadata := (metadata.addFinalizer deleteProtectionFinalizer).1 } := by
  obtain ⟨metadata, controls, isUpdated⟩ := Except.bind_eq_ok_iff.mp updates
  exact ⟨metadata, Except.mapError_eq_ok_iff.mp controls,
    (Except.ok.inj isUpdated).symm⟩

/-- The operator keeps what a node status lists. -/
theorem updateNodeStatus_known
    {existing object : LVMVolumeGroupNodeStatus}
    (isKnown : EntriesKnown known existing)
    (changed : updateNodeStatus cluster existing = .ok object) :
    EntriesKnown known object := by
  obtain ⟨metadata, controlled, rfl⟩ := updateNodeStatus_ok changed
  refine ⟨isKnown.unique, fun entry member => ?_⟩
  have sameName := ObjectMeta.setControllerReference_name controlled
  simp only [ObjectMeta.addFinalizer_name, sameName]
  exact isKnown.isKnown entry member

theorem lvmVGNodeStatus_ensureCreated_reports :
    Reports known (r.lvmVGNodeStatus.ensureCreated cluster) := by
  refine .run_bind (.run_mapError (reports_of_within (Client.list_uses _) (by decide)))
    fun nodes _ => ?_
  refine .run_bind (.run_forM fun node _ => ?_) fun _ _ =>
    reports_of_within (throwIfSome_uses _ []) (by decide)
  exact .run_bind (createOrUpdate_reports fun _ _ _ => updateNodeStatus_known)
    fun _ _ => trivial

/-- A status that is released keeps its entries. -/
theorem deleteNodeStatus_reports
    {status : LVMVolumeGroupNodeStatus}
    (isKnown : EntriesKnown known status) :
    Reports known (deleteNodeStatus status) := by
  have releases : Reports known (releaseNodeStatus status) := by
    unfold releaseNodeStatus
    split
    · trivial
    · rename_i isReleased
      refine .run_bind (.run_mapError (Client.update_obeys ?_ fun _ _ => trivial))
        fun _ _ => trivial
      unfold removeDeleteProtectionFinalizer at isReleased
      split at isReleased
      · obtain rfl := Option.some.inj isReleased
        exact EntriesKnown.mk isKnown.unique isKnown.isKnown
      · cases isReleased
  dsimp only [deleteNodeStatus]
  split
  · exact .run_bind (.run_mapError (reports_of_within (Client.delete_uses ..) (by decide)))
      fun _ _ => releases
  · exact releases

theorem lvmVGNodeStatus_ensureDeleted_reports :
    Reports known (r.lvmVGNodeStatus.ensureDeleted cluster) := by
  refine .run_bind (.run_mapError (Client.list_obeys trivial fun _ areKnown => areKnown))
    fun statuses areKnown => ?_
  refine .run_bind (.run_mapError (reports_of_within (Client.list_uses _) (by decide)))
    fun nodes _ => ?_
  refine .run_bind (.run_forM fun status member => ?_) fun _ _ =>
    reports_of_within (throwIfSome_uses _ []) (by decide)
  exact deleteNodeStatus_reports (areKnown status (List.mem_filter.mp member).1)

/-- No manager that creates writes new entries. -/
theorem ensureCreated_reports
    {manager : Manager}
    (member : manager ∈ r.resources) :
    Reports known (manager.ensureCreated cluster) := by
  simp only [resources, List.mem_append, List.mem_cons, List.mem_ite_nil_right,
    List.not_mem_nil, or_false] at member
  rcases member with ((rfl | rfl | rfl | rfl | rfl | rfl | rfl | rfl) | ⟨_, rfl⟩) |
    ⟨_, rfl⟩
  · exact reports_of_within (otherManager_ensureCreated_uses ..) (by decide)
  · exact reports_of_within (otherManager_ensureCreated_uses ..) (by decide)
  · exact reports_of_within (r.vgManager_ensureCreated_uses ..) (by decide)
  · exact reports_of_within (r.lvmVGs_ensureCreated_uses ..) (by decide)
  · exact lvmVGNodeStatus_ensureCreated_reports
  · exact reports_of_within (topoLVMStorageClass_ensureCreated_uses ..) (by decide)
  · exact reports_of_within (otherManager_ensureCreated_uses ..) (by decide)
  · exact reports_of_within (otherManager_ensureCreated_uses ..) (by decide)
  · exact reports_of_within (otherManager_ensureCreated_uses ..) (by decide)
  · exact reports_of_within (topoLVMVolumeSnapshotClass_ensureCreated_uses ..) (by decide)

/-- No manager that deletes writes new entries. -/
theorem ensureDeleted_reports
    {manager : Manager}
    (member : manager ∈ r.resourceDeletionList) :
    Reports known (manager.ensureDeleted cluster) := by
  simp only [resourceDeletionList, resourcesAfterStatuses, List.mem_append, List.mem_cons,
    List.mem_ite_nil_right, List.not_mem_nil, or_false] at member
  rcases member with (rfl | rfl) | rfl |
    ((rfl | rfl | rfl | rfl | rfl) | ⟨_, rfl⟩) | ⟨_, rfl⟩
  · exact reports_of_within (r.lvmVGs_ensureDeleted_uses ..) (by decide)
  · exact reports_of_within (r.vgManager_ensureDeleted_uses ..) (by decide)
  · exact lvmVGNodeStatus_ensureDeleted_reports
  · exact reports_of_within (topoLVMStorageClass_ensureDeleted_uses ..) (by decide)
  · exact reports_of_within (otherManager_ensureDeleted_uses ..) (by decide)
  · exact reports_of_within (otherManager_ensureDeleted_uses ..) (by decide)
  · exact reports_of_within (otherManager_ensureDeleted_uses ..) (by decide)
  · exact reports_of_within (otherManager_ensureDeleted_uses ..) (by decide)
  · exact reports_of_within (otherManager_ensureDeleted_uses ..) (by decide)
  · exact reports_of_within (topoLVMVolumeSnapshotClass_ensureDeleted_uses ..) (by decide)

/-- The conditions about the volume groups are the operator's. -/
theorem setVolumeGroupsReadyCondition_owned
    {nodes : List Node}
    {statuses : List LVMVolumeGroupNodeStatus}
    (owned : OperatorOwned cluster.status.conditions) :
    OperatorOwned (r.scheduling.setVolumeGroupsReadyCondition cluster nodes
      statuses).status.conditions := by
  simp only [Scheduling.setVolumeGroupsReadyCondition]
  repeat' split
  · exact owned.set (.inr rfl)
  · exact owned.set (.inr rfl)
  · exact owned.set (.inr rfl)
  · exact owned

theorem updateLVMClusterStatus_reports
    (owned : OperatorOwned cluster.status.conditions) :
    Reports known (r.updateLVMClusterStatus cluster) := by
  have summarises : (r.withVolumeGroupStatus cluster).run.Obeys (reporting known)
      (OnOk fun summarised => OperatorOwned summarised.status.conditions) := by
    dsimp only [withVolumeGroupStatus]
    split
    · exact owned.set (.inr rfl)
    · refine .run_bind (.run_mapError (reports_of_within (Client.list_uses _) (by decide)))
        fun statuses _ => ?_
      refine .run_bind (.run_mapError (reports_of_within (Client.list_uses _) (by decide)))
        fun nodes _ => ?_
      have computes : (computeDeviceClassStatuses statuses).Uses (Within [.read]) :=
        .bind (mapOrder_uses _) fun _ => trivial
      exact .run_bind (reports_of_within (.run_lift computes) (by decide))
        fun _ _ => setVolumeGroupsReadyCondition_owned owned
  refine .run_bind summarises fun summarised isOwned => .run_mapError ?_
  exact ⟨isOwned, fun result _ => by cases result <;> trivial⟩

theorem reconcile_reports
    (owned : OperatorOwned cluster.status.conditions) :
    Reports known (r.reconcile cluster) := by
  have ensures : (ensureFinalizer cluster.inProgress).run.Obeys (reporting known)
      (OnOk fun stored => OperatorOwned stored.status.conditions) := by
    have inProgress : OperatorOwned cluster.inProgress.status.conditions :=
      (owned.set (.inl rfl)).set (.inr rfl)
    unfold ensureFinalizer
    dsimp only
    split
    · exact .run_mapError (Client.update_obeys inProgress fun _ isOwned => isOwned)
    · exact inProgress
  refine .run_bind ensures fun stored isOwned => ?_
  have manages : (r.createResources stored).Obeys (reporting known) fun _ => True := by
    unfold createResources
    apply Obeys.interleaveAll trivial
    intro program member
    obtain ⟨manager, isManager, rfl⟩ := List.mem_map.mp member
    exact (ensureCreated_reports isManager).mono fun _ _ => trivial
  refine .run_bind (.run_lift manages) fun results _ => ?_
  split
  · refine .run_bind (reports_of_within (.run_lift (warningEvent_uses ..)) (by decide))
      fun _ _ => ?_
    exact .run_bind (.run_attempt (updateLVMClusterStatus_reports (isOwned.set (.inl rfl))))
      fun _ _ => trivial
  · refine .run_bind (.run_mapError (reports_of_within
      (r.checkForDeletedDeviceClasses_uses _) (by decide))) fun _ _ => ?_
    refine .run_bind (reports_of_within (.run_lift (r.normalEvent_uses ..)) (by decide))
      fun _ _ => ?_
    exact .run_bind (updateLVMClusterStatus_reports (isOwned.set (.inl rfl)))
      fun _ _ => trivial

theorem processDelete_reports
    (owned : OperatorOwned cluster.status.conditions) :
    Reports known (r.processDelete cluster) := by
  have releases : Reports known (releaseCluster cluster) := by
    dsimp only [releaseCluster]
    split
    · exact .run_bind (.run_mapError (Client.update_obeys owned fun _ _ => trivial))
        fun _ _ => trivial
    · trivial
  rw [processDelete_eq]
  split
  · refine .run_bind (.run_forM fun manager member => ?_) fun _ _ => releases
    refine .run_bind (.run_attempt (ensureDeleted_reports member)) fun deleted _ => ?_
    cases deleted with
    | ok done => trivial
    | error err =>
        exact .run_bind (reports_of_within (.run_lift (warningEvent_uses ..)) (by decide))
          fun _ _ => trivial
  · exact releases

theorem reconcileDeleted_reports
    (owned : OperatorOwned cluster.status.conditions) :
    Reports known (r.reconcileDeleted cluster) := by
  have waits (found : String) : Reports known (waitForDeletion cluster found) :=
    .run_bind (reports_of_within (.run_lift (warningEvent_uses ..)) (by decide))
      fun _ _ => trivial
  have lists : Reports known clusterNodes :=
    .run_bind (.run_mapError (reports_of_within (Client.list_uses _) (by decide)))
      fun _ _ => trivial
  refine .run_bind (.run_mapError lists) fun nodes _ => ?_
  refine .run_bind (.run_mapError (reports_of_within (checkStaleNodeFinalizers_uses nodes)
    (by decide))) fun _ _ => ?_
  refine .run_bind (.run_mapError (reports_of_within (logicalVolumesExist_uses nodes)
    (by decide))) fun _ _ => ?_
  refine .run_bind (.run_mapError (reports_of_within (activePVCsExist_uses _) (by decide)))
    fun claimed _ => ?_
  split
  · exact waits _
  refine .run_bind (.run_mapError (reports_of_within (retainPVsExist_uses _) (by decide)))
    fun retained _ => ?_
  split
  · exact waits _
  refine .run_bind (.run_attempt (processDelete_reports owned)) fun result _ => ?_
  cases result <;> trivial

/-- The operator reports nothing about volume groups on its own. -/
theorem reconcileRequest_reports (name : String) :
    Reports known (r.reconcileRequest name) := by
  refine .run_bind (.run_mapError (reports_of_within (Client.list_uses _) (by decide)))
    fun clusters _ => ?_
  dsimp only
  split
  · trivial
  refine .run_bind (.run_attempt ⟨trivial, fun _ isExpected => isExpected⟩)
    fun found isOwned => ?_
  cases found with
  | error err =>
      dsimp only
      split <;> trivial
  | ok cluster =>
      refine .run_bind (.run_mapError (reports_of_within setRunningPodImage_uses
        (by decide))) fun started _ => ?_
      split
      · exact reconcileDeleted_reports isOwned
      · exact reconcile_reports isOwned

end Operator

end Lvms
