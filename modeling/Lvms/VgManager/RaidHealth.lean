import Lvms.VgManager.Raid
import Mathlib.Order.Bounds.Basic
import Mathlib.Order.MinMax
import Mathlib.Data.Option.Basic

/-!
# The health of a RAID volume group

The health is computed in several passes over the logical and the physical volumes,
some of which override earlier ones. Here it is compared with one definition that says
which volumes make a volume group failed, degraded or healthy.
-/

namespace Lvms

/-! ## RAID volumes -/

/-- The attributes of a volume parse, and have a property. -/
def LogicalVolume.hasAttr (lv : LogicalVolume) (test : LvAttr → Bool) : Bool :=
  match parsedLvAttr lv.lvAttr with
  | .ok attr => test attr
  | .error _ => false

/-- A volume with RAID attributes that is not a part of another volume. -/
def LogicalVolume.isRAID (lv : LogicalVolume) : Bool :=
  lv.hasAttr LvAttr.isRAID && !isRAIDSubVolume lv.name

/-- The percentage of a volume that is synchronised. -/
def LogicalVolume.syncPercent (numerals : Numerals) (lv : LogicalVolume) : Int :=
  if lv.raidSyncPercent = "" then 100
  else match numerals.parseFloat64 lv.raidSyncPercent with
    | .ok percent => truncate percent
    | .error _ => 100

/-- The entry of a RAID volume in the status. -/
def LogicalVolume.health
    (numerals : Numerals)
    (raidType : RAIDType)
    (lv : LogicalVolume) : RAIDLVHealth where
  name := lv.name
  raidType
  syncPercent := lv.syncPercent numerals
  healthStatus := lv.lvHealthStatus

/-- Each RAID volume has one entry, in order. -/
theorem raidLVHealth_eq
    (numerals : Numerals)
    (raidType : RAIDType)
    (lvs : List LogicalVolume) :
    raidLVHealth numerals raidType lvs =
      (lvs.filter LogicalVolume.isRAID).map (·.health numerals raidType) := by
  rw [← List.filterMap_eq_map, List.filterMap_filter]
  apply List.filterMap_congr
  intro lv _
  cases parsed : parsedLvAttr lv.lvAttr with
  | error err => simp [LogicalVolume.isRAID, LogicalVolume.hasAttr, parsed]
  | ok attr =>
      simp only [LogicalVolume.isRAID, LogicalVolume.hasAttr, parsed]
      cases attr.isRAID <;> cases isRAIDSubVolume lv.name <;> rfl

theorem isPartialRAID_eq (lv : LogicalVolume) :
    isPartialRAID lv =
      (lv.hasAttr LvAttr.isRAID && lv.hasAttr (·.partialFlag == partialTrue)) := by
  simp only [isPartialRAID, LogicalVolume.hasAttr]
  cases parsedLvAttr lv.lvAttr <;> rfl

/-! ## The metrics -/

/-- The gauges that `updateRAIDMetrics` sets. -/
structure RAIDGauges where
  healthStatus : Nat
  syncInProgress : Nat
  memberCount : Nat
  degradedCount : Nat
  syncPercent : Int
  deriving DecidableEq, Repr

/-- The values that `updateRAIDMetrics` gives the gauges. -/
def raidGauges : Option RAIDStatus → RAIDGauges
  | none => ⟨0, 0, 0, 0, 100⟩
  | some status => {
      healthStatus := match status.status with
        | .healthy => 0
        | .degraded => 1
        | .failed => 2
      syncInProgress :=
        if status.lvHealth.any (·.syncPercent < 100) then 1 else 0
      memberCount := status.memberCount
      degradedCount := status.degradedMemberCount
      syncPercent := status.minSyncPercent.getD 100 }

/-! ## The reference -/

/-- All RAID volumes report that they have failed, and there is one. -/
def AllFailed (lvs : List LogicalVolume) : Prop :=
  (∃ lv ∈ lvs, lv.isRAID) ∧
    ∀ lv ∈ lvs, lv.isRAID → lv.lvHealthStatus ≠ "" ∧ lv.lvHealthStatus ≠ "partial"

/-- No RAID volume reports a problem, no volume with RAID attributes lacks a device,
and no physical volume is missing. -/
def AllHealthy (lvs : List LogicalVolume) (pvs : List PhysicalVolume) : Prop :=
  (∀ lv ∈ lvs, lv.isRAID → lv.lvHealthStatus = "") ∧
    (∀ lv ∈ lvs, lv.hasAttr LvAttr.isRAID →
      ¬ lv.hasAttr (·.partialFlag == partialTrue)) ∧
    ∀ pv ∈ pvs, pv.pvMissing = ""

/-- What a status says about the volumes. -/
structure Describes
    (numerals : Numerals)
    (raidType : RAIDType)
    (lvs : List LogicalVolume)
    (pvs : List PhysicalVolume)
    (status : RAIDStatus) : Prop where
  failed : status.status = .failed ↔ AllFailed lvs
  healthy : status.status = .healthy ↔ AllHealthy lvs pvs
  degraded : status.status = .degraded ↔ ¬ AllFailed lvs ∧ ¬ AllHealthy lvs pvs
  memberCount : status.memberCount = pvs.length
  degradedMembers : status.degradedMemberCount = (pvs.filter (·.pvMissing != "")).length
  unsynced : status.minSyncPercent = none ↔ ∀ lv ∈ lvs, ¬ lv.isRAID
  minSync : ∀ least, status.minSyncPercent = some least →
    IsLeast {percent | percent = 100 ∨
      ∃ lv ∈ lvs, lv.isRAID ∧ lv.syncPercent numerals = percent} least
  lvHealth : status.lvHealth =
    (lvs.filter LogicalVolume.isRAID).map (·.health numerals raidType)

/-- Two statuses differ at most in the order of the volumes they list. -/
structure SameUpToOrder (status other : RAIDStatus) : Prop where
  rest : { status with lvHealth := [] } = { other with lvHealth := [] }
  lvHealth : status.lvHealth.Perm other.lvHealth

section Status

variable {numerals : Numerals} {raidType : RAIDType}
variable {lvs : List LogicalVolume} {pvs : List PhysicalVolume} {status : RAIDStatus}

theorem raidLVHealth_eq_nil_iff (numerals : Numerals) (raidType : RAIDType) :
    raidLVHealth numerals raidType lvs = [] ↔ ∀ lv ∈ lvs, ¬ lv.isRAID := by
  rw [raidLVHealth_eq, List.map_eq_nil_iff, List.filter_eq_nil_iff]

/-- A property of the entries is one of the RAID volumes. -/
theorem forall_raidLVHealth_iff {test : RAIDLVHealth → Prop} :
    (∀ health ∈ raidLVHealth numerals raidType lvs, test health) ↔
      ∀ lv ∈ lvs, lv.isRAID → test (lv.health numerals raidType) := by
  rw [raidLVHealth_eq, List.forall_mem_map]
  simp only [List.mem_filter, and_imp]

/-- The status of the volumes before the attributes are looked at is failed if all RAID
volumes are, and healthy if none has a problem. -/
theorem ofVolumes_iff
    {lvHealth : List RAIDLVHealth}
    {ofVolumes : RAIDHealthStatus}
    (is : ofVolumes =
      if lvHealth.isEmpty then .healthy
      else if (lvHealth.countP fun health =>
          health.healthStatus != "" && health.healthStatus != "partial") =
          lvHealth.length then .failed
      else if 0 < (lvHealth.countP fun health =>
          health.healthStatus != "" && health.healthStatus != "partial") ||
          0 < (lvHealth.countP fun health => health.healthStatus == "partial") then
        .degraded
      else .healthy) :
    (ofVolumes = .failed ↔ lvHealth ≠ [] ∧ ∀ health ∈ lvHealth,
      health.healthStatus ≠ "" ∧ health.healthStatus ≠ "partial") ∧
    (ofVolumes = .healthy ↔ ∀ health ∈ lvHealth, health.healthStatus = "") := by
  subst is
  cases lvHealth with
  | nil => simp
  | cons first rest =>
      simp only [List.isEmpty_cons, Bool.false_eq_true, if_false, List.countP_eq_length,
        List.countP_pos_iff, Bool.or_eq_true, decide_eq_true_eq, Bool.and_eq_true,
        bne_iff_ne, beq_iff_eq]
      split_ifs with allFail problem
      · refine ⟨by simpa using allFail, iff_of_false nofun fun healthy => ?_⟩
        exact (allFail first List.mem_cons_self).1 (healthy first List.mem_cons_self)
      · refine ⟨iff_of_false nofun fun fail => allFail fail.2, iff_of_false nofun ?_⟩
        intro healthy
        rcases problem with ⟨health, member, isBad, -⟩ | ⟨health, member, isPartial⟩
        · exact isBad (healthy health member)
        · rw [healthy health member] at isPartial
          exact absurd isPartial (by decide)
      · refine ⟨iff_of_false nofun fun fail => allFail fail.2, iff_of_true rfl ?_⟩
        intro health member
        by_contra isBad
        by_cases isPartial : health.healthStatus = "partial"
        · exact problem (.inr ⟨health, member, isPartial⟩)
        · exact problem (.inl ⟨health, member, isBad, isPartial⟩)

theorem buildRAIDStatus_eq_none_iff :
    buildRAIDStatus numerals lvs pvs raidType = none ↔
      (∀ lv ∈ lvs, ¬ lv.isRAID) ∧ pvs = [] := by
  rw [buildRAIDStatus, ← raidLVHealth_eq_nil_iff numerals raidType]
  split
  · rename_i isEmpty
    exact iff_of_true rfl (by simpa using isEmpty)
  · rename_i isSome
    exact iff_of_false (by simp) (by simpa using isSome)

theorem RAIDHealthStatus.eq_degraded_iff (health : RAIDHealthStatus) :
    health = .degraded ↔ ¬ health = .failed ∧ ¬ health = .healthy := by
  cases health <;> simp

/-- The least of a number and a list. -/
theorem isLeast_foldl_min (percents : List Int) (start : Int) :
    IsLeast {percent | percent = start ∨ percent ∈ percents} (percents.foldl min start) := by
  induction percents generalizing start with
  | nil => simp [IsLeast, lowerBounds]
  | cons first rest inductionHypothesis =>
      obtain ⟨member, least⟩ := inductionHypothesis (min start first)
      rw [List.foldl_cons]
      constructor
      · rcases member with isMin | later
        · rcases min_choice start first with same | same
          · exact .inl (isMin.trans same)
          · exact .inr (List.mem_cons.mpr (.inl (isMin.trans same)))
        · exact .inr (List.mem_cons_of_mem _ later)
      · have small := least (.inl rfl)
        rintro percent (rfl | isListed)
        · exact small.trans (min_le_left ..)
        · rcases List.mem_cons.mp isListed with rfl | later
          · exact small.trans (min_le_right ..)
          · exact least (.inr later)

/-- The attributes and the missing physical volumes turn healthy into degraded. -/
theorem overridden_iff
    (ofVolumes : RAIDHealthStatus)
    (isPartial : Bool)
    (missing : Nat) :
    let ofAttributes := if ofVolumes = .healthy && isPartial then .degraded else ofVolumes
    let status := if 0 < missing && ofAttributes = .healthy then .degraded else ofAttributes
    (status = .failed ↔ ofVolumes = .failed) ∧
      (status = .healthy ↔ ofVolumes = .healthy ∧ isPartial = false ∧ missing = 0) := by
  cases missing <;> cases ofVolumes <;> cases isPartial <;> simp

/-- The status describes the volumes as the reference does. -/
theorem buildRAIDStatus_describes
    (is : buildRAIDStatus numerals lvs pvs raidType = some status) :
    Describes numerals raidType lvs pvs status := by
  rw [buildRAIDStatus] at is
  split at is
  · cases is
  obtain rfl := Option.some.inj is
  obtain ⟨volumesFailed, volumesHealthy⟩ :=
    @ofVolumes_iff (raidLVHealth numerals raidType lvs) _ rfl
  obtain ⟨isFailed, isHealthy⟩ := overridden_iff _ (lvs.any isPartialRAID)
    (pvs.countP fun pv => pv.pvMissing != "")
  have isAllFailed : AllFailed lvs ↔ raidLVHealth numerals raidType lvs ≠ [] ∧
      ∀ health ∈ raidLVHealth numerals raidType lvs,
        health.healthStatus ≠ "" ∧ health.healthStatus ≠ "partial" := by
    rw [Ne, raidLVHealth_eq_nil_iff, forall_raidLVHealth_iff, AllFailed]
    simp [LogicalVolume.health]
  have isAllHealthy : AllHealthy lvs pvs ↔
      (∀ health ∈ raidLVHealth numerals raidType lvs, health.healthStatus = "") ∧
        lvs.any isPartialRAID = false ∧
        (pvs.countP fun pv => pv.pvMissing != "") = 0 := by
    rw [forall_raidLVHealth_iff, AllHealthy, List.countP_eq_zero, List.any_eq_false]
    simp [LogicalVolume.health, isPartialRAID_eq]
  have failed := (isFailed.trans volumesFailed).trans isAllFailed.symm
  have healthy := (isHealthy.trans (and_congr_left' volumesHealthy)).trans isAllHealthy.symm
  refine ⟨failed, healthy, ?_, rfl, List.countP_eq_length_filter .., ?_, ?_,
    raidLVHealth_eq ..⟩
  · rw [← failed, ← healthy]
    exact RAIDHealthStatus.eq_degraded_iff _
  · rw [← raidLVHealth_eq_nil_iff numerals raidType, ← List.isEmpty_iff]
    split
    · rename_i isEmpty
      exact iff_of_true rfl isEmpty
    · rename_i isSome
      exact iff_of_false nofun isSome
  · intro least isSome
    split at isSome
    · cases isSome
    obtain rfl := Option.some.inj isSome
    have isLeast := isLeast_foldl_min
      ((raidLVHealth numerals raidType lvs).map (·.syncPercent)) 100
    rw [List.foldl_map] at isLeast
    convert isLeast using 1
    ext percent
    simp [raidLVHealth_eq, LogicalVolume.health, and_assoc]

/-- The described status depends on the volumes, not on their order. -/
theorem Describes.sameUpToOrder
    {lvs' : List LogicalVolume}
    {pvs' : List PhysicalVolume}
    {other : RAIDStatus}
    (describes : Describes numerals raidType lvs pvs status)
    (describesOther : Describes numerals raidType lvs' pvs' other)
    (lvsPermuted : lvs'.Perm lvs)
    (pvsPermuted : pvs'.Perm pvs) :
    SameUpToOrder other status := by
  have allFailed : AllFailed lvs' ↔ AllFailed lvs := by
    simp only [AllFailed, lvsPermuted.mem_iff]
  have allHealthy : AllHealthy lvs' pvs' ↔ AllHealthy lvs pvs := by
    simp only [AllHealthy, lvsPermuted.mem_iff, pvsPermuted.mem_iff]
  constructor
  · rw [RAIDStatus.mk.injEq]
    refine ⟨?_, ?_, ?_, ?_, rfl⟩
    · cases is : status.status with
      | failed => exact describesOther.failed.mpr (allFailed.mpr (describes.failed.mp is))
      | healthy => exact describesOther.healthy.mpr (allHealthy.mpr (describes.healthy.mp is))
      | degraded =>
          rw [describesOther.degraded, allFailed, allHealthy]
          exact describes.degraded.mp is
    · rw [describes.memberCount, describesOther.memberCount, pvsPermuted.length_eq]
    · rw [describes.degradedMembers, describesOther.degradedMembers,
        (pvsPermuted.filter _).length_eq]
    · have unsynced : other.minSyncPercent = none ↔ status.minSyncPercent = none := by
        simp only [describes.unsynced, describesOther.unsynced, lvsPermuted.mem_iff]
      cases isLeast : status.minSyncPercent with
      | none => exact unsynced.mpr isLeast
      | some least =>
          obtain ⟨least', isLeast'⟩ := Option.ne_none_iff_exists'.mp
            (mt unsynced.mp (by rw [isLeast]; nofun))
          have leastToo := describesOther.minSync least' isLeast'
          simp only [lvsPermuted.mem_iff] at leastToo
          rw [isLeast', leastToo.unique (describes.minSync least isLeast)]
  · rw [describes.lvHealth, describesOther.lvHealth]
    exact (lvsPermuted.filter _).map _

/-- The gauge of a running synchronisation follows the listed volumes. -/
theorem syncInProgress_iff (result : Option RAIDStatus) :
    (raidGauges result).syncInProgress = 1 ↔
      ∃ status, result = some status ∧
        ∃ health ∈ status.lvHealth, health.syncPercent < 100 := by
  cases result with
  | none => simp [raidGauges]
  | some status => simp [raidGauges]

/-- The status and the gauges agree with the reference for all volumes in every
order. -/
theorem buildRAIDStatus_reference
    (numerals : Numerals)
    (raidType : RAIDType)
    (lvs : List LogicalVolume)
    (pvs : List PhysicalVolume) :
    (buildRAIDStatus numerals lvs pvs raidType = none ↔
      (∀ lv ∈ lvs, ¬ lv.isRAID) ∧ pvs = []) ∧
    (∀ status, buildRAIDStatus numerals lvs pvs raidType = some status →
      Describes numerals raidType lvs pvs status) ∧
    (∀ lvs' pvs', lvs'.Perm lvs → pvs'.Perm pvs →
      Option.Rel SameUpToOrder (buildRAIDStatus numerals lvs' pvs' raidType)
        (buildRAIDStatus numerals lvs pvs raidType)) ∧
    ((raidGauges (buildRAIDStatus numerals lvs pvs raidType)).syncInProgress = 1 ↔
      ∃ status, buildRAIDStatus numerals lvs pvs raidType = some status ∧
        ∃ health ∈ status.lvHealth, health.syncPercent < 100) := by
  refine ⟨buildRAIDStatus_eq_none_iff, fun _ => buildRAIDStatus_describes, ?_,
    syncInProgress_iff _⟩
  intro lvs' pvs' lvsPermuted pvsPermuted
  have both : buildRAIDStatus numerals lvs' pvs' raidType = none ↔
      buildRAIDStatus numerals lvs pvs raidType = none := by
    rw [buildRAIDStatus_eq_none_iff, buildRAIDStatus_eq_none_iff]
    simp only [lvsPermuted.mem_iff]
    rw [← List.length_eq_zero_iff, pvsPermuted.length_eq, List.length_eq_zero_iff]
  cases is : buildRAIDStatus numerals lvs pvs raidType with
  | none =>
      rw [both.mpr is]
      exact .none
  | some status =>
      obtain ⟨other, isOther⟩ := Option.ne_none_iff_exists'.mp
        (mt both.mp (by rw [is]; nofun))
      rw [isOther]
      exact .some ((buildRAIDStatus_describes is).sameUpToOrder
        (buildRAIDStatus_describes isOther) lvsPermuted pvsPermuted)

end Status

end Lvms
