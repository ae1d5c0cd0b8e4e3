import Lvms.Operator.Admission

/-!
# Devices of a RAID class

The webhook and the vg-manager compute the least number of devices in machine
integers and without the stripes of `raid10`. Here this number is compared with
what `lvcreate` needs for the options it is given.
-/

namespace Lvms

open Interaction

/-- The range of the numbers in a RAID configuration: what the schema admits and
an `int` can hold. -/
structure RAIDConfig.InSchema (config : RAIDConfig) : Prop where
  mirrors : ∀ mirrors ∈ config.mirrors, 1 ≤ mirrors ∧ mirrors < 2 ^ 63
  stripes : ∀ stripes ∈ config.stripes, 2 ≤ stripes ∧ stripes < 2 ^ 63

/-- The devices `lvcreate` needs for the options of a RAID configuration. -/
def RAIDConfig.devicesNeeded (config : RAIDConfig) : Int :=
  match config.type with
  | .raid1 => config.effectiveMirrors + 1
  | .raid4 | .raid5 => max 3 (config.stripes.getD 2 + 1)
  | .raid6 => max 5 (config.stripes.getD 3 + 2)
  | .raid10 => max 4 (config.stripes.getD 2 * (config.effectiveMirrors + 1))

/-- No sum or product overflows, `raid6` has at least three data stripes, and
`raid10` has two. -/
def RAIDConfig.Exact (config : RAIDConfig) : Prop :=
  match config.type with
  | .raid1 => config.effectiveMirrors < 2 ^ 63 - 1
  | .raid4 | .raid5 => config.stripes.getD 2 < 2 ^ 63 - 1
  | .raid6 => 2 < config.stripes.getD 3 ∧ config.stripes.getD 3 < 2 ^ 63 - 2
  | .raid10 => config.stripes.getD 2 = 2 ∧ config.effectiveMirrors < 2 ^ 62 - 1

instance (config : RAIDConfig) : Decidable config.Exact := by
  unfold RAIDConfig.Exact
  split <;> infer_instance

/-! ## Machine integers -/

/-- In range nothing wraps around. -/
theorem wrapInt64_of_lt
    {value : Int}
    (low : 0 ≤ value)
    (high : value < 2 ^ 63) :
    wrapInt64 value = value := by
  rw [wrapInt64, Int.bmod_def]
  split <;> omega

/-- Just above the range the value becomes negative, or zero at the end. -/
theorem wrapInt64_nonpos
    {value : Int}
    (low : 2 ^ 63 ≤ value)
    (high : value ≤ 2 ^ 64) :
    wrapInt64 value ≤ 0 := by
  rw [wrapInt64, Int.bmod_def]
  split <;> omega

section

variable {config : RAIDConfig}

theorem RAIDConfig.InSchema.effectiveMirrors
    (inSchema : config.InSchema) :
    1 ≤ config.effectiveMirrors ∧ config.effectiveMirrors < 2 ^ 63 := by
  unfold RAIDConfig.effectiveMirrors
  cases given : config.mirrors with
  | none => simp
  | some mirrors => exact inSchema.mirrors mirrors given

theorem RAIDConfig.InSchema.stripesOr
    {fallback : Int}
    (inSchema : config.InSchema)
    (low : 2 ≤ fallback)
    (high : fallback < 2 ^ 63) :
    2 ≤ config.stripes.getD fallback ∧ config.stripes.getD fallback < 2 ^ 63 := by
  cases given : config.stripes with
  | none => exact ⟨low, high⟩
  | some stripes => exact inSchema.stripes stripes given

/-- What the validators compare with. -/
def RAIDConfig.leastDevices (config : RAIDConfig) : Int :=
  config.type.minDeviceCount config.effectiveMirrors config.stripes

/-- Under the condition the least number is the number `lvcreate` needs. -/
theorem RAIDConfig.InSchema.devicesNeeded_eq
    (inSchema : config.InSchema)
    (exact : config.Exact) :
    config.devicesNeeded = config.leastDevices := by
  have mirrors := inSchema.effectiveMirrors
  unfold RAIDConfig.Exact at exact
  unfold RAIDConfig.devicesNeeded RAIDConfig.leastDevices RAIDType.minDeviceCount
  cases type : config.type <;> simp only [type] at exact ⊢
  · rw [wrapInt64_of_lt (by omega) (by omega)]
  · have stripes := inSchema.stripesOr (Int.le_refl 2) (by decide)
    rw [wrapInt64_of_lt (by omega) (by omega)]
    omega
  · have stripes := inSchema.stripesOr (Int.le_refl 2) (by decide)
    rw [wrapInt64_of_lt (by omega) (by omega)]
    omega
  · rw [wrapInt64_of_lt (by omega) (by omega)]
    omega
  · have copies : wrapInt64 (config.effectiveMirrors + 1) =
        config.effectiveMirrors + 1 := wrapInt64_of_lt (by omega) (by omega)
    rw [exact.1, copies, wrapInt64_of_lt (by omega) (by omega)]
    omega

/-- The counts that the vg-manager accepts. -/
theorem validateRAIDDeviceCount_eq_ok_iff {count : Nat} :
    validateRAIDDeviceCount config count = .ok () ↔
      config.leastDevices ≤ count ∧
        (config.type = .raid10 →
          (count : Int).tmod (wrapInt64 (config.effectiveMirrors + 1)) = 0) := by
  unfold validateRAIDDeviceCount RAIDConfig.leastDevices
  by_cases few :
      (count : Int) < config.type.minDeviceCount config.effectiveMirrors config.stripes
  · simp [few, Int.not_le.mpr few, throw, throwThe, MonadExceptOf.throw, Bind.bind,
      Except.bind]
  · have enough := Int.not_lt.mp few
    by_cases isRaid10 : config.type = .raid10
    · rw [isRaid10] at few enough
      by_cases divides :
          (count : Int).tmod (wrapInt64 (config.effectiveMirrors + 1)) = 0
      · simp [few, enough, isRaid10, divides, pure, Except.pure]
      · by_cases one : config.effectiveMirrors = 1
        · rw [one] at few divides
          simp only [Int.reduceAdd] at divides
          simp [few, isRaid10, divides, one, throw, throwThe, MonadExceptOf.throw,
            Bind.bind, Except.bind]
        · simp [few, isRaid10, divides, one, throw, throwThe, MonadExceptOf.throw]
    · simp [few, enough, isRaid10, pure, Except.pure]

/-- A device class that the webhook accepts has the least number of devices. -/
theorem leastDevices_le_of_verified
    {deviceClass : DeviceClass}
    (verified : Webhook.verifyRAIDConfigOf deviceClass config = .ok ()) :
    config.leastDevices ≤ Webhook.deviceCount deviceClass := by
  simp only [Webhook.verifyRAIDConfigOf, Except.bind_eq_ok_iff, failIf_eq_ok_iff,
    decide_eq_false_iff_not, Int.not_lt] at verified
  obtain ⟨_, _, _, _, _, _, _, _, _, _, _, _, _, enough, _⟩ := verified
  exact enough

/-- If the least number has wrapped around, no device at all is accepted. -/
theorem accepted_zero_of_overflow
    (overflow : config.leastDevices ≤ 0) :
    validateRAIDDeviceCount config 0 = .ok () :=
  validateRAIDDeviceCount_eq_ok_iff.mpr ⟨by simpa using overflow, fun _ => by simp⟩

/-- Without the condition too few devices are accepted. -/
theorem RAIDConfig.InSchema.exists_tooFew
    (inSchema : config.InSchema)
    (inexact : ¬config.Exact) :
    ∃ count : Nat, validateRAIDDeviceCount config count = .ok () ∧
      (count : Int) < config.devicesNeeded := by
  have mirrors := inSchema.effectiveMirrors
  have ofOverflow (overflow : config.leastDevices ≤ 0)
      (needed : 0 < config.devicesNeeded) :
      ∃ count : Nat, validateRAIDDeviceCount config count = .ok () ∧
        (count : Int) < config.devicesNeeded :=
    ⟨0, accepted_zero_of_overflow overflow, needed⟩
  unfold RAIDConfig.Exact at inexact
  unfold RAIDConfig.devicesNeeded RAIDConfig.leastDevices at ofOverflow
  unfold RAIDConfig.devicesNeeded
  cases type : config.type <;>
    simp only [type, RAIDType.minDeviceCount] at inexact ofOverflow ⊢
  · exact ofOverflow (wrapInt64_nonpos (by omega) (by omega)) (by omega)
  · have stripes := inSchema.stripesOr (Int.le_refl 2) (by decide)
    exact ofOverflow (wrapInt64_nonpos (by omega) (by omega)) (by omega)
  · have stripes := inSchema.stripesOr (Int.le_refl 2) (by decide)
    exact ofOverflow (wrapInt64_nonpos (by omega) (by omega)) (by omega)
  · have stripes := inSchema.stripesOr (by decide : (2 : Int) ≤ 3) (by decide)
    by_cases two : config.stripes.getD 3 = 2
    · -- Two data stripes are enough for the validators and not for `lvcreate`.
      refine ⟨4, validateRAIDDeviceCount_eq_ok_iff.mpr ⟨?_, by simp [type]⟩, by omega⟩
      simp only [RAIDConfig.leastDevices, RAIDType.minDeviceCount, type, two]
      decide
    · exact ofOverflow (wrapInt64_nonpos (by omega) (by omega)) (by omega)
  · have stripes := inSchema.stripesOr (Int.le_refl 2) (by decide)
    by_cases fits : config.effectiveMirrors < 2 ^ 62 - 1
    · -- The stripes are not counted: two copies of each stripe are enough.
      have copies : wrapInt64 (config.effectiveMirrors + 1) =
          config.effectiveMirrors + 1 := wrapInt64_of_lt (by omega) (by omega)
      obtain ⟨count, isCount⟩ := Int.eq_ofNat_of_zero_le
        (by omega : 0 ≤ 2 * (config.effectiveMirrors + 1))
      refine ⟨count, validateRAIDDeviceCount_eq_ok_iff.mpr ⟨?_, fun _ => ?_⟩, ?_⟩
      · simp only [RAIDConfig.leastDevices, RAIDType.minDeviceCount, type, copies]
        rw [wrapInt64_of_lt (by omega) (by omega)]
        exact Int.le_of_eq isCount
      · rw [copies, ← isCount]
        exact Int.mul_tmod_left ..
      · have three : 3 ≤ config.stripes.getD 2 := by omega
        have product : 3 * (config.effectiveMirrors + 1) ≤
            config.stripes.getD 2 * (config.effectiveMirrors + 1) :=
          Int.mul_le_mul_of_nonneg_right three (by omega)
        omega
    · refine ofOverflow ?_ (by omega)
      by_cases last : config.effectiveMirrors = 2 ^ 63 - 1
      · rw [last]
        decide
      · have copies : wrapInt64 (config.effectiveMirrors + 1) =
            config.effectiveMirrors + 1 := wrapInt64_of_lt (by omega) (by omega)
        rw [copies]
        exact wrapInt64_nonpos (by omega) (by omega)

end

/-- Every device class and every count that is accepted with a configuration has
the devices `lvcreate` needs. -/
structure RAIDConfig.EnoughDevices (config : RAIDConfig) : Prop where
  webhook : ∀ l : LVMCluster, Webhook.verifyRAIDConfig l = .ok () →
    ∀ deviceClass ∈ l.spec.deviceClasses, deviceClass.raidConfig = some config →
      config.devicesNeeded ≤ Webhook.deviceCount deviceClass
  vgManager : ∀ count : Nat, validateRAIDDeviceCount config count = .ok () →
    config.devicesNeeded ≤ count

/-- The validators ask for enough devices exactly when nothing overflows, `raid6`
has at least three data stripes and `raid10` has two. -/
theorem enoughDevices_iff
    (config : RAIDConfig)
    (inSchema : config.InSchema) :
    config.EnoughDevices ↔ config.Exact := by
  constructor
  · intro enough
    by_contra inexact
    obtain ⟨count, accepted, few⟩ := inSchema.exists_tooFew inexact
    exact absurd (enough.vgManager count accepted) (Int.not_le.mpr few)
  · intro exact
    have needed := inSchema.devicesNeeded_eq exact
    refine ⟨fun l verified deviceClass member isConfig => ?_, fun count accepted => ?_⟩
    · have passed := Except.forM_eq_ok_iff.mp verified deviceClass member
      rw [isConfig] at passed
      rw [needed]
      exact leastDevices_le_of_verified passed
    · rw [needed]
      exact (validateRAIDDeviceCount_eq_ok_iff.mp accepted).1

/-- A configuration with numbers in the range of the schema. -/
theorem RAIDConfig.inSchema_of_small
    {config : RAIDConfig}
    (mirrors : config.mirrors.all fun mirrors => 1 ≤ mirrors && mirrors < 2 ^ 63)
    (stripes : config.stripes.all fun stripes => 2 ≤ stripes && stripes < 2 ^ 63) :
    config.InSchema := by
  simp only [Option.all_eq_true, Bool.and_eq_true, decide_eq_true_eq] at mirrors stripes
  exact ⟨mirrors, stripes⟩

theorem enoughDevices_iff_raid6 :
    ({ type := .raid6 : RAIDConfig}).EnoughDevices :=
  (enoughDevices_iff { type := .raid6 }
    (RAIDConfig.inSchema_of_small rfl rfl)).mpr (by decide)

/-- Three stripes with two copies each are accepted on four devices. -/
theorem tooFewDevices :
    ¬∀ config : RAIDConfig, config.InSchema → config.EnoughDevices := by
  intro always
  have enough := (always { type := .raid10, stripes := some 3 }
    (RAIDConfig.inSchema_of_small rfl rfl)).vgManager 4 (by decide)
  exact absurd enough (by decide)

end Lvms
