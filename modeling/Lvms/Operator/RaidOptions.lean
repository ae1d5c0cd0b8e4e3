import Lvms.Operator.RaidGeometry
import Mathlib

/-!
# The options of a RAID volume

The geometry of a RAID class reaches `lvcreate` as a list of texts, in which the size
of a stripe is counted in KiB. Reading the list back shows which configurations
arrive as they were given. That a printed number is read back is a lemma of the standard
library that only the whole of Mathlib imports.
-/

namespace Lvms

open Interaction

/-! ## Reading options -/

/-- The geometry that options describe; the size of a stripe is in bytes. -/
structure RAIDGeometry where
  type : Option RAIDType := none
  mirrors : Option Int := none
  stripes : Option Int := none
  stripeSize : Option Int := none
  deriving DecidableEq, Repr

/-- The RAID level with a name. -/
def readRAIDType (text : String) : Option RAIDType :=
  [RAIDType.raid1, .raid4, .raid5, .raid6, .raid10].find? (·.string == text)

/-- A size with the unit `k`, in bytes. -/
def readKibibytes (text : String) : Option Int :=
  match text.toList.getLast? with
  | some 'k' => (String.ofList text.toList.dropLast).toInt?.map (· * 1024)
  | _ => none

/-- Read the value of one option. -/
def readOption (option value : String) (geometry : RAIDGeometry) : Option RAIDGeometry :=
  if option = "--type" then
    (readRAIDType value).map fun type => { geometry with type := some type }
  else if option = "-m" then
    value.toInt?.map fun mirrors => { geometry with mirrors := some mirrors }
  else if option = "--stripes" then
    value.toInt?.map fun stripes => { geometry with stripes := some stripes }
  else if option = "--stripesize" then
    (readKibibytes value).map fun size => { geometry with stripeSize := some size }
  else none

/-- Read options as `lvcreate` does, each with its value. -/
def readOptions (geometry : RAIDGeometry) : List String → Option RAIDGeometry
  | [] => some geometry
  | [_] => none
  | option :: value :: rest =>
      (readOption option value geometry).bind fun geometry => readOptions geometry rest

/-! ## Reading printed values -/

theorem readRAIDType_string (type : RAIDType) : readRAIDType type.string = some type := by
  cases type <;> decide

theorem readKibibytes_repr (number : Int) :
    readKibibytes (number.repr ++ "k") = some (number * 1024) := by
  simp [readKibibytes, Int.toInt?_repr]

/-! ## Reading the options of a configuration -/

/-- The geometry of a configuration: the mirrors are those of mirrored levels. -/
def RAIDConfig.geometry (config : RAIDConfig) : RAIDGeometry where
  type := some config.type
  mirrors :=
    match config.type with
    | .raid1 | .raid10 => some config.effectiveMirrors
    | .raid4 | .raid5 | .raid6 => none
  stripes := config.stripes
  stripeSize := config.stripeSize.map Quantity.value

/-- Whole KiB of a size, in bytes. -/
def wholeKibibytes (size : Quantity) : Int :=
  size.value.tdiv 1024 * 1024

theorem readOption_stripes (stripes : Int) (geometry : RAIDGeometry) :
    readOption "--stripes" stripes.repr geometry =
      some { geometry with stripes := some stripes } := by
  simp [readOption, Int.toInt?_repr]

theorem readOption_stripeSize (kibibytes : Int) (geometry : RAIDGeometry) :
    readOption "--stripesize" (kibibytes.repr ++ "k") geometry =
      some { geometry with stripeSize := some (kibibytes * 1024) } := by
  simp [readOption, readKibibytes_repr]

theorem readOptions_stripeOptions (config : RAIDConfig) (geometry : RAIDGeometry) :
    readOptions geometry (stripeOptions config) = some { geometry with
      stripes := config.stripes <|> geometry.stripes
      stripeSize := config.stripeSize.map wholeKibibytes <|> geometry.stripeSize } := by
  unfold stripeOptions
  cases config.stripes <;> cases config.stripeSize <;>
    simp [readOptions, readOption_stripes, readOption_stripeSize, wholeKibibytes]

section Accepted

variable {deviceClass : DeviceClass} {config : RAIDConfig}

/-- A configuration that the webhook accepts has no stripes at `raid1`. -/
theorem unstriped_of_verified
    (verified : Webhook.verifyRAIDConfigOf deviceClass config = .ok ())
    (isRaid1 : config.type = .raid1) :
    config.stripes = none ∧ config.stripeSize = none := by
  simp only [Webhook.verifyRAIDConfigOf, Except.bind_eq_ok_iff, failIf_eq_ok_iff]
    at verified
  obtain ⟨_, _, _, _, _, unstriped, _, unsized, _⟩ := verified
  simpa [isRaid1] using And.intro unstriped unsized

/-- A configuration that the webhook accepts has a power of two as the size of a
stripe. -/
theorem powerOf2_of_verified
    (verified : Webhook.verifyRAIDConfigOf deviceClass config = .ok ())
    {size : Quantity}
    (isSize : config.stripeSize = some size) :
    Webhook.isNoPowerOf2 size.value = false := by
  simp only [Webhook.verifyRAIDConfigOf, Except.bind_eq_ok_iff, failIf_eq_ok_iff]
    at verified
  obtain ⟨_, _, _, _, _, _, _, _, _, isPower, _⟩ := verified
  simpa [isSize] using isPower

/-- `lvcreate` gets the geometry of an accepted configuration, with the size of a
stripe in whole KiB. -/
theorem readOptions_of_verified
    (verified : Webhook.verifyRAIDConfigOf deviceClass config = .ok ()) :
    readOptions {} (buildRAIDLVCreateOptions config) = some { config.geometry with
      stripeSize := config.stripeSize.map wholeKibibytes } := by
  have readsType (rest : List String) :
      readOptions {} ("--type" :: config.type.string :: rest) =
        readOptions { type := some config.type } rest := by
    simp [readOptions, readOption, readRAIDType_string]
  have readsMirrors (geometry : RAIDGeometry) (rest : List String) :
      readOptions geometry ("-m" :: config.effectiveMirrors.repr :: rest) =
        readOptions { geometry with mirrors := some config.effectiveMirrors } rest := by
    simp [readOptions, readOption, Int.toInt?_repr]
  unfold buildRAIDLVCreateOptions
  simp only [List.cons_append, List.nil_append]
  rw [readsType]
  cases isType : config.type with
  | raid1 =>
      obtain ⟨unstriped, unsized⟩ := unstriped_of_verified verified isType
      simp [readsMirrors, RAIDConfig.geometry, isType, unstriped, unsized]
      rfl
  | raid10 =>
      simp [readsMirrors, readOptions_stripeOptions, RAIDConfig.geometry, isType]
  | raid4 | raid5 | raid6 =>
      simp [readOptions_stripeOptions, RAIDConfig.geometry, isType]

/-- The bit trick of the webhook finds the powers of two. -/
theorem isNoPowerOf2_eq_false_iff {value : Int} :
    Webhook.isNoPowerOf2 value = false ↔ 0 < value ∧ value.toNat.isPowerOfTwo := by
  simp only [Webhook.isNoPowerOf2, Bool.or_eq_false_iff, decide_eq_false_iff_not,
    bne_eq_false_iff_eq, Int.not_le]
  refine and_congr_right fun positive => ?_
  exact Nat.and_sub_one_eq_zero_iff_isPowerOfTwo (by omega)

/-- A power of two is a whole number of KiB exactly if it is at least one. -/
theorem wholeKibibytes_eq_iff
    {size : Quantity}
    (isPower : Webhook.isNoPowerOf2 size.value = false) :
    wholeKibibytes size = size.value ↔ 1024 ≤ size.value := by
  obtain ⟨positive, exponent, isExponent⟩ := isNoPowerOf2_eq_false_iff.mp isPower
  have isPower : size.value = ((2 ^ exponent : Nat) : Int) := by
    rw [← isExponent]
    omega
  unfold wholeKibibytes
  constructor
  · intro whole
    omega
  · intro enough
    have large : 2 ^ 10 ≤ 2 ^ exponent := by omega
    have divides : 2 ^ 10 ∣ 2 ^ exponent :=
      Nat.pow_dvd_pow 2 ((Nat.pow_le_pow_iff_right (by decide)).mp large)
    rw [isPower]
    exact Int.tdiv_mul_cancel (Int.natCast_dvd_natCast.mpr divides)

/-- In whole KiB nothing is lost of large stripes. -/
theorem whole_of_large
    (verified : Webhook.verifyRAIDConfigOf deviceClass config = .ok ())
    (large : ∀ size ∈ config.stripeSize, 1024 ≤ size.value) :
    { config.geometry with stripeSize := config.stripeSize.map wholeKibibytes } =
      config.geometry := by
  cases isSize : config.stripeSize with
  | none => simp [RAIDConfig.geometry, isSize]
  | some size =>
      have whole := (wholeKibibytes_eq_iff (powerOf2_of_verified verified isSize)).mpr
        (large size isSize)
      simp [RAIDConfig.geometry, isSize, whole]

/-- The options of a configuration carry its geometry: reading them gives it back, and
no accepted configuration with another geometry has the same options. -/
structure CarriesGeometry (config : RAIDConfig) : Prop where
  readBack : readOptions {} (buildRAIDLVCreateOptions config) = some config.geometry
  injective : ∀ otherClass other, Webhook.verifyRAIDConfigOf otherClass other = .ok () →
    buildRAIDLVCreateOptions other = buildRAIDLVCreateOptions config →
    other.geometry = config.geometry

/-- The options of an accepted configuration carry its geometry exactly if its stripes
have at least one KiB. -/
theorem carriesGeometry_iff
    (verified : Webhook.verifyRAIDConfigOf deviceClass config = .ok ()) :
    CarriesGeometry config ↔ ∀ size ∈ config.stripeSize, 1024 ≤ size.value := by
  have reads := readOptions_of_verified verified
  constructor
  · intro carries size isSize
    rw [← wholeKibibytes_eq_iff (powerOf2_of_verified verified isSize)]
    have same := Option.some.inj (reads.symm.trans carries.readBack)
    simpa [RAIDConfig.geometry, Option.mem_def.mp isSize] using congrArg
      RAIDGeometry.stripeSize same
  · intro large
    have whole := whole_of_large verified large
    refine ⟨by rw [reads, whole], fun otherClass other isVerified sameOptions => ?_⟩
    have readsOther := readOptions_of_verified isVerified
    rw [sameOptions, reads, whole, Option.some.injEq] at readsOther
    -- The stripes of the other configuration are as large.
    have largeToo : ∀ size ∈ other.stripeSize, 1024 ≤ size.value := by
      intro size isSize
      have sameSize := congrArg RAIDGeometry.stripeSize readsOther
      simp only [RAIDConfig.geometry, Option.mem_def.mp isSize, Option.map_some,
        Option.map_eq_some_iff] at sameSize
      obtain ⟨own, isOwn, sameSize⟩ := sameSize
      have enough := large own isOwn
      have positive := (isNoPowerOf2_eq_false_iff.mp (powerOf2_of_verified isVerified isSize)).1
      rw [sameSize, wholeKibibytes, Int.tdiv_eq_ediv_of_nonneg positive.le] at enough
      omega
    rw [readsOther, whole_of_large isVerified largeToo]

end Accepted

/-- A `raid5` configuration with stripes of some bytes. -/
def stripedConfig (bytes : Int) : RAIDConfig where
  type := .raid5
  stripeSize := some { nano := bytes * 1000000000 }

/-- A device class with three devices. -/
def stripedClass : DeviceClass where
  name := "vg1"
  deviceSelector := some { paths := ["/dev/sda", "/dev/sdb", "/dev/sdc"] }

theorem carriesGeometry_iff_striped :
    CarriesGeometry (stripedConfig 65536) ↔
      ∀ size ∈ (stripedConfig 65536).stripeSize, 1024 ≤ size.value :=
  carriesGeometry_iff (show Webhook.verifyRAIDConfigOf stripedClass _ = .ok () by
    decide +kernel)

/-- Two accepted configurations with different small stripes have the same options, with
stripes of nothing. -/
theorem small_stripes_lost :
    Webhook.verifyRAIDConfigOf stripedClass (stripedConfig 512) = .ok () ∧
      Webhook.verifyRAIDConfigOf stripedClass (stripedConfig 256) = .ok () ∧
      buildRAIDLVCreateOptions (stripedConfig 512) =
        ["--type", "raid5", "--stripesize", "0k"] ∧
      buildRAIDLVCreateOptions (stripedConfig 256) =
        ["--type", "raid5", "--stripesize", "0k"] ∧
      (stripedConfig 512).geometry.stripeSize = some 512 ∧
      (stripedConfig 256).geometry.stripeSize = some 256 := by
  decide +kernel

end Lvms
