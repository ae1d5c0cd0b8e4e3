import Lvms.VgManager.Filtering

/-!
# The file system filter

Decisions about devices compare the names that the symlink resolver gives. Here the
resolver is a partial function: a path leads to a device, or it cannot be resolved.
For such a resolver the documented decision of the file system filter is a table, and
the filter follows it except for physical volumes that cannot be resolved or are full.
-/

namespace Lvms

open Interaction

/-! ## Partial resolvers -/

/-- The host follows a link whenever the path leads somewhere. -/
def Honest (node : String) : Event sig World → Prop
  | ⟨before, .query (.evalSymlinks path), response⟩ =>
      response = (before.host node).report (.evalSymlinks path)
  | _ => True

/-- A host on which nothing fails is honest. -/
theorem honest_of_calm
    {node : String}
    (world : World)
    (request : Request) :
    Honest node ((environment node).event {} world request) := by
  unfold Honest
  split
  · rename_i before path response same
    cases same
    rfl
  · trivial

/-- The resolver of a node is a partial function: paths lead where it says, and what
is cached is what it says. -/
structure ResolverIs
    (node : String)
    (resolver : String → Option String)
    (world : World) : Prop where
  links : ∀ path, (world.host node).symlinks path = resolver path
  cached : ∀ path target, (world.memory node).resolved.get? path = some target →
    resolver path = some target

/-- The error of `filepath.EvalSymlinks` for a path that leads nowhere. -/
def unresolvable (path : String) : GoError :=
  .new ("lstat " ++ path ++ ": no such file or directory")

/-- What a resolver answers for a path. -/
def resolution (resolver : String → Option String) (path : String) :
    Except GoError String :=
  match resolver path with
  | some target => .ok target
  | none => .error (unresolvable path)

section Resolver

variable {node : String} {resolver : String → Option String} {world : World}

/-- What is cached stays right when a resolved path is stored. -/
theorem ResolverIs.stored
    {path target : String}
    (isResolver : ResolverIs node resolver world)
    (leads : resolver path = some target) :
    ResolverIs node resolver (world.setMemory node { world.memory node with
      resolved := (world.memory node).resolved.set path target }) := by
  refine ⟨isResolver.links, fun other found isCached => ?_⟩
  rw [World.setMemory_memory] at isCached
  by_cases same : other = path
  · rw [same, GoMap.get?_set_self] at isCached
    rw [same, leads, isCached]
  · rw [GoMap.get?_set_other _ _ same] at isCached
    exact isResolver.cached other found isCached

theorem resolve_honest
    (path : String)
    (isResolver : ResolverIs node resolver world) :
    wp (environment node) (.assuming (Honest node)) (resolve path).run
      (fun result after => ResolverIs node resolver after ∧
        result = resolution resolver path) world := by
  simp only [resolve, wp.run_bind_iff, wp.run_lift_iff]
  refine wp_call_iff.mpr fun _ _ => ⟨by simp, ?_⟩
  rintro _ ⟨⟩
  simp only [World.respond]
  cases known : (world.memory node).resolved.get? path with
  | some target =>
      refine ⟨isResolver, ?_⟩
      rw [resolution, isResolver.cached path target known]
  | none =>
      simp only [wp.run_bind_iff, wp.run_lift_iff]
      refine wp_query_iff.mpr fun choice honest => ?_
      replace honest : (world.host node).answer choice (.evalSymlinks path) =
          (world.host node).report (.evalSymlinks path) := honest
      rw [honest, Host.report, isResolver.links]
      cases leads : resolver path with
      | none =>
          refine ⟨?_, by simp⟩
          rintro _ ⟨⟩
          exact ⟨isResolver, by rw [resolution, leads]; rfl⟩
      | some target =>
          refine ⟨by simp, ?_⟩
          rintro _ ⟨⟩
          refine wp_call_iff.mpr fun _ _ => ⟨by simp, ?_⟩
          rintro _ ⟨⟩
          exact ⟨isResolver.stored leads, by rw [resolution, leads]⟩

end Resolver

/-! ## The file system filter -/

/-- What a filter says about a device. -/
inductive SignatureVerdict
  | passes | alreadySetUp | rejected
  deriving DecidableEq, Repr

/-- The verdict behind the result of the filter. -/
def SignatureVerdict.of : Except GoError Unit → SignatureVerdict
  | .ok () => .passes
  | .error error =>
      if error.is errDeviceAlreadySetupCorrectly then .alreadySetUp else .rejected

/-- The physical volume whose name leads to a device. -/
def matchingPV
    (resolver : String → Option String)
    (kname : String)
    (pvs : List PhysicalVolume) : Option PhysicalVolume :=
  pvs.find? fun pv => resolver pv.pvName == some kname

/-- The documented decision: the verdict about a device, from the physical volume that
it holds and the free bytes of that volume. -/
def signatureTable
    (vgName : String)
    (free : PhysicalVolume → Nat)
    (device : BlockDevice)
    (pv? : Option PhysicalVolume) : SignatureVerdict :=
  if device.fsType = "" then .passes
  else if device.fsType = "LVM2_member" then
    match pv? with
    | none => .passes
    | some pv =>
        if pv.vgName = vgName then .alreadySetUp
        else if pv.vgName = "" ∧ free pv ≠ 0 ∧ !device.hasChildren then .passes
        else .rejected
  else .rejected

/-- A physical volume that cannot be resolved stands before the one that leads to the
device. -/
def Blocked
    (resolver : String → Option String)
    (kname : String) : List PhysicalVolume → Prop
  | [] => False
  | pv :: rest =>
      match resolver pv.pvName with
      | none => True
      | some target => target ≠ kname ∧ Blocked resolver kname rest

/-- When the filter decides as documented: a volume that cannot be resolved does no
harm only if the device is rejected anyway, and otherwise the volume that is in no
volume group must have free space. -/
def SignaturesReadable
    (resolver : String → Option String)
    (free : PhysicalVolume → Nat)
    (options : FilterOptions)
    (device : BlockDevice) : Prop :=
  device.fsType = "LVM2_member" →
    (Blocked resolver device.kname options.pvs →
      signatureTable options.vg.name free device
        (matchingPV resolver device.kname options.pvs) = .rejected) ∧
    (¬ Blocked resolver device.kname options.pvs →
      ∀ pv, matchingPV resolver device.kname options.pvs = some pv →
        pv.vgName = "" → options.vg.name ≠ "" → device.hasChildren = false →
        free pv ≠ 0)

section Signatures

variable {node : String} {resolver : String → Option String} {world : World}
variable {options : FilterOptions} {device : BlockDevice}

/-- A search ends with an error at a volume that cannot be resolved, or with the
volume that leads to the device. -/
theorem findPV_honest
    (kname : String)
    (pvs : List PhysicalVolume)
    (isResolver : ResolverIs node resolver world) :
    wp (environment node) (.assuming (Honest node)) (findPV kname pvs).run
      (fun result after => ResolverIs node resolver after ∧
        (Blocked resolver kname pvs → ∃ text path,
          result = .error (GoError.wrapped text (unresolvable path))) ∧
        (¬ Blocked resolver kname pvs →
          result = .ok (matchingPV resolver kname pvs))) world := by
  induction pvs generalizing world with
  | nil => exact ⟨isResolver, False.elim, fun _ => rfl⟩
  | cons pv rest inductionHypothesis =>
      simp only [findPV, wp.run_bind_iff, wp.run_mapError_iff]
      refine (resolve_honest pv.pvName isResolver).mono ?_
      rintro result after ⟨still, rfl⟩
      cases leads : resolver pv.pvName with
      | none =>
          refine ⟨fun error failed => ⟨still, fun _ => ?_, ?_⟩, ?_⟩
          · simp only [resolution, leads, Except.mapError, Except.error.injEq] at failed
            exact ⟨_, _, by rw [← failed]⟩
          · simp [Blocked, leads]
          · simp [resolution, leads, Except.mapError]
      | some target =>
          refine ⟨by simp [resolution, leads, Except.mapError], ?_⟩
          intro value isValue
          simp only [resolution, leads, Except.mapError, Except.ok.injEq] at isValue
          subst isValue
          split
          · rename_i same
            refine ⟨still, by simp [Blocked, leads, same], fun _ => ?_⟩
            simp [matchingPV, leads, same]
          · rename_i different
            refine (inductionHypothesis still).mono ?_
            rintro result last ⟨stillAgain, blocked, found⟩
            refine ⟨stillAgain, fun isBlocked => blocked ?_, fun free => ?_⟩
            · simpa [Blocked, leads, different] using isBlocked
            · rw [found (by simpa [Blocked, leads, different] using free), matchingPV,
                matchingPV, List.find?_cons_of_neg]
              simpa [leads] using different

/-- A text with a character that `ErrDeviceAlreadySetupCorrectly` does not have is
another error. -/
theorem new_is_not_alreadySetUp
    {text : String}
    {char : Char}
    (member : char ∈ text.toList)
    (other : GoError.error errDeviceAlreadySetupCorrectly |>.toList.contains char |> not) :
    (GoError.new text).is errDeviceAlreadySetupCorrectly = false := by
  change (GoError.new text == errDeviceAlreadySetupCorrectly) = false
  rw [beq_eq_false_iff_ne]
  intro same
  rw [← same] at other
  simp [GoError.error, member] at other

/-- An error about a path that leads nowhere is a rejection. -/
theorem rejected_of_unresolvable (text path : String) :
    SignatureVerdict.of (.error (GoError.wrapped text (unresolvable path))) =
      .rejected := by
  have inner : (unresolvable path).is errDeviceAlreadySetupCorrectly = false := by
    have colon : ':' ∈ ("lstat " ++ path ++ ": no such file or directory").toList := by
      simp [String.toList_append]
    exact new_is_not_alreadySetUp colon (by decide)
  have outer : (GoError.wrapped text (unresolvable path)).is
      errDeviceAlreadySetupCorrectly = false := by
    rw [GoError.wrapped, GoError.is, inner, Bool.or_false]
    rfl
  simp [SignatureVerdict.of, outer]

/-- A message with a bracket is a rejection. -/
theorem rejected_of_bracket
    {text : String}
    (member : '(' ∈ text.toList) :
    SignatureVerdict.of (.error (.new text)) = .rejected := by
  simp [SignatureVerdict.of, new_is_not_alreadySetUp member (by decide)]

/-- A decimal number does not end in a unit. -/
theorem decimal_ne_zeroG (bytes : Nat) : toString bytes ≠ "0G" := by
  intro same
  have digits : ∀ char ∈ (toString bytes).toList, char.isDigit = true := by
    intro char member
    rw [Nat.toString_eq_repr, Nat.toList_repr] at member
    exact Nat.isDigit_of_mem_toDigits (by decide) (by decide) member
  rw [same] at digits
  exact absurd (digits 'G' (by decide)) (by decide)

/-- The filter decides by the table exactly on readable signatures. -/
theorem onlyValidFilesystemSignatures_honest
    (free : PhysicalVolume → Nat)
    (decimal : ∀ pv ∈ options.pvs, pv.pvFree = toString (free pv))
    (isResolver : ResolverIs node resolver world) :
    wp (environment node) (.assuming (Honest node))
      (onlyValidFilesystemSignatures options device).run
      (fun result _ => SignatureVerdict.of result =
          signatureTable options.vg.name free device
            (matchingPV resolver device.kname options.pvs) ↔
        SignaturesReadable resolver free options device) world := by
  dsimp only [onlyValidFilesystemSignatures]
  split
  · rename_i unsigned
    simp [SignaturesReadable, signatureTable, unsigned, SignatureVerdict.of]
  · rename_i signed
    split
    · rename_i isMember
      rw [wp.run_bind_iff]
      refine (findPV_honest _ _ isResolver).mono ?_
      rintro result after ⟨-, blocked, found⟩
      by_cases isBlocked : Blocked resolver device.kname options.pvs
      · obtain ⟨text, path, rfl⟩ := blocked isBlocked
        refine ⟨?_, by simp⟩
        rintro _ ⟨⟩
        rw [rejected_of_unresolvable, eq_comm]
        simp [SignaturesReadable, isMember, isBlocked]
      · obtain rfl := found isBlocked
        refine ⟨by simp, ?_⟩
        rintro _ ⟨⟩
        have readable : SignaturesReadable resolver free options device ↔
            ∀ pv, matchingPV resolver device.kname options.pvs = some pv →
              pv.vgName = "" → options.vg.name ≠ "" → device.hasChildren = false →
              free pv ≠ 0 := by
          simp [SignaturesReadable, isMember, isBlocked]
        rw [readable]
        cases matching : matchingPV resolver device.kname options.pvs with
        | none => simp [signatureTable, isMember, SignatureVerdict.of]
        | some pv =>
            have notZeroG : pv.pvFree ≠ "0G" := by
              rw [decimal pv (List.mem_of_find?_eq_some matching)]
              exact decimal_ne_zeroG _
            dsimp only
            split
            · rename_i same
              rw [wp.run_throw_bind_iff, SignatureVerdict.of]
              simp only [GoError.wrapped, GoError.is, GoError.is_self, Bool.or_true,
                ↓reduceIte, signatureTable, isMember, same]
              simp +contextual [same]
            · rename_i different
              split
              · rename_i grouped
                rw [wp.run_throw_bind_iff, rejected_of_bracket (by simp [String.toList_append])]
                simp [signatureTable, isMember, different, grouped]
              · rename_i ungrouped
                split
                · rename_i leaf
                  simp_all [signatureTable, SignatureVerdict.of]
                · rename_i parent
                  rw [wp.run_throw_iff, rejected_of_bracket (by simp [String.toList_append])]
                  simp_all [signatureTable]
    · rename_i other
      rw [wp.run_throw_iff, rejected_of_bracket (by simp [String.toList_append])]
      simp [SignaturesReadable, signatureTable, signed, other]

/-- For every device, volume group, list of physical volumes with sizes in bytes and
partial resolver, the filter decides by the table exactly on readable signatures. -/
theorem signatureVerdict_eq_table_iff
    {free : PhysicalVolume → Nat}
    {events : List (Event sig World)}
    {result : Except GoError Unit}
    {after : World}
    (decimal : ∀ pv ∈ options.pvs, pv.pvFree = toString (free pv))
    (isResolver : ResolverIs node resolver world)
    (honest : ∀ event ∈ events, Honest node event)
    (ran : Exec (environment node) (onlyValidFilesystemSignatures options device).run
      world events result after) :
    SignatureVerdict.of result =
        signatureTable options.vg.name free device
          (matchingPV resolver device.kname options.pvs) ↔
      SignaturesReadable resolver free options device :=
  (wp.sound (onlyValidFilesystemSignatures_honest free decimal isResolver) ran honest).2

end Signatures

/-- Every path leads to itself, except the placeholder of a missing device. -/
def plainResolver (path : String) : Option String :=
  if path = "[unknown]" then none else some path

/-- A host with such paths. -/
def plainLinks : World :=
  { World.empty with host := fun _ => { symlinks := plainResolver } }

theorem plainLinks_resolver (node : String) :
    ResolverIs node plainResolver plainLinks :=
  ⟨fun _ => rfl, by simp [plainLinks, World.empty, GoMap.get?]⟩

/-- A disk with the label of a physical volume. -/
def labelledDisk : BlockDevice :=
  .mk "/dev/sdb" "/dev/sdb" "disk" "" "LVM2_member" false "" []

/-- The filter for the volume group vg1, with given physical volumes. -/
def signatureOptions (pvs : List PhysicalVolume) : FilterOptions where
  vg := { metadata := { name := "vg1" }, spec := {} }
  bdi := []
  pvs := pvs

/-- The filter on the labelled disk. -/
def signatureRun (pvs : List PhysicalVolume) :
    List (Event sig World) × Except GoError Unit × World :=
  Program.run (environment "node") (fun _ _ => {})
    (onlyValidFilesystemSignatures (signatureOptions pvs) labelledDisk).run plainLinks

theorem signatureRun_honest (pvs : List PhysicalVolume) :
    ∀ event ∈ (signatureRun pvs).1, Honest "node" event :=
  Program.run_events _ _ _ (fun world request => honest_of_calm world request) _ _

/-- A volume of the disk itself with free space. -/
def freeVolume : PhysicalVolume :=
  { pvName := "/dev/sdb", pvFree := "1" }

theorem signatureVerdict_eq_table_iff_free :
    SignatureVerdict.of (signatureRun [freeVolume]).2.1 =
        signatureTable "vg1" (fun _ => 1) labelledDisk
          (matchingPV plainResolver "/dev/sdb" [freeVolume]) ↔
      SignaturesReadable plainResolver (fun _ => 1) (signatureOptions [freeVolume])
        labelledDisk :=
  signatureVerdict_eq_table_iff
    (fun _ member => by rw [List.mem_singleton.mp member]; rfl)
    (plainLinks_resolver _) (signatureRun_honest _) (Program.run_exec ..)

/-- A volume whose device is missing. -/
def missingVolume : PhysicalVolume :=
  { pvName := "[unknown]", pvFree := "0" }

/-- A volume of the disk itself without free space. -/
def fullVolume : PhysicalVolume :=
  { pvName := "/dev/sdb", pvFree := "0" }

/-- A missing device elsewhere makes the filter reject a disk that can be used, and a
disk without free space passes. -/
theorem signatureVerdict_ne_table :
    (∃ events result after,
      Exec (environment "node")
        (onlyValidFilesystemSignatures (signatureOptions [missingVolume])
          labelledDisk).run plainLinks events result after ∧
      (∀ event ∈ events, Honest "node" event) ∧
      SignatureVerdict.of result = .rejected ∧
      signatureTable "vg1" (fun _ => 0) labelledDisk
        (matchingPV plainResolver "/dev/sdb" [missingVolume]) = .passes) ∧
    ∃ events result after,
      Exec (environment "node")
        (onlyValidFilesystemSignatures (signatureOptions [fullVolume])
          labelledDisk).run plainLinks events result after ∧
      (∀ event ∈ events, Honest "node" event) ∧
      SignatureVerdict.of result = .passes ∧
      signatureTable "vg1" (fun _ => 0) labelledDisk
        (matchingPV plainResolver "/dev/sdb" [fullVolume]) = .rejected := by
  refine ⟨⟨_, (signatureRun [missingVolume]).2.1, _, Program.run_exec ..,
    signatureRun_honest _, ?_, ?_⟩, _, (signatureRun [fullVolume]).2.1, _,
    Program.run_exec .., signatureRun_honest _, ?_, ?_⟩ <;> decide +kernel

end Lvms
