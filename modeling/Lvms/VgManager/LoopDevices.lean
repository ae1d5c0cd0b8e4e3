import Lvms.VgManager.Merging
import Lvms.VgManager.Resume

/-!
# The check of loop devices

Whether a loop device is used by Kubernetes is found out with one call of `losetup` for
each kernel name. The answer travels through a map by kernel names to the filter
`usableDeviceType`. A call that fails counts as the answer that the device is usable.
-/

namespace Lvms

open Interaction

/-! ## Questions and answers -/

/-- A question to `losetup`, by the name of the device, and its answer. -/
def losetupAnswer :
    Event sig World → Option (String × Except GoError (List String))
  | ⟨_, .query (.losetup name), response⟩ => some (name, response)
  | _ => none

/-- The loop devices of a map, in the order of a range over it. -/
def loopDevices (flattened : GoMap BlockDevice) (order : List String) :
    List BlockDevice :=
  (order.filterMap flattened.get?).filter (·.type == "loop")

/-- The questions of a run of `blockDeviceInfos`, each with the device that it was asked
for. -/
def losetupAnswers (devices : List BlockDevice) :
    List (Event sig World) →
      List (BlockDevice × String × Except GoError (List String))
  | ⟨_, .mapOrder _, order⟩ :: rest =>
      (loopDevices (flattenBlockDevices [] devices) order).zip (rest.filterMap losetupAnswer)
  | _ => []

/-- The back file is one that Kubernetes has mounted into a pod. -/
def isPluginFile (backFile : String) : Bool :=
  stringsContains backFile "plugins/kubernetes.io"

/-- What `IsUsableLoopDev` makes of an answer. -/
def countsAsUsable : Except GoError (List String) → Bool
  | .error _ => true
  | .ok backFiles => !backFiles.any isPluginFile

/-- `losetup` was asked for the device and has named no file of Kubernetes. -/
def CheckedPositively
    (devices : List BlockDevice)
    (events : List (Event sig World))
    (device : BlockDevice) : Prop :=
  ∃ asked backFiles, (asked, asked.name, .ok backFiles) ∈ losetupAnswers devices events ∧
    asked.kname = device.kname ∧ ∀ backFile ∈ backFiles, isPluginFile backFile = false

/-- A question to `losetup` that has failed. -/
def losetupFails (event : Event sig World) : Bool :=
  (losetupAnswer event).any fun answer => !answer.2.isOk

/-! ## Maps that are filled in a loop -/

/-- A loop that enters items by their keys leaves the last one of each key. -/
theorem GoMap.get?_foldl_set
    {α β : Type}
    (key : β → String)
    (value : β → α)
    (items : List β)
    (entries : GoMap α)
    (name : String) :
    (items.foldl (fun entries item => entries.set (key item) (value item))
      entries).get? name =
      ((items.reverse.find? fun item => key item == name).map value).or
        (entries.get? name) := by
  induction items generalizing entries with
  | nil => simp
  | cons item rest inductionHypothesis =>
      rw [List.foldl_cons, inductionHypothesis, List.reverse_cons, List.find?_append]
      by_cases same : name = key item
      · subst same
        cases found : rest.reverse.find? fun other => key other == key item <;>
          simp [get?_set_self]
      · rw [get?_set_other _ _ same]
        simp [Ne.symm same]

/-- With different keys the loop leaves every item in the map. -/
theorem GoMap.get?_foldl_set_iff
    {α β : Type}
    (key : β → String)
    (value : β → α)
    {items : List β}
    (distinct : (items.map key).Nodup)
    {name : String}
    {found : α} :
    GoMap.get? (items.foldl (fun entries item => GoMap.set (key item) (value item) entries)
      []) name = some found ↔
      ∃ item ∈ items, key item = name ∧ value item = found := by
  have distinctToo : (items.reverse.map key).Nodup := by
    rw [List.map_reverse, List.nodup_reverse]
    exact distinct
  rw [get?_foldl_set key value]
  simp only [GoMap.get?, List.lookup_nil, Option.or_none, Option.map_eq_some_iff,
    find?_key_eq_some_iff distinctToo, List.mem_reverse, and_assoc]

/-- Devices of a subtree are entered under their kernel names. -/
theorem GoMap.Keyed.foldl_set
    {entries inner : GoMap BlockDevice}
    (keyed : entries.Keyed BlockDevice.kname)
    (named : ∀ entry ∈ inner, entry.2.kname = entry.1) :
    (inner.foldl (fun entries entry => entries.set entry.1 entry.2) entries).Keyed
      BlockDevice.kname := by
  induction inner generalizing entries with
  | nil => exact keyed
  | cons entry rest inductionHypothesis =>
      rw [List.forall_mem_cons] at named
      have entered := keyed.set entry.2
      rw [named.1] at entered
      exact inductionHypothesis entered named.2

mutual

theorem flattenBlockDevice_keyed
    {flattened : GoMap BlockDevice}
    (keyed : flattened.Keyed BlockDevice.kname) :
    (device : BlockDevice) →
    (flattenBlockDevice flattened device).Keyed BlockDevice.kname
  | .mk name kname type state fsType readOnly partLabel children => by
      rw [flattenBlockDevice]
      have entered := keyed.set
        (.mk name kname type state fsType readOnly partLabel children : BlockDevice)
      exact entered.foldl_set (flattenBlockDevices_keyed .empty children).named

theorem flattenBlockDevices_keyed
    {flattened : GoMap BlockDevice}
    (keyed : flattened.Keyed BlockDevice.kname) :
    (devices : List BlockDevice) →
    (flattenBlockDevices flattened devices).Keyed BlockDevice.kname
  | [] => keyed
  | device :: rest => flattenBlockDevices_keyed (flattenBlockDevice_keyed keyed device) rest

end

/-! ## Runs -/

section Runs

variable {node : String} {world after : World} {events : List (Event sig World)}
variable {devices : List BlockDevice} {bdi : GoMap Bool}

/-- One device is asked about. -/
theorem isUsableLoopDev_exec
    {device : BlockDevice}
    {answer : Bool × Option GoError}
    (ran : Exec (environment node) (isUsableLoopDev device) world events answer after) :
    ∃ response, events.filterMap losetupAnswer = [(device.name, response)] ∧
      answer.1 = countsAsUsable response := by
  obtain ⟨asking, response, _, later, asked, returned, rfl⟩ := Exec.bind_iff.mp ran
  have ends : later = [] ∧ answer.1 = countsAsUsable response := by
    cases response with
    | error error =>
        obtain ⟨silent, rfl, -⟩ := Exec.pure_iff.mp returned
        exact ⟨silent, rfl⟩
    | ok backFiles =>
        obtain ⟨silent, rfl, -⟩ := Exec.pure_iff.mp returned
        exact ⟨silent, rfl⟩
  obtain ⟨choice, rfl, rfl, -⟩ := exec_call_iff.mp asked
  refine ⟨_, ?_, ends.2⟩
  rw [ends.1]
  rfl

/-- The loop asks about every loop device once and enters what it makes of the
answers. -/
theorem collectInfos_exec
    {flattened : GoMap BlockDevice}
    {infos : GoMap Bool}
    {order : List String}
    (ran : Exec (environment node) (collectInfos flattened infos order) world events bdi
      after) :
    List.Forall₂ (fun device answer => answer.1 = device.name)
        (loopDevices flattened order) (events.filterMap losetupAnswer) ∧
      bdi = ((loopDevices flattened order).zip (events.filterMap losetupAnswer)).foldl
        (fun infos item => infos.set item.1.kname (countsAsUsable item.2.2)) infos := by
  induction order generalizing infos world events with
  | nil =>
      obtain ⟨rfl, rfl, -⟩ := Exec.pure_iff.mp ran
      exact ⟨.nil, rfl⟩
  | cons kname rest inductionHypothesis =>
      rw [collectInfos] at ran
      cases found : flattened.get? kname with
      | none =>
          simp only [found] at ran
          rw [loopDevices, List.filterMap_cons_none found]
          exact inductionHypothesis ran
      | some device =>
          simp only [found] at ran
          rw [loopDevices, List.filterMap_cons_some found]
          split at ran
          · rename_i isLoop
            obtain ⟨asking, answer, _, _, asked, continues, rfl⟩ := Exec.bind_iff.mp ran
            obtain ⟨response, asksOnce, isAnswer⟩ := isUsableLoopDev_exec asked
            obtain ⟨named, isInfos⟩ := inductionHypothesis continues
            rw [List.filter_cons_of_pos (by simpa using isLoop), List.filterMap_append, asksOnce]
            refine ⟨.cons rfl named, ?_⟩
            rw [isInfos, isAnswer]
            rfl
          · rename_i notLoop
            rw [List.filter_cons_of_neg (by simpa using notLoop)]
            exact inductionHypothesis ran

/-- The loop devices of a map have different kernel names. -/
theorem loopDevices_distinct
    {flattened : GoMap BlockDevice}
    {order : List String}
    (keyed : flattened.Keyed BlockDevice.kname)
    (permuted : order.Perm flattened.keys) :
    ((loopDevices flattened order).map BlockDevice.kname).Nodup := by
  have names : (order.filterMap flattened.get?).map BlockDevice.kname =
      order.filter fun kname => (flattened.get? kname).isSome := by
    rw [List.map_filterMap, ← List.filterMap_eq_filter]
    congr 1
    funext kname
    cases found : flattened.get? kname with
    | none => simp [Option.guard, found]
    | some device => simp [Option.guard, found, keyed.named_of_get? found]
  refine List.Nodup.sublist (List.filter_sublist.map _) ?_
  rw [names]
  exact (permuted.nodup_iff.mpr keyed.unique).filter _

/-- A run asks about loop devices of the forest, and a device counts as usable or not by
the answer for its kernel name. -/
theorem blockDeviceInfos_exec
    (ran : Exec (environment node) (blockDeviceInfos devices) world events bdi after) :
    (losetupAnswers devices events).map Prod.snd = events.filterMap losetupAnswer ∧
      (∀ item ∈ losetupAnswers devices events, item.1 ∈ allDevices devices ∧
        item.1.type = "loop" ∧ item.2.1 = item.1.name) ∧
      ((losetupAnswers devices events).map fun item => item.1.kname).Nodup ∧
      ∀ kname usable, bdi.get? kname = some usable ↔
        ∃ item ∈ losetupAnswers devices events,
          item.1.kname = kname ∧ countsAsUsable item.2.2 = usable := by
  obtain ⟨_, order, _, asking, ordered, collects, rfl⟩ := Exec.bind_iff.mp ran
  obtain ⟨permuted, -⟩ := mapOrder_perm ordered
  obtain ⟨choice, rfl, rfl, -⟩ := exec_call_iff.mp ordered
  obtain ⟨named, rfl⟩ := collectInfos_exec collects
  have keyed := flattenBlockDevices_keyed .empty devices
  have distinct : ((losetupAnswers devices ([(environment node).event choice world
      (.mapOrder (flattenBlockDevices [] devices).keys)] ++ asking)).map
        fun item => item.1.kname).Nodup := by
    have firsts := congrArg (List.map BlockDevice.kname)
      (List.map_fst_zip named.length_eq.le)
    rw [List.map_map] at firsts
    exact firsts.symm ▸ loopDevices_distinct keyed permuted
  refine ⟨List.map_snd_zip named.length_eq.ge, fun item member => ?_, distinct,
    fun _ _ => GoMap.get?_foldl_set_iff _ _ distinct⟩
  obtain ⟨isLoop, -⟩ := List.of_mem_zip member
  obtain ⟨isDevice, loop⟩ := List.mem_filter.mp isLoop
  obtain ⟨key, -, found⟩ := List.mem_filterMap.mp isDevice
  exact ⟨(flattenBlockDevices_mem [] _ _ (GoMap.mem_of_get? found)).resolve_right (by simp),
    by simpa using loop, List.forall₂_zip named member⟩

/-- A loop device that counts as usable passes the filter. -/
theorem usableDeviceType_passes
    {device : BlockDevice}
    {vg : LVMVolumeGroup}
    {pvs : List PhysicalVolume}
    (isLoop : device.type = "loop")
    (usable : bdi.get? device.kname = some true) :
    Exec (environment node) (usableDeviceType { vg, bdi, pvs } device).run world [] (.ok ())
      world := by
  simp only [usableDeviceType, isLoop, usable, Option.getD_some, Bool.not_true,
    Bool.false_eq_true, ↓reduceIte]
  exact Exec.run_pure_iff.mpr ⟨rfl, rfl, rfl⟩

/-- Loop devices are taken only after a positive check exactly if no question to
`losetup` fails. -/
theorem loopDevices_checked_iff
    (ran : Exec (environment node) (blockDeviceInfos devices) world events bdi after) :
    (∀ device ∈ allDevices devices, device.type = "loop" →
      ∀ vg pvs start filtering last,
        Exec (environment node) (usableDeviceType { vg, bdi, pvs } device).run start filtering
          (.ok ()) last →
        CheckedPositively devices events device) ↔
    ∀ event ∈ events, losetupFails event = false := by
  obtain ⟨answers, asked, distinct, isInfo⟩ := blockDeviceInfos_exec ran
  constructor
  · intro checked event member
    by_contra fails
    rw [Bool.not_eq_false, losetupFails, Option.any_eq_true] at fails
    obtain ⟨answer, isAnswer, notOk⟩ := fails
    have answered : answer ∈ events.filterMap losetupAnswer :=
      List.mem_filterMap.mpr ⟨event, member, isAnswer⟩
    rw [← answers] at answered
    obtain ⟨item, isItem, rfl⟩ := List.mem_map.mp answered
    -- the device that was asked about counts as usable, so that it passes
    obtain ⟨listed, isLoop, -⟩ := asked item isItem
    have counts : countsAsUsable item.2.2 = true := by
      cases response : item.2.2 with
      | error error => rfl
      | ok backFiles => simp [response, Except.isOk, Except.toBool] at notOk
    have usable := (isInfo _ _).mpr ⟨item, isItem, rfl, counts⟩
    obtain ⟨other, backFiles, isOther, sameName, -⟩ := checked item.1 listed isLoop
      ⟨{ name := "" }, {}⟩ [] world [] world (usableDeviceType_passes isLoop usable)
    have same := List.inj_on_of_nodup_map distinct isOther isItem sameName
    simp [← same, Except.isOk, Except.toBool] at notOk
  · intro succeed device _ isLoop vg pvs start filtering last passes
    have checks : Checks node (fun _ => True) (fun _ => True)
        (usableDeviceType { vg, bdi, pvs }) (UsableType bdi) := usableDeviceType_checks
    have usable := (wp.sound (checks device start trivial) passes fun _ _ => trivial).2.2 rfl
    obtain ⟨⟨other, name, response⟩, isItem, sameName, counts⟩ :=
      (isInfo _ _).mp (usable.2.2 isLoop)
    have isName : name = other.name := (asked _ isItem).2.2
    subst isName
    cases response with
    | error error =>
        have answered := List.mem_map_of_mem (f := Prod.snd) isItem
        rw [answers] at answered
        obtain ⟨event, member, isAnswer⟩ := List.mem_filterMap.mp answered
        have succeeds := succeed event member
        rw [losetupFails, isAnswer] at succeeds
        cases succeeds
    | ok backFiles =>
        refine ⟨other, backFiles, isItem, sameName, fun backFile member => ?_⟩
        simp only [countsAsUsable, Bool.not_eq_true', List.any_eq_false] at counts
        simpa using counts backFile member

end Runs

/-- A disk and a loop device. -/
def diskAndLoop : List BlockDevice :=
  [.mk "/dev/sda" "/dev/sda" "disk" "" "" false "" [],
    .mk "/dev/loop0" "/dev/loop0" "loop" "" "" false "" []]

/-- A host whose loop device belongs to a pod. -/
def podLoopWorld : World :=
  { World.empty with host := fun _ => {
      blockDevices := diskAndLoop
      backFiles := fun _ => ["/var/lib/kubelet/plugins/kubernetes.io/csi/volume"] } }

/-- A run in which `losetup` fails. -/
def failedLosetup : List (Event sig World) × GoMap Bool × World :=
  Program.run (environment "node")
    (fun _ request => match request with
      | .query (.losetup _) => { failure := some "losetup: cannot open", exitCode := 1 }
      | _ => {})
    (blockDeviceInfos diskAndLoop) podLoopWorld

theorem loopDevices_checked_iff_failed :
    (∀ device ∈ allDevices diskAndLoop, device.type = "loop" →
      ∀ vg pvs start filtering last,
        Exec (environment "node")
          (usableDeviceType { vg, bdi := failedLosetup.2.1, pvs } device).run start filtering
          (.ok ()) last →
        CheckedPositively diskAndLoop failedLosetup.1 device) ↔
    ∀ event ∈ failedLosetup.1, losetupFails event = false :=
  loopDevices_checked_iff (Program.run_exec (environment "node") _ _ podLoopWorld)

/-- The loop device of a pod passes the filter because nothing is known about it. -/
theorem unknown_loop_passes :
    Exec (environment "node") (blockDeviceInfos diskAndLoop) podLoopWorld failedLosetup.1
        failedLosetup.2.1 failedLosetup.2.2 ∧
      ∃ device ∈ allDevices diskAndLoop, device.type = "loop" ∧
        (∀ vg pvs start, Exec (environment "node")
          (usableDeviceType { vg, bdi := failedLosetup.2.1, pvs } device).run start [] (.ok ())
          start) ∧
        ¬ CheckedPositively diskAndLoop failedLosetup.1 device := by
  refine ⟨Program.run_exec .., .mk "/dev/loop0" "/dev/loop0" "loop" "" "" false "" [],
    by simp [diskAndLoop, allDevices, BlockDevice.subtree], rfl, fun vg pvs start => ?_, ?_⟩
  · exact usableDeviceType_passes rfl (by decide +kernel)
  · rintro ⟨asked, backFiles, answered, -⟩
    have failed : ((losetupAnswers diskAndLoop failedLosetup.1).all
        fun item => !item.2.2.isOk) = true := by
      decide +kernel
    have notOk := List.all_eq_true.mp failed _ answered
    cases notOk

end Lvms
