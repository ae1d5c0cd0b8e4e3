import Mathlib.Data.List.Induction
import Mathlib.Data.List.Nodup

/-!
# Lists as tables

A list with at most one element for each key is a table of rows. Its rows are written one
at a time: the row of a key is added, replaced or removed, and the other rows stay as they
are, in their order. After any number of writes the row of a key only depends on the
writes for this key.
-/

namespace Interaction

variable {α κ ν : Type} [DecidableEq κ] {key : α → κ} {wanted : κ} {row : Option α}
variable {rows before after : List α}

/-- The table has one row or none for a key; the other rows are those of another table. -/
structure WritesRow
    (key : α → κ)
    (wanted : κ)
    (row : Option α)
    (before after : List α) : Prop where
  row : after.filter (key · == wanted) = row.toList
  others : after.filter (key · != wanted) = before.filter (key · != wanted)

namespace WritesRow

/-- A write leaves the rows of other keys alone. -/
theorem filter_of_ne
    {other : κ}
    (writes : WritesRow key wanted row before after)
    (different : other ≠ wanted) :
    after.filter (key · == other) = before.filter (key · == other) := by
  have among : ∀ list : List α, list.filter (key · == other) =
      (list.filter (key · != wanted)).filter (key · == other) := by
    intro list
    rw [List.filter_filter]
    apply List.filter_congr
    intro element _
    by_cases isOther : key element = other
    · simp [isOther, different]
    · simp [isOther]
  rw [among after, writes.others, ← among before]

/-- A row is written where the old one was. -/
theorem of_split
    (old new : Option α)
    {first last : List α}
    (outsideFirst : ∀ other ∈ first, key other ≠ wanted)
    (outsideLast : ∀ other ∈ last, key other ≠ wanted)
    (isOld : ∀ element ∈ old, key element = wanted)
    (isNew : ∀ element ∈ new, key element = wanted) :
    WritesRow key wanted new (first ++ old.toList ++ last) (first ++ new.toList ++ last) := by
  have none : ∀ list : List α, (∀ other ∈ list, key other ≠ wanted) →
      list.filter (key · == wanted) = [] := by
    intro list outside
    rw [List.filter_eq_nil_iff]
    exact fun other member => by simpa using outside other member
  have all : ∀ option : Option α, (∀ element ∈ option, key element = wanted) →
      option.toList.filter (key · == wanted) = option.toList ∧
        option.toList.filter (key · != wanted) = [] := by
    intro option same
    cases option with
    | none => exact ⟨rfl, rfl⟩
    | some element => simp [same element rfl]
  constructor
  · rw [List.filter_append, List.filter_append, none first outsideFirst,
      none last outsideLast, (all new isNew).1, List.nil_append, List.append_nil]
  · simp only [List.filter_append, (all new isNew).2, (all old isOld).2]

end WritesRow

/-- The place of the row of a key. -/
theorem exists_split (one : rows.filter (key · == wanted) = row.toList) :
    ∃ first last, rows = first ++ row.toList ++ last ∧
      (∀ other ∈ first, key other ≠ wanted) ∧
      (∀ other ∈ last, key other ≠ wanted) ∧
      ∀ element ∈ row, key element = wanted := by
  cases row with
  | none =>
      rw [Option.toList_none, List.filter_eq_nil_iff] at one
      exact ⟨rows, [], by simp, fun other member => by simpa using one other member,
        by simp, by simp⟩
  | some element =>
      rw [Option.toList_some, List.filter_eq_cons_iff] at one
      obtain ⟨first, last, rfl, outsideFirst, isKey, outsideLast⟩ := one
      rw [List.filter_eq_nil_iff] at outsideLast
      refine ⟨first, last, by simp, fun other member => by simpa using outsideFirst other member,
        fun other member => by simpa using outsideLast other member, ?_⟩
      rintro _ ⟨⟩
      simpa using isKey

/-! ## Writing -/

/-- A row with a new key is added. -/
theorem writesRow_append
    (element : α)
    (absent : ∀ other ∈ rows, key other ≠ key element) :
    WritesRow key (key element) (some element) rows (rows ++ [element]) := by
  have added : WritesRow key (key element) (some element) (rows ++ [] ++ [])
      (rows ++ [element] ++ []) :=
    .of_split none (some element) absent (by simp) (by simp) (by simp)
  simpa only [List.append_nil] using added

/-- The row with the key of an element is replaced by it, or it is added. -/
theorem writesRow_put
    (element : α)
    (one : rows.filter (key · == key element) = row.toList) :
    WritesRow key (key element) (some element) rows
      (if rows.any (key · == key element) then
        rows.map fun old => if key old == key element then element else old
      else rows ++ [element]) := by
  obtain ⟨first, last, rfl, outsideFirst, outsideLast, isRow⟩ := exists_split one
  have kept : ∀ list : List α, (∀ other ∈ list, key other ≠ key element) →
      (list.map fun old => if key old == key element then element else old) = list := by
    intro list outside
    refine (List.map_congr_left fun other member => ?_).trans (List.map_id list)
    exact if_neg (by simpa using outside other member)
  cases row with
  | none =>
      have absent : ∀ other ∈ first ++ [] ++ last, key other ≠ key element := by
        simpa only [List.append_nil, List.forall_mem_append] using
          ⟨outsideFirst, outsideLast⟩
      rw [Option.toList_none, if_neg (by simpa using ⟨outsideFirst, outsideLast⟩)]
      exact writesRow_append element absent
  | some old =>
      have same : key old = key element := isRow old rfl
      rw [if_pos (by simp [same]), List.map_append, List.map_append, kept first outsideFirst,
        kept last outsideLast, Option.toList_some, List.map_singleton, if_pos (by simp [same])]
      exact .of_split (some old) (some element) outsideFirst outsideLast isRow (by simp)

/-- The row of a key is removed, by a test that finds it. -/
theorem writesRow_eraseP
    {test : α → Bool}
    (finds : ∀ element ∈ rows, (test element = true ↔ key element = wanted))
    (one : rows.filter (key · == wanted) = row.toList) :
    WritesRow key wanted none rows (rows.eraseP test) := by
  obtain ⟨first, last, rfl, outsideFirst, outsideLast, isRow⟩ := exists_split one
  simp only [List.forall_mem_append] at finds
  have erased : (first ++ row.toList ++ last).eraseP test = first ++ [] ++ last := by
    rw [List.append_assoc, List.eraseP_append_right _ (fun other member =>
      mt (finds.1.1 other member).mp (outsideFirst other member)), List.append_nil]
    cases row with
    | none =>
        rw [Option.toList_none, List.nil_append, List.eraseP_of_forall_not fun other member =>
          mt (finds.2 other member).mp (outsideLast other member)]
    | some old =>
        rw [Option.toList_some, List.singleton_append,
          List.eraseP_cons_of_pos ((finds.1.2 old (.head _)).mpr (isRow old rfl))]
  rw [erased]
  exact .of_split row none outsideFirst outsideLast isRow (by simp)

theorem WritesRow.reverse (writes : WritesRow key wanted row before after) :
    WritesRow key wanted row before.reverse after.reverse where
  row := by
    rw [List.filter_reverse, writes.row]
    cases row <;> rfl
  others := by rw [List.filter_reverse, List.filter_reverse, writes.others]

/-- The search can also start at the end. -/
theorem writesRow_eraseP_last
    {test : α → Bool}
    (finds : ∀ element ∈ rows, (test element = true ↔ key element = wanted))
    (one : rows.filter (key · == wanted) = row.toList) :
    WritesRow key wanted none rows (rows.reverse.eraseP test).reverse := by
  have reversed : rows.reverse.filter (key · == wanted) = row.toList := by
    rw [List.filter_reverse, one]
    cases row <;> rfl
  have erased := (writesRow_eraseP (fun element member =>
    finds element (List.mem_reverse.mp member)) reversed).reverse
  rwa [List.reverse_reverse] at erased

/-! ## Many writes -/

/-- The row of a key after a log of writes. -/
def track (step : ν → Option α → Option α) (log : List (κ × ν)) (wanted : κ) : Option α :=
  log.foldl (fun row entry => if entry.1 = wanted then step entry.2 row else row) none

variable {step : ν → Option α → Option α} {log : List (κ × ν)} {write : ν}

/-- When every write sets the row, the last one for the key counts. -/
theorem track_replace
    {ι : Type}
    (calls : List ι)
    (target : ι → κ)
    (value : ι → Option α) :
    track (fun write _ => write) (calls.map fun call => (target call, value call)) wanted =
      (calls.reverse.find? (target · == wanted)).bind value := by
  induction calls using List.reverseRecOn with
  | nil => rfl
  | append_singleton earlier call inductionHypothesis =>
      rw [List.reverse_append, List.map_append, track, List.foldl_append]
      by_cases same : target call = wanted
      · simp [same]
      · rw [List.reverse_singleton, List.singleton_append,
          List.find?_cons_of_neg (by simpa using same), ← inductionHypothesis]
        simp [track, same]

theorem track_append_self :
    track step (log ++ [(wanted, write)]) wanted = step write (track step log wanted) := by
  simp [track]

theorem track_append_of_ne
    {other : κ}
    (different : other ≠ wanted) :
    track step (log ++ [(wanted, write)]) other = track step log other := by
  simp [track, different.symm]

/-- The rows are what a log of writes leaves. -/
def Tabulates
    (key : α → κ)
    (step : ν → Option α → Option α)
    (log : List (κ × ν))
    (rows : List α) : Prop :=
  ∀ wanted, rows.filter (key · == wanted) = (track step log wanted).toList

namespace Tabulates

theorem nil : Tabulates key step [] [] := fun _ => rfl

theorem append
    (tabulates : Tabulates key step log before)
    (writes : WritesRow key wanted (step write (track step log wanted)) before after) :
    Tabulates key step (log ++ [(wanted, write)]) after := by
  intro other
  by_cases same : other = wanted
  · rw [same, track_append_self]
    exact writes.row
  · rw [track_append_of_ne same, writes.filter_of_ne same]
    exact tabulates other

theorem mem_iff
    {element : α}
    (tabulates : Tabulates key step log rows) :
    element ∈ rows ↔ track step log (key element) = some element := by
  have found : element ∈ rows ↔ element ∈ rows.filter (key · == key element) := by simp
  rw [found, tabulates (key element), Option.mem_toList]

/-- There is a row for a key exactly if the writes leave one. -/
theorem exists_iff (tabulates : Tabulates key step log rows) :
    (∃ element ∈ rows, key element = wanted) ↔ track step log wanted ≠ none := by
  constructor
  · rintro ⟨element, member, rfl⟩
    rw [tabulates.mem_iff.mp member]
    exact Option.some_ne_none element
  · intro left
    obtain ⟨element, isRow⟩ := Option.ne_none_iff_exists'.mp left
    have member : element ∈ rows.filter (key · == wanted) := by
      rw [tabulates wanted, isRow]
      exact .head _
    obtain ⟨isElement, isKey⟩ := List.mem_filter.mp member
    exact ⟨element, isElement, beq_iff_eq.mp isKey⟩

/-- No key occurs twice. -/
theorem nodup (tabulates : Tabulates key step log rows) : (rows.map key).Nodup := by
  rw [List.nodup_iff_count_le_one]
  intro wanted
  have one : (rows.map key).count wanted = (track step log wanted).toList.length := by
    rw [← tabulates wanted, List.count_eq_countP, List.countP_map, List.countP_eq_length_filter]
    rfl
  rw [one]
  cases track step log wanted <;> simp

end Tabulates
end Interaction
