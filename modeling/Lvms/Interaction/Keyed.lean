import Mathlib.Data.List.Nodup
import Mathlib.Data.List.Perm.Basic
import Mathlib.Data.List.Sort

/-!
# Lists with unique keys

Many lists are read as maps from a key of their elements: a lookup finds the first
element with a key. When no key occurs twice, that element is the only one.
-/

namespace Interaction

variable {α κ : Type} [DecidableEq κ] {key : α → κ} {elements : List α}

/-- With unique keys an element is found by its key. -/
theorem find?_key_of_mem
    {element : α}
    (unique : (elements.map key).Nodup)
    (member : element ∈ elements) :
    elements.find? (key · == key element) = some element := by
  induction elements with
  | nil => cases member
  | cons first rest inductionHypothesis =>
      rw [List.map_cons, List.nodup_cons] at unique
      rcases List.mem_cons.mp member with rfl | later
      · simp
      · have different : key first ≠ key element := by
          intro same
          exact unique.1 (same ▸ List.mem_map_of_mem later)
        rw [List.find?_cons_of_neg (by simpa using different)]
        exact inductionHypothesis unique.2 later

/-- With unique keys a lookup finds exactly the element with the key. -/
theorem find?_key_eq_some_iff
    {wanted : κ}
    {element : α}
    (unique : (elements.map key).Nodup) :
    elements.find? (key · == wanted) = some element ↔
      element ∈ elements ∧ key element = wanted := by
  constructor
  · intro found
    exact ⟨List.mem_of_find?_eq_some found, by simpa using List.find?_some found⟩
  · rintro ⟨member, rfl⟩
    exact find?_key_of_mem unique member

/-- A list of at most one element has no two different ones. -/
theorem eq_of_length_le_one
    {element other : α}
    (few : elements.length ≤ 1)
    (member : element ∈ elements)
    (isOther : other ∈ elements) :
    other = element := by
  match elements, few with
  | [], _ => cases member
  | [_], _ => rw [List.mem_singleton.mp member, List.mem_singleton.mp isOther]

/-- The first element of a kind has the same image in every order of the list exactly if
all elements of the kind have. -/
theorem map_find?_perm_iff
    {β : Type}
    {isKind : α → Bool}
    {image : α → β} :
    (∀ permuted : List α, permuted.Perm elements →
      (permuted.find? isKind).map image = (elements.find? isKind).map image) ↔
    ∀ element ∈ elements, ∀ other ∈ elements, isKind element → isKind other →
      image element = image other := by
  constructor
  · intro sameFirst
    -- Every element of the kind is the first one in some order.
    have isFirst (element : α) (member : element ∈ elements) (ofKind : isKind element) :
        (elements.find? isKind).map image = some (image element) := by
      obtain ⟨before, after, rfl⟩ := List.append_of_mem member
      rw [← sameFirst _ List.perm_middle.symm, List.find?_cons_of_pos ofKind]
      rfl
    intro element member other isOther ofKind otherOfKind
    apply Option.some.inj
    rw [← isFirst element member ofKind, ← isFirst other isOther otherOfKind]
  · intro sameImage permuted isPermuted
    cases first : permuted.find? isKind with
    | none =>
        have none : elements.find? isKind = none := by
          rw [List.find?_eq_none] at first ⊢
          intro element member
          exact first element (isPermuted.mem_iff.mpr member)
        rw [none]
    | some element =>
        have member := isPermuted.mem_iff.mp (List.mem_of_find?_eq_some first)
        have ofKind := List.find?_some first
        obtain ⟨other, found⟩ := Option.isSome_iff_exists.mp
          (List.find?_isSome.mpr ⟨element, member, ofKind⟩)
        rw [found, Option.map_some, Option.map_some]
        exact congrArg some (sameImage element member other (List.mem_of_find?_eq_some found)
          ofKind (List.find?_some found))

/-- The elements with one key after another are all the elements, if every key is
taken once. -/
theorem flatMap_filter_key_perm
    {keys : List κ}
    (unique : keys.Nodup)
    (covered : ∀ element ∈ elements, key element ∈ keys) :
    (keys.flatMap fun wanted => elements.filter (key · == wanted)).Perm elements := by
  induction keys generalizing elements with
  | nil =>
      cases elements with
      | nil => exact .nil
      | cons first rest => simpa using covered first
  | cons wanted rest inductionHypothesis =>
      rw [List.nodup_cons] at unique
      -- The elements with the other keys are the ones without the first key.
      have others : (rest.flatMap fun other => elements.filter (key · == other)) =
          rest.flatMap fun other =>
            (elements.filter (!key · == wanted)).filter (key · == other) := by
        apply List.flatMap_congr
        intro other member
        rw [List.filter_filter]
        apply List.filter_congr
        intro element _
        by_cases same : key element = other
        · have different : other ≠ wanted := fun equal => unique.1 (equal ▸ member)
          simp [same, different]
        · simp [same]
      rw [List.flatMap_cons, others]
      refine .trans (.append_left _ (inductionHypothesis unique.2 ?_))
        (List.filter_append_perm _ elements)
      intro element member
      simp only [List.mem_filter, Bool.not_eq_true', beq_eq_false_iff_ne] at member
      exact (List.mem_cons.mp (covered element member.1)).resolve_left member.2

/-- Sorting by unique keys forgets the order in which the elements came. -/
theorem insertionSort_eq_of_perm
    {α κ : Type}
    [LinearOrder κ]
    {key : α → κ}
    {first second : List α}
    (unique : ∀ left ∈ first, ∀ right ∈ first, key left = key right → left = right)
    (permuted : first.Perm second) :
    first.insertionSort (fun left right => key left ≤ key right) =
      second.insertionSort (fun left right => key left ≤ key right) := by
  have firstSorts := List.perm_insertionSort (fun left right => key left ≤ key right) first
  have secondSorts := List.perm_insertionSort (fun left right => key left ≤ key right) second
  have total : Std.Total fun left right : α => key left ≤ key right :=
    ⟨fun left right => le_total (key left) (key right)⟩
  have transitive : IsTrans α fun left right => key left ≤ key right :=
    ⟨fun _ _ _ first second => first.trans second⟩
  refine List.Perm.eq_of_pairwise ?_ (List.pairwise_insertionSort _ first)
    (List.pairwise_insertionSort _ second) (firstSorts.trans (permuted.trans secondSorts.symm))
  intro left right isLeft isRight below above
  exact unique left (firstSorts.subset isLeft) right
    (permuted.symm.subset (secondSorts.subset isRight)) (below.antisymm above)

end Interaction
