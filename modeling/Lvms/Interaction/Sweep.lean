import Mathlib.Algebra.Order.Group.Nat
import Mathlib.Algebra.Ring.Parity
import Mathlib.Data.List.Chain
import Mathlib.Data.List.DropRight

/-!
# Ranging over a slice that the loop body compacts

A loop ranges over the array of a slice by position. Its body removes the element it
looks at from the slice, wherever it occurs, by moving the remaining elements to the
front of the same array. The next position then holds a later element than before, so
elements are passed over; behind the slice the array still holds old elements.

When no element that is removed occurs twice, an element is passed over exactly if an
odd number of elements that are to be removed stand directly before it and it is not
the last one.
-/

namespace Interaction

variable {α : Type} [DecidableEq α]

/-- The slice after ranging over some positions of its array. -/
def sweep (drops : α → Bool) (fallback : α) (kept array : List α) : List Nat → List α
  | [] => kept
  | position :: rest =>
      let element := array.getD position fallback
      if drops element then
        let remaining := kept.filter (· != element)
        sweep drops fallback remaining (remaining ++ array.drop remaining.length) rest
      else sweep drops fallback kept array rest

/-- The loop passes over the element between two parts of the slice. -/
def PassedOver (drops : α → Bool) (before after : List α) : Prop :=
  after ≠ [] ∧ Odd (before.rtakeWhile drops).length

namespace Sweep

variable {drops : α → Bool} {fallback : α}
variable {kept seen left rest earlier list : List α} {element : α}

/-- What is removed is removed wherever it occurs. -/
theorem exists_filter
    (drops : α → Bool)
    (fallback : α)
    (kept array : List α)
    (positions : List Nat) :
    ∃ removed : List α,
      sweep drops fallback kept array positions = kept.filter (· ∉ removed) := by
  induction positions generalizing kept array with
  | nil => exact ⟨[], by simp [sweep]⟩
  | cons position rest inductionHypothesis =>
      rw [sweep]
      dsimp only
      generalize array.getD position fallback = element
      split
      · obtain ⟨removed, isFiltered⟩ := inductionHypothesis (kept.filter (· != element))
          (kept.filter (· != element) ++ array.drop (kept.filter (· != element)).length)
        refine ⟨element :: removed, isFiltered.trans ?_⟩
        rw [List.filter_filter]
        apply List.filter_congr
        intro other _
        by_cases same : other = element <;> simp [same]
      · exact inductionHypothesis kept array

/-- The slice is some part of what it was exactly if it has the same elements. -/
theorem eq_filter_iff
    {array : List α}
    {positions : List Nat}
    {keep : α → Bool} :
    sweep drops fallback kept array positions = kept.filter keep ↔
      ∀ element ∈ kept,
        (element ∈ sweep drops fallback kept array positions ↔ keep element = true) := by
  obtain ⟨removed, isFiltered⟩ := exists_filter drops fallback kept array positions
  rw [isFiltered]
  constructor
  · intro same element member
    rw [same, List.mem_filter]
    exact and_iff_right member
  · intro sameElements
    apply List.filter_congr
    intro element member
    have isSame := sameElements element member
    rw [List.mem_filter, and_iff_right member] at isSame
    exact Bool.eq_iff_iff.mpr isSame

/-! ## One step -/

/-- The loop from a position on: what stands before it, the rest of the slice, and what
is left in the array behind the slice. -/
def sweepFrom (drops : α → Bool) (fallback : α) (seen rest left : List α) : List α :=
  sweep drops fallback (seen ++ rest) (seen ++ rest ++ left)
    (List.range' seen.length (rest.length + left.length))

omit [DecidableEq α] in
theorem getD_at (seen : List α) (element : α) (others : List α) :
    (seen ++ element :: others).getD seen.length fallback = element := by
  simp

/-- An element that stays. -/
theorem sweepFrom_keep
    (stays : drops element = false)
    (seen rest left : List α) :
    sweepFrom drops fallback seen (element :: rest) left =
      sweepFrom drops fallback (seen ++ [element]) rest left := by
  have count : (element :: rest).length + left.length = (rest.length + left.length) + 1 := by
    simp only [List.length_cons]
    omega
  rw [sweepFrom, count, List.range'_succ, sweep]
  simp only [List.append_assoc, List.cons_append, getD_at, stays]
  simp [sweepFrom]

/-- An element that is removed. What follows it once is not looked at. -/
theorem sweepFrom_drop
    (removed : drops element = true)
    (fresh : element ∉ seen)
    (rest left : List α) :
    sweepFrom drops fallback seen (element :: rest) left =
      sweep drops fallback (seen ++ rest.filter (· != element))
        (seen ++ rest.filter (· != element) ++
          (element :: rest ++ left).drop (rest.filter (· != element)).length)
        (List.range' (seen.length + 1) (rest.length + left.length)) := by
  have count : (element :: rest).length + left.length = (rest.length + left.length) + 1 := by
    simp only [List.length_cons]
    omega
  have remaining : (seen ++ element :: rest).filter (· != element) =
      seen ++ rest.filter (· != element) := by
    have unchanged : seen.filter (· != element) = seen := by
      rw [List.filter_eq_self]
      intro other member
      rw [bne_iff_ne]
      rintro rfl
      exact fresh member
    rw [List.filter_append, unchanged, List.filter_cons_of_neg (by simp)]
  rw [sweepFrom, count, List.range'_succ, sweep]
  simp only [List.append_assoc, List.cons_append, getD_at, removed, remaining,
    List.length_append, List.drop_length_add_append, if_true]

/-- Nothing changes any more once the elements to be removed are gone. -/
theorem sweep_settled
    {positions : List Nat}
    (gone : ∀ position ∈ positions,
      drops ((kept ++ left).getD position fallback) = true →
        (kept ++ left).getD position fallback ∉ kept) :
    sweep drops fallback kept (kept ++ left) positions = kept := by
  induction positions with
  | nil => rfl
  | cons position rest inductionHypothesis =>
      rw [List.forall_mem_cons] at gone
      rw [sweep]
      dsimp only
      split
      · rename_i removed
        have unchanged : kept.filter (· != (kept ++ left).getD position fallback) = kept := by
          rw [List.filter_eq_self]
          intro other member
          rw [bne_iff_ne]
          rintro rfl
          exact gone.1 removed member
        rw [unchanged, List.drop_left]
        exact inductionHypothesis gone.2
      · exact inductionHypothesis gone.2

/-- Behind the slice the array only has elements that are not in it any more. -/
theorem sweep_behind
    {start count : Nat}
    (behind : kept.length ≤ start)
    (inside : start + count ≤ kept.length + left.length)
    (gone : ∀ element ∈ left, drops element = true → element ∉ kept) :
    sweep drops fallback kept (kept ++ left) (List.range' start count) = kept := by
  apply sweep_settled
  intro position member
  have bounds := List.mem_range'_1.mp member
  have isLeft : (kept ++ left).getD position fallback ∈ left := by
    have fits : position - kept.length < left.length := by omega
    rw [List.getD_eq_getElem?_getD, List.getElem?_append_right (by omega),
      List.getElem?_eq_getElem fits]
    exact List.getElem_mem fits
  exact gone _ isLeft

theorem sweepFrom_nil
    (gone : ∀ element ∈ left, drops element = true → element ∉ seen) :
    sweepFrom drops fallback seen [] left = seen := by
  rw [sweepFrom, List.append_nil]
  exact sweep_behind le_rfl (by simp) gone

/-- After a removal the next element is passed over. -/
theorem sweepFrom_drop_cons
    {next : α}
    {others : List α}
    (removed : drops element = true)
    (fresh : element ∉ seen)
    (remaining : rest.filter (· != element) = next :: others)
    (left : List α) :
    sweepFrom drops fallback seen (element :: rest) left =
      sweepFrom drops fallback (seen ++ [next]) others
        ((element :: rest ++ left).drop (others.length + 1)) := by
  have shorter : others.length + 1 ≤ rest.length := by
    have bound := List.length_filter_le (· != element) rest
    rw [remaining] at bound
    exact bound
  have count : rest.length + left.length =
      others.length + ((element :: rest ++ left).drop (others.length + 1)).length := by
    simp only [List.length_drop, List.cons_append, List.length_cons, List.length_append]
    omega
  rw [sweepFrom_drop removed fresh, remaining, count, sweepFrom]
  simp

theorem sweepFrom_drop_nil
    (removed : drops element = true)
    (fresh : element ∉ seen)
    (remaining : rest.filter (· != element) = [])
    (gone : ∀ other ∈ left, drops other = true → other ∉ seen) :
    sweepFrom drops fallback seen (element :: rest) left = seen := by
  rw [sweepFrom_drop removed fresh, remaining, List.append_nil]
  refine sweep_behind (by omega) (by simp; omega) ?_
  intro other member drop
  rw [List.length_nil, List.drop_zero, List.cons_append, List.mem_cons,
    List.mem_append] at member
  rcases member with rfl | inRest | inLeft
  · exact fresh
  · -- The rest has no other element.
    have same : other = element := by
      simpa using List.filter_eq_nil_iff.mp remaining other inRest
    rw [same]
    exact fresh
  · exact gone other inLeft drop

/-- A last element that was passed over still stands behind the slice. -/
theorem sweepFrom_last
    {last : α}
    (removed : drops last = true)
    (fresh : last ∉ seen)
    (gone : ∀ other ∈ left, drops other = true → other ∉ seen) :
    sweepFrom drops fallback (seen ++ [last]) [] (last :: left) = seen := by
  have remaining : (seen ++ [last]).filter (· != last) = seen := by
    rw [List.filter_append, List.filter_cons_of_neg (by simp), List.filter_nil,
      List.append_nil, List.filter_eq_self]
    intro other member
    rw [bne_iff_ne]
    rintro rfl
    exact fresh member
  have array : seen ++ (seen ++ [last] ++ last :: left).drop seen.length =
      seen ++ last :: last :: left := by
    simp
  rw [sweepFrom, List.append_nil, List.length_nil, Nat.zero_add, List.length_cons,
    List.range'_succ, sweep]
  simp only [getD_at, removed, if_true, remaining, array]
  refine sweep_behind (by simp; omega) (by simp; omega) ?_
  intro other member drop
  rw [List.mem_cons, List.mem_cons] at member
  rcases member with rfl | rfl | inLeft
  · exact fresh
  · exact fresh
  · exact gone other inLeft drop

/-! ## Elements that occur once -/

/-- What the loop leaves of a list in which no element to be removed occurs twice. -/
def survivors (drops : α → Bool) : List α → List α
  | element :: next :: third :: rest =>
      if drops element then next :: survivors drops (third :: rest)
      else element :: survivors drops (next :: third :: rest)
  | short => short.filter (!drops ·)

omit [DecidableEq α] in
/-- An element that occurs once occurs neither before nor after itself. -/
theorem not_mem_of_distinct
    (distinct : ((seen ++ element :: rest).filter drops).Nodup)
    (removed : drops element = true) :
    element ∉ seen ∧ element ∉ rest := by
  rw [List.filter_append, List.filter_cons_of_pos removed, List.nodup_append] at distinct
  obtain ⟨-, inRest, apart⟩ := distinct
  constructor
  · intro member
    exact apart element (List.mem_filter.mpr ⟨member, removed⟩) element (.head _) rfl
  · intro member
    exact (List.nodup_cons.mp inRest).1 (List.mem_filter.mpr ⟨member, removed⟩)

theorem filter_bne_of_not_mem
    (absent : element ∉ rest) :
    rest.filter (· != element) = rest := by
  rw [List.filter_eq_self]
  intro other member
  rw [bne_iff_ne]
  rintro rfl
  exact absent member

omit [DecidableEq α] in
theorem drop_shifted (element next : α) (rest left : List α) :
    (element :: next :: rest ++ left).drop (rest.length + 1) =
      (next :: rest).getLast (List.cons_ne_nil _ _) :: left := by
  have isLast := List.drop_length_cons (List.cons_ne_nil next rest) element
  rw [List.drop_append_of_le_length (by simp)]
  rw [List.length_cons] at isLast
  rw [isLast]
  rfl

/-- A last element is looked at, even if it was passed over. -/
theorem sweepFrom_one
    {last : α}
    (copies : ∀ other ∈ left, other = last)
    (fresh : drops last = true → last ∉ seen) :
    sweepFrom drops fallback seen [last] left = seen ++ [last].filter (!drops ·) ∧
      sweepFrom drops fallback (seen ++ [last]) [] (last :: left) =
        seen ++ [last].filter (!drops ·) := by
  cases removed : drops last with
  | true =>
      have gone : ∀ other ∈ left, drops other = true → other ∉ seen := by
        intro other member _
        rw [copies other member]
        exact fresh removed
      rw [sweepFrom_drop_nil removed (fresh removed) List.filter_nil gone,
        sweepFrom_last removed (fresh removed) gone]
      simp [removed]
  | false =>
      have stays : ∀ other ∈ last :: left, drops other = true → other ∉ seen ++ [last] := by
        intro other member drop
        have same : other = last := (List.mem_cons.mp member).elim id (copies other)
        rw [same, removed] at drop
        cases drop
      rw [sweepFrom_keep removed, sweepFrom_nil stays,
        sweepFrom_nil fun other member => stays other (.tail _ member)]
      simp [removed]

/-- The loop leaves the survivors. Behind the slice there are only copies of its last
element. -/
theorem sweepFrom_eq_survivors
    (copies : ∀ other ∈ left, rest.getLast? = some other)
    (distinct : ((seen ++ rest).filter drops).Nodup) :
    sweepFrom drops fallback seen rest left = seen ++ survivors drops rest := by
  induction rest using survivors.induct drops generalizing seen left with
  | case1 element next third rest removed inductionHypothesis =>
      obtain ⟨fresh, once⟩ := not_mem_of_distinct distinct removed
      rw [sweepFrom_drop_cons removed fresh (filter_bne_of_not_mem once), drop_shifted,
        survivors, if_pos removed, inductionHypothesis]
      · simp
      · intro other member
        rcases List.mem_cons.mp member with rfl | inLeft
        · rw [List.getLast?_eq_some_getLast (List.cons_ne_nil third rest),
            List.getLast_cons (List.cons_ne_nil third rest)]
        · exact copies other inLeft
      · have part : (seen ++ [next] ++ third :: rest).Sublist
            (seen ++ element :: next :: third :: rest) := by
          rw [List.append_assoc]
          exact .append_left (List.sublist_cons_self _ _) _
        exact List.Nodup.sublist (part.filter drops) distinct
  | case2 element next third rest stays inductionHypothesis =>
      have stays : drops element = false := by simpa using stays
      rw [sweepFrom_keep stays, survivors, if_neg (by simp [stays]), inductionHypothesis]
      · simp
      · exact copies
      · rw [List.append_assoc]
        exact distinct
  | case3 short isShort =>
      rw [survivors.eq_2 _ _ isShort]
      rcases short with _ | ⟨element, _ | ⟨last, _ | ⟨third, rest⟩⟩⟩
      · have none : left = [] := List.eq_nil_iff_forall_not_mem.mpr fun other member => by
          cases copies other member
        rw [none, sweepFrom_nil (by simp), List.filter_nil, List.append_nil]
      · have isCopy : ∀ other ∈ left, other = element := by
          intro other member
          exact (Option.some.inj (copies other member)).symm
        exact (sweepFrom_one isCopy fun removed => (not_mem_of_distinct distinct removed).1).1
      · have isCopy : ∀ other ∈ left, other = last := by
          intro other member
          exact (Option.some.inj (copies other member)).symm
        have fresh (removed : drops last = true) : last ∉ seen ++ [element] := by
          have isLast : ((seen ++ [element] ++ [last]).filter drops).Nodup := by
            simpa using distinct
          exact (not_mem_of_distinct isLast removed).1
        cases removed : drops element with
        | true =>
            obtain ⟨isFresh, once⟩ := not_mem_of_distinct distinct removed
            rw [sweepFrom_drop_cons removed isFresh (filter_bne_of_not_mem once),
              drop_shifted, List.getLast_singleton,
              (sweepFrom_one isCopy fun drop member =>
                fresh drop (List.mem_append_left _ member)).2]
            simp [removed]
        | false =>
            rw [sweepFrom_keep removed, (sweepFrom_one isCopy fresh).1]
            simp [removed]
      · exact (isShort element last third rest rfl).elim

omit [DecidableEq α] in
theorem survivors_subset (list : List α) : survivors drops list ⊆ list := by
  induction list using survivors.induct drops with
  | case1 element next third rest removed inductionHypothesis =>
      rw [survivors, if_pos removed]
      intro other member
      rcases List.mem_cons.mp member with rfl | later
      · exact .tail _ (.head _)
      · exact .tail _ (.tail _ (inductionHypothesis later))
  | case2 element next third rest stays inductionHypothesis =>
      rw [survivors, if_neg stays]
      exact List.cons_subset_cons _ inductionHypothesis
  | case3 short isShort =>
      rw [survivors.eq_2 _ _ isShort]
      exact List.filter_subset_self ..

omit [DecidableEq α] in
/-- The first of some elements to be removed is not passed over. -/
theorem not_passedOver_of_even
    {after : List α}
    (even : Even (earlier.rtakeWhile drops).length) :
    ¬PassedOver drops earlier after := by
  rintro ⟨-, odd⟩
  exact Nat.not_odd_iff_even.mpr even odd

omit [DecidableEq α] in
theorem even_append_pair
    {first : α}
    (even : Even (earlier.rtakeWhile drops).length)
    (removed : drops first = true)
    (next : α) :
    Even ((earlier ++ [first] ++ [next]).rtakeWhile drops).length := by
  rw [List.rtakeWhile_concat, List.rtakeWhile_concat]
  cases drops next with
  | true =>
      simp only [removed, if_true, List.length_append, List.length_singleton]
      exact Nat.even_add_one.mpr (Nat.not_even_iff_odd.mpr even.add_one)
  | false => simp

omit [DecidableEq α] in
/-- The elements that stay are those that are not to be removed and those that are
passed over. The list may follow an even number of elements to be removed. -/
theorem mem_survivors_iff
    {before after : List α}
    (even : Even (earlier.rtakeWhile drops).length)
    (distinct : (list.filter drops).Nodup)
    (isList : list = before ++ element :: after) :
    element ∈ survivors drops list ↔
      drops element = false ∨ PassedOver drops (earlier ++ before) after := by
  induction list using survivors.induct drops generalizing earlier before with
  | case1 first next third rest removed inductionHypothesis =>
      rw [survivors, if_pos removed]
      have once : first ∉ next :: third :: rest :=
        (not_mem_of_distinct (show (([] ++ first :: next :: third :: rest).filter drops).Nodup
          from distinct) removed).2
      rw [List.filter_cons_of_pos removed] at distinct
      have distinctRest := (List.nodup_cons.mp distinct).2
      rcases before with _ | ⟨_, _ | ⟨_, before⟩⟩
      · obtain ⟨rfl, rfl⟩ := List.cons.inj isList
        rw [List.append_nil, removed]
        have gone : first ∉ next :: survivors drops (third :: rest) := fun member =>
          once (List.cons_subset_cons _ (survivors_subset _) member)
        simp [gone, not_passedOver_of_even even]
      · obtain ⟨rfl, tail⟩ := List.cons.inj isList
        obtain ⟨rfl, rfl⟩ := List.cons.inj tail
        have passed : PassedOver drops (earlier ++ [first]) (third :: rest) := by
          refine ⟨List.cons_ne_nil _ _, ?_⟩
          rw [List.rtakeWhile_concat, if_pos removed, List.length_append]
          exact even.add_one
        simp [passed]
      · obtain ⟨rfl, tail⟩ := List.cons.inj isList
        obtain ⟨rfl, isRest⟩ := List.cons.inj tail
        have later : (List.filter drops (third :: rest)).Nodup :=
          List.Nodup.sublist ((List.sublist_cons_self next _).filter drops) distinctRest
        have stays := inductionHypothesis (even_append_pair even removed next) later isRest
        have regroup : earlier ++ [first] ++ [next] ++ before =
            earlier ++ first :: next :: before := by
          simp
        rw [regroup] at stays
        rw [List.mem_cons, stays]
        refine or_iff_right_of_imp ?_
        rintro rfl
        -- The passed element occurs again, so it is not to be removed.
        refine .inl ?_
        by_contra drop
        have drop : drops element = true := by simpa using drop
        have onceToo := (not_mem_of_distinct
          (show (([] ++ element :: third :: rest).filter drops).Nodup from distinctRest) drop).2
        exact onceToo (isRest ▸ List.mem_append_right _ (.head _))
  | case2 first next third rest stays inductionHypothesis =>
      rw [survivors, if_neg stays]
      have stays : drops first = false := by simpa using stays
      rw [List.filter_cons_of_neg (by simp [stays])] at distinct
      rcases before with _ | ⟨_, before⟩
      · obtain ⟨rfl, rfl⟩ := List.cons.inj isList
        simp [stays]
      · obtain ⟨rfl, isRest⟩ := List.cons.inj isList
        have run : Even ((earlier ++ [first]).rtakeWhile drops).length := by
          rw [List.rtakeWhile_concat, stays]
          simp
        have later := inductionHypothesis run distinct isRest
        rw [List.append_assoc] at later
        rw [List.mem_cons, later]
        refine or_iff_right_of_imp ?_
        rintro rfl
        exact .inl stays
  | case3 short isShort =>
      rw [survivors.eq_2 _ _ isShort, List.mem_filter]
      subst isList
      have member : element ∈ before ++ element :: after :=
        List.mem_append_right _ (.head _)
      rcases before with _ | ⟨first, _ | ⟨next, rest⟩⟩
      · rw [List.append_nil]
        simp [not_passedOver_of_even even]
      · rcases after with _ | ⟨last, rest⟩
        · simp [PassedOver]
        · exact (isShort first element last rest rfl).elim
      · rcases rest with _ | ⟨third, rest⟩
        · exact (isShort first next element after rfl).elim
        · exact (isShort first next third (rest ++ element :: after) rfl).elim

/-- What remains of a list in which no element to be removed occurs twice. -/
theorem eq_filter_iff_of_distinct
    {keep : α → Bool}
    (distinct : (list.filter drops).Nodup) :
    sweep drops fallback list list (List.range list.length) = list.filter keep ↔
      ∀ before element after, list = before ++ element :: after →
        (keep element = true ↔ drops element = false ∨ PassedOver drops before after) := by
  have swept : sweep drops fallback list list (List.range list.length) =
      survivors drops list := by
    have started : sweepFrom drops fallback [] list [] = [] ++ survivors drops list :=
      sweepFrom_eq_survivors (by simp) distinct
    simpa [sweepFrom, List.range_eq_range'] using started
  have stays {before after : List α} {element : α}
      (isList : list = before ++ element :: after) :
      element ∈ survivors drops list ↔
        drops element = false ∨ PassedOver drops ([] ++ before) after :=
    mem_survivors_iff (by simp) distinct isList
  rw [eq_filter_iff, swept]
  constructor
  · intro same before element after isList
    rw [← same element (isList ▸ List.mem_append_right _ (.head _))]
    exact stays isList
  · intro same element member
    obtain ⟨before, after, isList⟩ := List.append_of_mem member
    rw [same before element after isList]
    exact stays isList

/-! ## Elements that stand apart -/

/-- No two elements to be removed stand side by side. -/
def Isolated (drops : α → Bool) (list : List α) : Prop :=
  list.IsChain fun element next => drops element = true → drops next = false

instance (drops : α → Bool) (list : List α) : Decidable (Isolated drops list) :=
  inferInstanceAs (Decidable (List.IsChain _ list))

/-- Removing an element leaves the others apart. -/
theorem Isolated.filter_bne
    (isolated : Isolated drops list)
    (removed : drops element = true) :
    Isolated drops (list.filter (· != element)) := by
  induction list with
  | nil => exact .nil
  | cons first rest inductionHypothesis =>
      rw [Isolated, List.isChain_cons] at isolated
      have later := inductionHypothesis isolated.2
      by_cases same : first = element
      · rw [List.filter_cons_of_neg (by simpa using same)]
        exact later
      · rw [List.filter_cons_of_pos (by simpa using same), Isolated, List.isChain_cons]
        refine ⟨fun next isNext drop => ?_, later⟩
        rcases rest with _ | ⟨second, rest⟩
        · cases isNext
        · have stays := isolated.1 second rfl drop
          have different : second ≠ element := by
            rintro rfl
            rw [removed] at stays
            cases stays
          rw [List.filter_cons_of_pos (by simpa using different)] at isNext
          rw [← Option.some.inj isNext]
          exact stays

/-- Elements that stand apart are all removed. -/
theorem sweepFrom_of_isolated
    (stayed : ∀ element ∈ seen, drops element = false)
    (isolated : Isolated drops rest) :
    sweepFrom drops fallback seen rest left = seen ++ rest.filter (!drops ·) := by
  -- A removal shortens the rest by more than its head, so the induction is on the length.
  induction size : rest.length using Nat.strong_induction_on
    generalizing seen rest left with
  | h size inductionHypothesis =>
      subst size
      have gone (others : List α) :
          ∀ other ∈ others, drops other = true → other ∉ seen := by
        intro other _ drop member
        rw [stayed other member] at drop
        cases drop
      have stayedNext {next : α} (stays : drops next = false) :
          ∀ element ∈ seen ++ [next], drops element = false := by
        intro element member
        rcases List.mem_append.mp member with early | last
        · exact stayed element early
        · rw [List.mem_singleton.mp last]
          exact stays
      rcases rest with _ | ⟨element, rest⟩
      · rw [sweepFrom_nil (gone left), List.filter_nil, List.append_nil]
      rw [Isolated, List.isChain_cons] at isolated
      cases removed : drops element with
      | false =>
          rw [sweepFrom_keep removed, inductionHypothesis rest.length (by simp)
            (stayedNext removed) isolated.2 rfl]
          simp [removed]
      | true =>
          have fresh : element ∉ seen := gone [element] element (.head _) removed
          rcases rest with _ | ⟨next, rest⟩
          · rw [sweepFrom_drop_nil removed fresh List.filter_nil (gone left)]
            simp [removed]
          · have stays : drops next = false := isolated.1 next rfl removed
            have different : next ≠ element := by
              rintro rfl
              rw [removed] at stays
              cases stays
            have shorter : (rest.filter (· != element)).length <
                (element :: next :: rest).length := by
              have bound := List.length_filter_le (· != element) rest
              simp only [List.length_cons]
              omega
            have apart : Isolated drops (rest.filter (· != element)) :=
              Isolated.filter_bne (List.isChain_cons.mp isolated.2).2 removed
            have same : (rest.filter (· != element)).filter (!drops ·) =
                rest.filter (!drops ·) := by
              rw [List.filter_filter]
              apply List.filter_congr
              intro other _
              by_cases isElement : other = element <;> simp [isElement, removed]
            rw [sweepFrom_drop_cons removed fresh
                (List.filter_cons_of_pos (by simpa using different)),
              inductionHypothesis _ shorter (stayedNext stays) apart rfl, same]
            simp [removed, stays]

/-- What remains of a list whose elements to be removed stand apart. -/
theorem eq_filter_of_isolated {list : List α} (isolated : Isolated drops list) :
    sweep drops fallback list list (List.range list.length) = list.filter (!drops ·) := by
  have started : sweepFrom drops fallback [] list [] = [] ++ list.filter (!drops ·) :=
    sweepFrom_of_isolated (by simp) isolated
  simpa [sweepFrom, List.range_eq_range'] using started

end Sweep
end Interaction
