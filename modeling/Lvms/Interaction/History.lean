import Mathlib.Data.List.Chain

/-!
# Histories of a system

A system moves from world to world in steps, and each step produces a list of
events. A history is any finite sequence of steps. Invariants of histories are
proved one step at a time.
-/

namespace Interaction

variable {World E : Type}

/-- `History step world events world'`: some sequence of steps leads from
`world` to `world'` and produces `events`, oldest first. -/
inductive History (step : World → List E → World → Prop) :
    World → List E → World → Prop
  | start (world : World) : History step world [] world
  | next
      {world middle last : World}
      {before added : List E}
      (prior : History step world before middle)
      (stepped : step middle added last) :
      History step world (before ++ added) last

namespace History

variable {step : World → List E → World → Prop}
variable {world world' : World} {events : List E}

/-- One step is a history. -/
theorem single
    (stepped : step world events world') :
    History step world events world' := by
  simpa using (History.start world).next stepped

/-- Histories compose. -/
theorem append
    {middle : World}
    {later : List E}
    (first : History step world events middle)
    (second : History step middle later world') :
    History step world (events ++ later) world' := by
  induction second with
  | start => simpa using first
  | next prior stepped inductionHypothesis =>
      rw [← List.append_assoc]
      exact inductionHypothesis.next stepped

/-- A property of the events so far and of the world that holds at the start and
is kept by every step holds of every history. -/
theorem induct
    (relation : List E → World → Prop)
    (initial : relation [] world)
    (kept : ∀ before middle added last, relation before middle →
      step middle added last → relation (before ++ added) last)
    (history : History step world events world') :
    relation events world' := by
  induction history with
  | start => exact initial
  | next prior stepped inductionHypothesis =>
      exact kept _ _ _ _ inductionHypothesis stepped

/-- An invariant of the worlds. -/
theorem invariant
    (holds : World → Prop)
    (initial : holds world)
    (kept : ∀ middle added last, holds middle → step middle added last →
      holds last)
    (history : History step world events world') :
    holds world' :=
  history.induct (fun _ => holds) initial
    fun _ middle added last => kept middle added last

/-- If every step from a world with the invariant produces only good events,
every event of a history is good. -/
theorem all_events
    (holds : World → Prop)
    (good : E → Prop)
    (initial : holds world)
    (kept : ∀ middle added last, holds middle → step middle added last →
      holds last ∧ ∀ event ∈ added, good event)
    (history : History step world events world') :
    ∀ event ∈ events, good event := by
  have both : (∀ event ∈ events, good event) ∧ holds world' :=
    history.induct (fun events world =>
      (∀ event ∈ events, good event) ∧ holds world) ⟨by simp, initial⟩ (by
        rintro before middle added last ⟨earlier, reached⟩ stepped
        obtain ⟨final, later⟩ := kept middle added last reached stepped
        exact ⟨List.forall_mem_append.mpr ⟨earlier, later⟩, final⟩)
  exact both.1

/-- A history of restricted steps is a history of the steps themselves. -/
theorem mono
    {wider : World → List E → World → Prop}
    (included : ∀ middle added last, step middle added last →
      wider middle added last)
    (history : History step world events world') :
    History wider world events world' := by
  induction history with
  | start => exact .start _
  | next prior stepped inductionHypothesis =>
      exact inductionHypothesis.next (included _ _ _ stepped)

/-! ## The worlds of a history -/

/-- The worlds in which the events take place, and the last one. -/
def trail (before : E → World) (events : List E) (last : World) : List World :=
  events.map before ++ [last]

/-- If every step passes through related worlds, so does a history. -/
theorem chain
    {before : E → World}
    {related : World → World → Prop}
    (holds : World → Prop)
    (initial : holds world)
    (kept : ∀ middle added last, holds middle → step middle added last →
      holds last ∧ (trail before added last).head? = some middle ∧
        (trail before added last).IsChain related)
    (history : History step world events world') :
    (trail before events world').IsChain related := by
  have both : (trail before events world').IsChain related ∧ holds world' := by
    refine history.induct
      (fun events last => (trail before events last).IsChain related ∧ holds last)
      ⟨List.isChain_singleton _, initial⟩ ?_
    rintro earlier middle added last ⟨linked, reached⟩ stepped
    obtain ⟨final, starts, continued⟩ := kept middle added last reached stepped
    obtain ⟨rest, isTrail⟩ := List.head?_eq_some_iff.mp starts
    refine ⟨?_, final⟩
    have split : trail before (earlier ++ added) last =
        earlier.map before ++ middle :: rest := by
      rw [← isTrail]
      simp [trail]
    rw [split, List.isChain_split, ← isTrail]
    exact ⟨linked, continued⟩
  exact both.1

/-- A property of all worlds of the steps is one of all worlds of the history. -/
theorem all_worlds
    {before : E → World}
    (holds : World → Prop)
    (initial : holds world)
    (kept : ∀ middle added last, holds middle → step middle added last →
      ∀ visited ∈ trail before added last, holds visited)
    (history : History step world events world') :
    ∀ visited ∈ trail before events world', holds visited := by
  have final (last : World) (added : List E) : last ∈ trail before added last :=
    List.mem_append_right _ (List.mem_singleton_self last)
  have throughout := history.all_events holds (fun event => holds (before event)) initial
    fun middle added last reached stepped =>
      ⟨kept middle added last reached stepped last (final last added),
        fun event member => kept middle added last reached stepped _
          (List.mem_append_left _ (List.mem_map_of_mem member))⟩
  have reached := history.invariant holds initial fun middle added last reached stepped =>
    kept middle added last reached stepped last (final last added)
  simpa [trail, or_imp, forall_and] using And.intro throughout reached

end History
end Interaction
