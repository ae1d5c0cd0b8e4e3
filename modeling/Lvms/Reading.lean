import Lvms.Effects

/-!
# Reading before acting

A reconciliation looks things up first and stops when something is missing. Until
then the world is the same.
-/

namespace Lvms

open Interaction Interaction.Program

section Reading

variable {node : String} {world after : World} {events : List (Event sig World)}
variable {α β : Type}

/-- The events only read. -/
def Reading (events : List (Event sig World)) : Prop :=
  ∀ event ∈ events, event.request.effect ∈ [.read, .resolve]

theorem Reading.append
    {first second : List (Event sig World)}
    (reads : Reading first)
    (readsToo : Reading second) :
    Reading (first ++ second) :=
  List.forall_mem_append.mpr ⟨reads, readsToo⟩

/-- A sequence that starts by reading stops there or continues in the same
world. -/
theorem Exec.after_reading
    {program : Go α}
    {next : α → Go β}
    {result : Except GoError β}
    (uses : program.run.Uses (Within [.read]))
    (ran : Exec (environment node) (program >>= next).run world events result after) :
    (Reading events ∧ after = world) ∨
    ∃ value first rest, events = first ++ rest ∧ Reading first ∧
      Exec (environment node) program.run world first (.ok value) world ∧
      Exec (environment node) (next value).run world rest result after := by
  have reads {events : List (Event sig World)}
      {result : Except GoError α}
      {last : World}
      (execution : Exec (environment node) program.run world events result last) :
      Reading events :=
    (within uses (by simp) : program.run.Uses (Within [.read, .resolve])).events_allowed
      execution
  rcases Exec.run_bind_iff.mp ran with
    ⟨error, rfl, failed⟩ | ⟨value, first, between, second, head, tail, rfl⟩
  · obtain ⟨rfl, -⟩ := Exec.of_reading failed (within uses (by simp))
    exact .inl ⟨reads failed, rfl⟩
  · obtain ⟨rfl, -⟩ := Exec.of_reading head (within uses (by simp))
    exact .inr ⟨value, first, second, rfl, reads head, head, tail⟩

end Reading

/-- Events that only read, and then nothing more or the events of a
continuation. -/
def StopsOr
    (world after : World)
    (continued : List (Event sig World) → Prop)
    (events : List (Event sig World)) : Prop :=
  ∃ first rest, events = first ++ rest ∧ Reading first ∧
    ((rest = [] ∧ after = world) ∨ continued rest)

namespace StopsOr

variable {world after : World} {continued : List (Event sig World) → Prop}

theorem stops {events : List (Event sig World)} (reads : Reading events) :
    StopsOr world world continued events :=
  ⟨events, [], by simp, reads, .inl ⟨rfl, rfl⟩⟩

theorem continues {events : List (Event sig World)} (holds : continued events) :
    StopsOr world after continued events :=
  ⟨[], events, rfl, by simp [Reading], .inr holds⟩

theorem after_reads
    {early events : List (Event sig World)}
    (reads : Reading early) :
    StopsOr world after continued events →
      StopsOr world after continued (early ++ events) := by
  rintro ⟨first, rest, rfl, readsToo, holds⟩
  exact ⟨early ++ first, rest, by simp, reads.append readsToo, holds⟩

end StopsOr

end Lvms
