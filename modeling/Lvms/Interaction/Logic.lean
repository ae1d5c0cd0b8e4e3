import Lvms.Interaction.Checks
import Lvms.Interaction.Program

/-!
# A program logic for interaction programs

Two judgments are used to reason about the events of a program.

`Program.Uses` bounds the footprint of a program: every call it can ever make,
whatever the responses are, satisfies a predicate. It does not mention worlds.

`wp` is a weakest precondition with a contract on events: as long as the
environment meets the assumption of the contract, every call of the program meets
its guarantee, and the postcondition holds at the end.

Both judgments have rules for the failure monad, in which the first error ends
a sequence.
-/

namespace Interaction

variable {sig : Signature} {World Choice : Type} {α β ε ε' : Type}
variable {env : Environment sig World Choice} {program : Program sig α}
variable {events : List (Event sig World)} {world world' : World}

/-! ## Programs that can fail -/

/-- A program that returns a value or an error. -/
abbrev Fallible (sig : Signature) (ε : Type) := ExceptT ε (Program sig)

namespace Fallible

/-- A call whose response is already a value or an error. -/
def ofProgram (program : Program sig (Except ε α)) : Fallible sig ε α :=
  ExceptT.mk program

/-- Rewrite the error of a program, as wrapping an error does. -/
def mapError (wrap : ε → ε') (program : Fallible sig ε α) : Fallible sig ε' α :=
  ofProgram do
    match ← program.run with
    | .ok value => return .ok value
    | .error error => return .error (wrap error)

/-- Run a program and hand its error to the caller as a value. -/
def attempt (program : Fallible sig ε α) : Fallible sig ε' (Except ε α) :=
  ExceptT.lift program.run

@[simp] theorem run_attempt (program : Fallible sig ε α) :
    (program.attempt : Fallible sig ε' (Except ε α)).run =
      program.run >>= fun result => pure (.ok result) := by
  simp only [attempt, ExceptT.run, ExceptT.lift, ExceptT.mk]
  exact map_eq_pure_bind _ _

@[simp] theorem run_ofProgram (program : Program sig (Except ε α)) :
    (ofProgram program).run = program := rfl

end Fallible

namespace Exec

variable {env : Environment sig World Choice}
variable {world world' : World} {events : List (Event sig World)}
variable {program : Fallible sig ε α} {next : α → Fallible sig ε β} {error : ε}

@[simp] theorem run_pure_iff
    {value : α}
    {result : Except ε α} :
    Exec env (pure value : Fallible sig ε α).run world events result world' ↔
      events = [] ∧ result = .ok value ∧ world' = world := by
  rw [ExceptT.run_pure, pure_iff]

@[simp] theorem run_throw_iff
    {error : ε}
    {result : Except ε α} :
    Exec env (throw error : Fallible sig ε α).run world events result world' ↔
      events = [] ∧ result = .error error ∧ world' = world := by
  rw [ExceptT.run_throw, pure_iff]

@[simp] theorem run_lift_iff
    {program : Program sig α}
    {result : Except ε α} :
    Exec env (liftM program : Fallible sig ε α).run world events result world' ↔
      ∃ value, result = .ok value ∧ Exec env program world events value world' := by
  have lifted : (liftM program : Fallible sig ε α).run =
      program >>= fun value => pure (.ok value) := by
    simp only [liftM, monadLift, MonadLift.monadLift, ExceptT.run, ExceptT.lift,
      ExceptT.mk]
    exact map_eq_pure_bind _ _
  rw [lifted, bind_iff]
  constructor
  · rintro ⟨first, value, between, second, head, tail, rfl⟩
    obtain ⟨rfl, rfl, rfl⟩ := pure_iff.mp tail
    exact ⟨value, rfl, by simpa using head⟩
  · rintro ⟨value, rfl, run⟩
    exact ⟨events, value, world', [], run, by simp, by simp⟩

/-- A pure result makes no calls. -/
theorem run_except_iff
    {value result : Except ε α} :
    Exec env (liftM value : Fallible sig ε α).run world events result world' ↔
      events = [] ∧ result = value ∧ world' = world :=
  pure_iff

/-- A failing sequence stops at its first error. -/
theorem run_bind_iff
    {result : Except ε β} :
    Exec env (program >>= next).run world events result world' ↔
      (∃ error, result = .error error ∧
        Exec env program.run world events (.error error) world') ∨
      ∃ value first between second,
        Exec env program.run world first (.ok value) between ∧
        Exec env (next value).run between second result world' ∧
        events = first ++ second := by
  rw [ExceptT.run_bind, bind_iff]
  constructor
  · rintro ⟨first, middle, between, second, head, tail, rfl⟩
    cases middle with
    | ok value => exact .inr ⟨value, first, between, second, head, tail, rfl⟩
    | error error =>
        obtain ⟨rfl, rfl, rfl⟩ := pure_iff.mp tail
        exact .inl ⟨error, rfl, by simpa using head⟩
  · rintro (⟨error, rfl, run⟩ | ⟨value, first, between, second, head, tail, rfl⟩)
    · exact ⟨events, .error error, world', [], run, by simp, by simp⟩
    · exact ⟨first, .ok value, between, second, head, tail, rfl⟩

/-- The error of the part is wrapped. -/
theorem run_mapError_iff
    {wrap : ε → ε'}
    {result : Except ε' α} :
    Exec env (program.mapError wrap).run world events result world' ↔
      ∃ inner, result = inner.mapError wrap ∧
        Exec env program.run world events inner world' := by
  rw [Fallible.mapError, Fallible.run_ofProgram, bind_iff]
  constructor
  · rintro ⟨first, inner, between, second, head, tail, rfl⟩
    cases inner with
    | ok value =>
        obtain ⟨rfl, rfl, rfl⟩ := pure_iff.mp tail
        exact ⟨.ok value, rfl, by simpa using head⟩
    | error error =>
        obtain ⟨rfl, rfl, rfl⟩ := pure_iff.mp tail
        exact ⟨.error error, rfl, by simpa using head⟩
  · rintro ⟨inner, rfl, run⟩
    refine ⟨events, inner, world', [], run, ?_, by simp⟩
    cases inner <;> simp [Except.mapError]

/-- An attempt always succeeds, with the result of the part. -/
theorem run_attempt_iff
    {result : Except ε' (Except ε α)} :
    Exec env (program.attempt : Fallible sig ε' (Except ε α)).run world events result
        world' ↔
      ∃ inner, result = .ok inner ∧ Exec env program.run world events inner world' := by
  rw [Fallible.run_attempt, bind_iff]
  constructor
  · rintro ⟨first, inner, between, second, head, tail, rfl⟩
    obtain ⟨rfl, rfl, rfl⟩ := pure_iff.mp tail
    exact ⟨inner, rfl, by simpa using head⟩
  · rintro ⟨inner, rfl, run⟩
    exact ⟨events, inner, world', [], run, by simp, by simp⟩

/-- A sequence that ends by returning a value made from the one before. -/
theorem run_bind_pure_iff
    {make : α → β}
    {result : Except ε β} :
    Exec env (program >>= fun value => pure (make value)).run world events result
        world' ↔
      ∃ inner, result = inner.map make ∧
        Exec env program.run world events inner world' := by
  rw [run_bind_iff]
  constructor
  · rintro (⟨error, rfl, run⟩ | ⟨value, first, between, second, head, tail, rfl⟩)
    · exact ⟨.error error, rfl, run⟩
    · obtain ⟨rfl, rfl, rfl⟩ := run_pure_iff.mp tail
      exact ⟨.ok value, rfl, by simpa using head⟩
  · rintro ⟨inner, rfl, run⟩
    cases inner with
    | error error => exact .inl ⟨error, rfl, run⟩
    | ok value =>
        exact .inr ⟨value, events, world', [], run, run_pure_iff.mpr ⟨rfl, rfl, rfl⟩,
          by simp⟩

/-! ### Executions that succeed -/

/-- A sequence succeeds when both parts do. -/
theorem run_bind_ok_iff
    {value : β} :
    Exec env (program >>= next).run world events (.ok value) world' ↔
      ∃ middle first between second,
        Exec env program.run world first (.ok middle) between ∧
        Exec env (next middle).run between second (.ok value) world' ∧
        events = first ++ second := by
  rw [run_bind_iff]
  simp

/-- What throws does not succeed. -/
theorem run_throw_not_ok
    {value : α} :
    ¬ Exec env (throw error : Fallible sig ε α).run world events (.ok value) world' := by
  simp

/-- Nothing comes after what throws. -/
theorem run_throw_bind_iff
    {result : Except ε β} :
    Exec env (throw error >>= next : Fallible sig ε β).run world events result world' ↔
      events = [] ∧ result = .error error ∧ world' = world := by
  rw [ExceptT.run_bind, ExceptT.run_throw, pure_bind]
  exact pure_iff

theorem run_throw_bind_not_ok
    {value : β} :
    ¬ Exec env (throw error >>= next : Fallible sig ε β).run world events (.ok value)
      world' := by
  rw [run_throw_bind_iff]
  simp

theorem run_lift_ok_iff
    {program : Program sig α}
    {value : α} :
    Exec env (liftM program : Fallible sig ε α).run world events (.ok value) world' ↔
      Exec env program world events value world' := by
  rw [run_lift_iff]
  simp

/-- Wrapping errors does not change success. -/
theorem run_mapError_ok_iff
    {wrap : ε → ε'}
    {value : α} :
    Exec env (program.mapError wrap).run world events (.ok value) world' ↔
      Exec env program.run world events (.ok value) world' := by
  rw [run_mapError_iff]
  constructor
  · rintro ⟨inner, same, run⟩
    rwa [Except.mapError_eq_ok_iff.mp same.symm] at run
  · intro run
    exact ⟨.ok value, rfl, run⟩

theorem run_attempt_ok_iff
    {inner : Except ε α} :
    Exec env (program.attempt : Fallible sig ε' (Except ε α)).run world events
        (.ok inner) world' ↔
      Exec env program.run world events inner world' := by
  rw [run_attempt_iff]
  simp

/-- A sequence that starts with what cannot fail goes on. -/
theorem run_lift_bind_iff
    {program : Program sig α}
    {result : Except ε β} :
    Exec env (liftM program >>= next : Fallible sig ε β).run world events result world' ↔
      ∃ value first between second,
        Exec env program world first value between ∧
        Exec env (next value).run between second result world' ∧
        events = first ++ second := by
  rw [run_bind_iff]
  simp only [run_lift_iff, reduceCtorEq, false_and, exists_false, and_false, false_or,
    Except.ok.injEq, exists_eq_left']

/-- A sequence that starts with what catches its error goes on. -/
theorem run_attempt_bind_iff
    {next : Except ε α → Fallible sig ε' β}
    {result : Except ε' β} :
    Exec env (program.attempt >>= next : Fallible sig ε' β).run world events result world' ↔
      ∃ inner first between second,
        Exec env program.run world first inner between ∧
        Exec env (next inner).run between second result world' ∧
        events = first ++ second := by
  rw [run_bind_iff]
  simp only [run_attempt_iff, reduceCtorEq, false_and, exists_false, and_false, false_or,
    Except.ok.injEq, exists_eq_left']

/-- A property that is lost in an execution is lost by one of its calls. -/
theorem exists_breaking
    {program : Program sig α}
    {value : α}
    (holds : World → Prop)
    (run : Exec env program world events value world')
    (initial : holds world)
    (lost : ¬holds world') :
    ∃ event ∈ events, holds event.before ∧
      ∃ choice, env.event choice event.before event.request = event ∧
        ¬holds (env.respond choice event.before event.request).2 := by
  induction run with
  | done value world => exact absurd initial lost
  | @call request resume world last events value choice rest inductionHypothesis =>
      by_cases next : holds (env.respond choice world request).2
      · obtain ⟨event, member, breaks⟩ := inductionHypothesis next lost
        exact ⟨event, List.mem_cons_of_mem _ member, breaks⟩
      · exact ⟨_, List.mem_cons_self, initial, choice, rfl, next⟩

end Exec

/-! ### Parts of an execution -/

/-- Some consecutive events are those of a program that returned a value. -/
def Ran
    (env : Environment sig World Choice)
    (program : Program sig α)
    (value : α)
    (events : List (Event sig World)) : Prop :=
  ∃ during world world', during <:+: events ∧
    Exec env program world during value world'

/-- What ran in a part of the events ran in all of them. -/
theorem Ran.of_part
    {value : α}
    {part : List (Event sig World)}
    (ran : Ran env program value part)
    (inside : part <:+: events) :
    Ran env program value events := by
  obtain ⟨during, world, world', within, run⟩ := ran
  exact ⟨during, world, world', within.trans inside, run⟩

/-- Both parts of a sequence are parts of what the sequence is a part of. -/
theorem Exec.bind_inside
    {next : α → Program sig β}
    {value : β}
    {all : List (Event sig World)}
    (run : Exec env (program >>= next) world events value world')
    (inside : events <:+: all) :
    ∃ first middle between second,
      Exec env program world first middle between ∧
      Exec env (next middle) between second value world' ∧
      first <:+: all ∧ second <:+: all := by
  obtain ⟨first, middle, between, second, head, tail, rfl⟩ := bind_iff.mp run
  exact ⟨first, middle, between, second, head, tail,
    (List.prefix_append ..).isInfix.trans inside,
    (List.suffix_append ..).isInfix.trans inside⟩

/-- Both parts of a sequence that succeeds. -/
theorem Exec.run_bind_ok_inside
    {program : Fallible sig ε α}
    {next : α → Fallible sig ε β}
    {value : β}
    {all : List (Event sig World)}
    (run : Exec env (program >>= next).run world events (.ok value) world')
    (inside : events <:+: all) :
    ∃ middle first between second,
      Exec env program.run world first (.ok middle) between ∧
      Exec env (next middle).run between second (.ok value) world' ∧
      first <:+: all ∧ second <:+: all := by
  obtain ⟨middle, first, between, second, head, tail, rfl⟩ := run_bind_ok_iff.mp run
  exact ⟨middle, first, between, second, head, tail,
    (List.prefix_append ..).isInfix.trans inside,
    (List.suffix_append ..).isInfix.trans inside⟩

/-- An execution is inside its own events. -/
theorem Exec.ran
    {value : α}
    (run : Exec env program world events value world') :
    Ran env program value events :=
  ⟨events, world, world', List.infix_rfl, run⟩

/-- A loop that succeeds has run its body for every element. -/
theorem Exec.run_forM_ok
    {elements : List α}
    {body : α → Fallible sig ε PUnit}
    (run : Exec env (forM elements body).run world events (.ok ⟨⟩) world') :
    ∀ element ∈ elements, Ran env (body element).run (.ok ⟨⟩) events := by
  induction elements generalizing world events with
  | nil => simp
  | cons element rest inductionHypothesis =>
      rw [List.forM_cons] at run
      obtain ⟨_, first, between, second, head, tail, insideFirst, insideSecond⟩ :=
        run.run_bind_ok_inside List.infix_rfl
      rw [List.forall_mem_cons]
      refine ⟨head.ran.of_part insideFirst, fun other member => ?_⟩
      exact (inductionHypothesis tail other member).of_part insideSecond

/-! ## Footprints -/

namespace Program

/-- Every call the program can make is allowed, whatever the responses are. -/
def Uses (allowed : sig.Request → Prop) : Program sig α → Prop
  | .done _ => True
  | .call request resume =>
      allowed request ∧ ∀ response, (resume response).Uses allowed

/-- Every value the program can return is good, whatever the responses are. -/
def Yields (good : α → Prop) : Program sig α → Prop
  | .done value => good value
  | .call _ resume => ∀ response, (resume response).Yields good

namespace Yields

variable {good : β → Prop}

theorem mono
    {better : β → Prop}
    {program : Program sig β}
    (yields : program.Yields better)
    (implies : ∀ value, better value → good value) :
    program.Yields good := by
  induction program with
  | done value => exact implies value yields
  | call request resume inductionHypothesis =>
      exact fun response => inductionHypothesis response (yields response)

theorem bind
    {program : Program sig α}
    {next : α → Program sig β}
    (rest : ∀ value, (next value).Yields good) :
    (program >>= next).Yields good := by
  rw [bind_eq]
  induction program with
  | done value => exact rest value
  | call request resume inductionHypothesis => exact inductionHypothesis

/-- What follows only has to be considered for values that the first part returns. -/
theorem bind_of_yields
    {first : α → Prop}
    {program : Program sig α}
    {next : α → Program sig β}
    (yields : program.Yields first)
    (rest : ∀ value, first value → (next value).Yields good) :
    (program >>= next).Yields good := by
  rw [bind_eq]
  induction program with
  | done value => exact rest value yields
  | call request resume inductionHypothesis =>
      exact fun response => inductionHypothesis response (yields response)

theorem run_lift
    {program : Program sig β}
    (yields : program.Yields good) :
    (liftM program : Fallible sig ε β).run.Yields fun result =>
      ∀ value, result = .ok value → good value := by
  refine bind_of_yields yields fun value isGood => ?_
  rintro _ ⟨⟩
  exact isGood

theorem run_bind
    {good : Except ε β → Prop}
    {program : Fallible sig ε α}
    {next : α → Fallible sig ε β}
    (failed : ∀ error, good (.error error))
    (rest : ∀ value, (next value).run.Yields good) :
    (program >>= next).run.Yields good := by
  rw [ExceptT.run_bind]
  refine bind fun result => ?_
  cases result with
  | ok value => exact rest value
  | error error => exact failed error

theorem run_mapError
    {good : β → Prop}
    {wrap : ε → ε'}
    {program : Fallible sig ε β}
    (yields : program.run.Yields fun result => ∀ value, result = .ok value → good value) :
    (program.mapError wrap).run.Yields fun result =>
      ∀ value, result = .ok value → good value := by
  rw [Fallible.mapError, Fallible.run_ofProgram, bind_eq]
  generalize program.run = started at *
  induction started with
  | done result =>
      cases result with
      | ok value =>
          rintro _ ⟨⟩
          exact yields value rfl
      | error error => rintro _ ⟨⟩
  | call request resume inductionHypothesis =>
      exact fun response => inductionHypothesis response (yields response)

/-- The value of an execution is one that its program can return. -/
theorem sound
    {env : Environment sig World Choice}
    {program : Program sig β}
    {world world' : World}
    {events : List (Event sig World)}
    {value : β}
    (yields : program.Yields good)
    (run : Exec env program world events value world') :
    good value := by
  induction run with
  | done value world => exact yields
  | call choice rest inductionHypothesis => exact inductionHypothesis (yields _)

end Yields

namespace Uses

variable {allowed permitted : sig.Request → Prop}
variable {program : Program sig α} {next : α → Fallible sig ε β}
variable {env : Environment sig World Choice} {world world' : World}
variable {events : List (Event sig World)}

@[simp] theorem done (value : α) : (Program.done value).Uses allowed := trivial

@[simp] theorem pure (value : α) :
    (Pure.pure value : Program sig α).Uses allowed := trivial

theorem bind
    {next : α → Program sig β}
    (first : program.Uses allowed)
    (rest : ∀ value, (next value).Uses allowed) :
    (program >>= next).Uses allowed := by
  rw [bind_eq]
  induction program with
  | done value => exact rest value
  | call request resume inductionHypothesis =>
      exact ⟨first.1, fun response =>
        inductionHypothesis response (first.2 response)⟩

theorem mono
    (uses : program.Uses allowed)
    (weaker : ∀ request, allowed request → permitted request) :
    program.Uses permitted := by
  induction program with
  | done value => trivial
  | call request resume inductionHypothesis =>
      exact ⟨weaker request uses.1, fun response =>
        inductionHypothesis response (uses.2 response)⟩

theorem run_throw (error : ε) :
    (throw error : Fallible sig ε α).run.Uses allowed := trivial

theorem run_bind
    {program : Fallible sig ε α}
    (first : program.run.Uses allowed)
    (rest : ∀ value, (next value).run.Uses allowed) :
    (program >>= next).run.Uses allowed := by
  rw [ExceptT.run_bind]
  refine first.bind fun result => ?_
  cases result with
  | ok value => exact rest value
  | error error => trivial

theorem run_lift
    (uses : program.Uses allowed) :
    (liftM program : Fallible sig ε α).run.Uses allowed := by
  simp only [liftM, monadLift, MonadLift.monadLift, ExceptT.run, ExceptT.lift,
    ExceptT.mk]
  rw [map_eq_pure_bind]
  exact uses.bind fun _ => trivial

theorem run_mapError
    {wrap : ε → ε'}
    {program : Fallible sig ε α}
    (uses : program.run.Uses allowed) :
    (program.mapError wrap).run.Uses allowed := by
  refine uses.bind fun result => ?_
  cases result <;> trivial

theorem run_attempt
    {program : Fallible sig ε α}
    (uses : program.run.Uses allowed) :
    (program.attempt : Fallible sig ε' (Except ε α)).run.Uses allowed := by
  rw [Fallible.run_attempt]
  exact uses.bind fun _ => trivial

theorem run_forM
    {elements : List α}
    {body : α → Fallible sig ε PUnit}
    (uses : ∀ element ∈ elements, (body element).run.Uses allowed) :
    (forM elements body).run.Uses allowed := by
  induction elements with
  | nil => trivial
  | cons element rest inductionHypothesis =>
      obtain ⟨headUses, tailUses⟩ := List.forall_mem_cons.mp uses
      rw [List.forM_cons]
      exact headUses.run_bind fun _ => inductionHypothesis tailUses

/-- A program has both footprints. -/
theorem both
    (uses : program.Uses allowed)
    (usesToo : program.Uses permitted) :
    program.Uses fun request => allowed request ∧ permitted request := by
  induction program with
  | done value => trivial
  | call request resume inductionHypothesis =>
      exact ⟨⟨uses.1, usesToo.1⟩, fun response =>
        inductionHypothesis response (uses.2 response) (usesToo.2 response)⟩

/-- The rest of a sequence only has to be considered for values that its first
part can return. -/
theorem run_bind_of_yields
    {good : α → Prop}
    {program : Fallible sig ε α}
    (first : program.run.Uses allowed)
    (yields : program.run.Yields fun result => ∀ value, result = .ok value → good value)
    (rest : ∀ value, good value → (next value).run.Uses allowed) :
    (program >>= next).run.Uses allowed := by
  rw [ExceptT.run_bind, bind_eq]
  generalize program.run = started at *
  induction started with
  | done result =>
      cases result with
      | ok value => exact rest value (yields value rfl)
      | error error => trivial
  | call request resume inductionHypothesis =>
      exact ⟨first.1, fun response =>
        inductionHypothesis response (first.2 response) (yields response)⟩

/-- The calls of an execution are in the footprint of its program. -/
theorem events_allowed
    {value : α}
    (uses : program.Uses allowed)
    (run : Exec env program world events value world') :
    ∀ event ∈ events, allowed event.request := by
  induction run with
  | done value world => simp
  | call choice rest inductionHypothesis =>
      intro event member
      rcases List.mem_cons.mp member with rfl | later
      · exact uses.1
      · exact inductionHypothesis (uses.2 _) event later

/-- An event outside the footprint of the first part of a sequence belongs to the
second part, so the first part did not fail. -/
theorem run_bind_reached
    {program : Fallible sig ε α}
    {result : Except ε β}
    {event : Event sig World}
    (uses : program.run.Uses allowed)
    (run : Exec env (program >>= next).run world events result world')
    (member : event ∈ events)
    (outside : ¬ allowed event.request) :
    ∃ value first between second,
      Exec env program.run world first (.ok value) between ∧
      Exec env (next value).run between second result world' ∧
      events = first ++ second ∧ event ∈ second := by
  rcases Exec.run_bind_iff.mp run with
    ⟨error, -, failed⟩ | ⟨value, first, between, second, head, tail, rfl⟩
  · exact absurd (uses.events_allowed failed event member) outside
  · rcases List.mem_append.mp member with early | late
    · exact absurd (uses.events_allowed head event early) outside
    · exact ⟨value, first, between, second, head, tail, rfl, late⟩

/-- Both parts of a sequence whose second part has an event outside the footprint of
the first. -/
theorem run_bind_reached_inside
    {program : Fallible sig ε α}
    {all : List (Event sig World)}
    {result : Except ε β}
    {event : Event sig World}
    (uses : program.run.Uses allowed)
    (run : Exec env (program >>= next).run world events result world')
    (inside : events <:+: all)
    (member : event ∈ events)
    (outside : ¬ allowed event.request) :
    ∃ value first between second,
      Exec env program.run world first (.ok value) between ∧
      Exec env (next value).run between second result world' ∧
      first <:+: all ∧ second <:+: all ∧ event ∈ second := by
  obtain ⟨value, first, between, second, head, tail, rfl, late⟩ :=
    uses.run_bind_reached run member outside
  exact ⟨value, first, between, second, head, tail,
    (List.prefix_append ..).isInfix.trans inside,
    (List.suffix_append ..).isInfix.trans inside, late⟩

/-- A property of worlds kept by every call of the footprint holds throughout
an execution. -/
theorem preserves
    {value : α}
    {invariant : World → Prop}
    (uses : program.Uses allowed)
    (kept : ∀ choice world request, allowed request → invariant world →
      invariant (env.respond choice world request).2)
    (run : Exec env program world events value world')
    (start : invariant world) :
    (∀ event ∈ events, invariant event.before) ∧ invariant world' := by
  induction run with
  | done value world => simpa using start
  | call choice rest inductionHypothesis =>
      obtain ⟨throughout, final⟩ := inductionHypothesis (uses.2 _)
        (kept choice _ _ uses.1 start)
      refine ⟨?_, final⟩
      intro event member
      rcases List.mem_cons.mp member with rfl | later
      · exact start
      · exact throughout event later

end Uses
end Program

/-! ## Weakest preconditions -/

/-- What a program may assume about the answers to its calls, and what each of
its calls must guarantee. -/
structure Contract (sig : Signature) (World : Type) where
  /-- An assumption on the answers of the environment. -/
  assumes : Event sig World → Prop := fun _ => True
  /-- A guarantee on the calls of the program. -/
  guarantees : Event sig World → Prop := fun _ => True

/-- The contract that only assumes. -/
def Contract.assuming (assumes : Event sig World → Prop) : Contract sig World :=
  { assumes }

/-- The worlds from which a program meets its contract and ends in `post`. -/
def wp
    (env : Environment sig World Choice)
    (contract : Contract sig World) :
    Program sig α → (α → World → Prop) → World → Prop
  | .done value, post, world => post value world
  | .call request resume, post, world =>
      ∀ choice, contract.assumes (env.event choice world request) →
        contract.guarantees (env.event choice world request) ∧
        wp env contract (resume (env.respond choice world request).1) post
          (env.respond choice world request).2

namespace wp

variable {env : Environment sig World Choice} {contract : Contract sig World}
variable {world : World}
variable {program : Program sig α} {post : α → World → Prop}

@[simp] theorem pure_iff
    {value : α}
    {post : α → World → Prop} :
    wp env contract (pure value) post world ↔ post value world := Iff.rfl

/-- The precondition of a sequence is computed from its end. -/
@[simp] theorem bind_iff
    {program : Program sig α}
    {next : α → Program sig β}
    {post : β → World → Prop} :
    wp env contract (program >>= next) post world ↔
      wp env contract program
        (fun value => wp env contract (next value) post) world := by
  rw [Program.bind_eq]
  induction program generalizing world with
  | done value => rfl
  | call request resume inductionHypothesis =>
      simp only [Program.call_bind, wp, inductionHypothesis]

/-- A weaker postcondition. -/
theorem mono
    {post' : α → World → Prop}
    (holds : wp env contract program post world)
    (weaker : ∀ value world, post value world → post' value world) :
    wp env contract program post' world := by
  induction program generalizing world with
  | done value => exact weaker value world holds
  | call request resume inductionHypothesis =>
      intro choice assumed
      obtain ⟨guaranteed, rest⟩ := holds choice assumed
      exact ⟨guaranteed, inductionHypothesis _ rest⟩

/-- Two postconditions hold together. -/
theorem both
    {post' : α → World → Prop}
    (first : wp env contract program post world)
    (second : wp env contract program post' world) :
    wp env contract program
      (fun value world => post value world ∧ post' value world) world := by
  induction program generalizing world with
  | done value => exact ⟨first, second⟩
  | call request resume inductionHypothesis =>
      intro choice assumed
      obtain ⟨guaranteed, rest⟩ := first choice assumed
      exact ⟨guaranteed, inductionHypothesis _ rest (second choice assumed).2⟩

/-- A guarantee that the whole footprint meets. -/
theorem guaranteed
    {assumes guarantees : Event sig World → Prop}
    {allowed : sig.Request → Prop}
    (holds : wp env (.assuming assumes) program post world)
    (uses : program.Uses allowed)
    (meets : ∀ event, allowed event.request → guarantees event) :
    wp env ⟨assumes, guarantees⟩ program post world := by
  induction program generalizing world with
  | done value => exact holds
  | call request resume inductionHypothesis =>
      intro choice assumed
      exact ⟨meets _ uses.1,
        inductionHypothesis _ (holds choice assumed).2 (uses.2 _)⟩

/-- Executions from a weakest precondition meet the contract. -/
theorem sound
    {world' : World}
    {events : List (Event sig World)}
    {value : α}
    (holds : wp env contract program post world)
    (run : Exec env program world events value world')
    (assumed : ∀ event ∈ events, contract.assumes event) :
    (∀ event ∈ events, contract.guarantees event) ∧ post value world' := by
  induction run with
  | done value world => exact ⟨by simp, holds⟩
  | call choice rest inductionHypothesis =>
      rw [List.forall_mem_cons] at assumed ⊢
      obtain ⟨guaranteed, continued⟩ := holds choice assumed.1
      obtain ⟨later, final⟩ := inductionHypothesis continued assumed.2
      exact ⟨⟨guaranteed, later⟩, final⟩

/-- A footprint whose calls keep an invariant, and meet the guarantee under it,
keeps the invariant. -/
theorem of_uses
    {allowed : sig.Request → Prop}
    {invariant : World → Prop}
    (uses : program.Uses allowed)
    (kept : ∀ choice world request, allowed request → invariant world →
      contract.assumes (env.event choice world request) →
      contract.guarantees (env.event choice world request) ∧
      invariant (env.respond choice world request).2)
    (start : invariant world) :
    wp env contract program (fun _ => invariant) world := by
  induction program generalizing world with
  | done value => exact start
  | call request resume inductionHypothesis =>
      intro choice assumed
      obtain ⟨guaranteed, next⟩ := kept choice world request uses.1 start assumed
      exact ⟨guaranteed, inductionHypothesis _ (uses.2 _) next⟩

/-! ### Programs that can fail -/

@[simp] theorem run_pure_iff
    {value : α}
    {post : Except ε α → World → Prop} :
    wp env contract (pure value : Fallible sig ε α).run post world ↔
      post (.ok value) world := Iff.rfl

@[simp] theorem run_throw_iff
    {error : ε}
    {post : Except ε α → World → Prop} :
    wp env contract (throw error : Fallible sig ε α).run post world ↔
      post (.error error) world := Iff.rfl

/-- In a sequence that can fail, an error of the first part is the result. -/
@[simp] theorem run_bind_iff
    {program : Fallible sig ε α}
    {next : α → Fallible sig ε β}
    {post : Except ε β → World → Prop} :
    wp env contract (program >>= next).run post world ↔
      wp env contract program.run (fun result world =>
        (∀ error, result = .error error → post (.error error) world) ∧
        ∀ value, result = .ok value →
          wp env contract (next value).run post world) world := by
  rw [ExceptT.run_bind, bind_iff]
  constructor <;>
  · intro holds
    refine holds.mono fun result world => ?_
    cases result <;> simp

/-- What throws first ends there. -/
theorem run_throw_bind_iff
    {error : ε}
    {next : α → Fallible sig ε β}
    {post : Except ε β → World → Prop} :
    wp env contract (throw error >>= next : Fallible sig ε β).run post world ↔
      post (.error error) world := by
  rw [run_bind_iff, run_throw_iff]
  simp

@[simp] theorem run_lift_iff
    {program : Program sig α}
    {post : Except ε α → World → Prop} :
    wp env contract (liftM program : Fallible sig ε α).run post world ↔
      wp env contract program (fun value => post (.ok value)) world := by
  have lifted : (liftM program : Fallible sig ε α).run =
      program >>= fun value => pure (.ok value) := by
    simp only [liftM, monadLift, MonadLift.monadLift, ExceptT.run, ExceptT.lift,
      ExceptT.mk]
    exact map_eq_pure_bind _ _
  rw [lifted, bind_iff]
  rfl

@[simp] theorem run_attempt_iff
    {program : Fallible sig ε α}
    {post : Except ε' (Except ε α) → World → Prop} :
    wp env contract (program.attempt : Fallible sig ε' (Except ε α)).run post
        world ↔
      wp env contract program.run (fun result => post (.ok result)) world := by
  rw [Fallible.run_attempt, bind_iff]
  rfl

@[simp] theorem run_mapError_iff
    {wrap : ε → ε'}
    {program : Fallible sig ε α}
    {post : Except ε' α → World → Prop} :
    wp env contract (program.mapError wrap).run post world ↔
      wp env contract program.run
        (fun result => post (result.mapError wrap)) world := by
  rw [Fallible.mapError, Fallible.run_ofProgram, bind_iff]
  constructor <;>
  · intro holds
    refine holds.mono fun result world => ?_
    cases result <;> exact id

end wp
end Interaction
