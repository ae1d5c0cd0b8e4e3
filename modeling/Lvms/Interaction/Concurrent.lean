import Lvms.Interaction.Protocol
import Mathlib.Logic.Relation

/-!
# Programs that run at the same time

Programs that run in one world are answered one call at a time, in any order. A pool is
the world together with the running programs, each with the events it has been part of.
What the others do is only seen in the answers, so a program is judged by what remains
of it after its own events, and by what the answers have told it.
-/

namespace Interaction

variable {sig : Signature} {World Choice Tag Fact α β ε : Type}

namespace Program

/-! ## What remains of a program -/

/-- What remains of a program after some of its calls have been answered. -/
inductive Remains (program : Program sig α) : List (Event sig World) → Program sig α → Prop
  | start : Remains program [] program
  | answered {events before request resume}
      (earlier : Remains program events (.call request resume))
      (response : sig.Response request) :
      Remains program (events ++ [⟨before, request, response⟩]) (resume response)

namespace Remains

variable {events : List (Event sig World)} {request : sig.Request}
variable {allowed : sig.Request → Prop} {program rest : Program sig α}

/-- What remains has the footprint of the program. -/
theorem uses
    (remains : program.Remains events rest)
    (uses : program.Uses allowed) :
    rest.Uses allowed := by
  induction remains with
  | start => exact uses
  | answered _ response inductionHypothesis => exact inductionHypothesis.2 response

/-- Nothing happens after the end. -/
theorem of_done
    {value : α}
    (remains : (Program.done value).Remains events rest) :
    events = [] ∧ rest = .done value := by
  induction remains with
  | start => exact ⟨rfl, rfl⟩
  | answered _ _ inductionHypothesis => cases inductionHypothesis.2

/-- What remains of a program that starts with a call is all of it, or some of what
follows the answer. -/
theorem call_cases
    {resume : sig.Response request → Program sig α}
    (remains : (Program.call request resume).Remains events rest) :
    (events = [] ∧ rest = .call request resume) ∨
    ∃ before response later, events = ⟨before, request, response⟩ :: later ∧
      (resume response).Remains later rest := by
  induction remains with
  | start => exact .inl ⟨rfl, rfl⟩
  | answered _ response inductionHypothesis =>
      rcases inductionHypothesis with
        ⟨rfl, same⟩ | ⟨before, answer, later, rfl, remains⟩
      · cases same
        exact .inr ⟨_, response, [], rfl, .start⟩
      · exact .inr ⟨before, answer, later ++ [_], rfl, remains.answered response⟩

/-- What remains of a sequence is some of its first part and its second part, or some of
its second part. -/
theorem bind_cases
    {next : α → Program sig β}
    {rest : Program sig β}
    (remains : (program >>= next).Remains events rest) :
    (∃ first, program.Remains events first ∧ rest = first >>= next) ∨
    ∃ first second value, events = first ++ second ∧
      program.Remains first (.done value) ∧ (next value).Remains second rest := by
  induction remains with
  | start => exact .inl ⟨program, .start, rfl⟩
  | @answered events before request resume _ response inductionHypothesis =>
      rcases inductionHypothesis with
        ⟨part, remains, same⟩ | ⟨first, second, value, rfl, finished, remains⟩
      · cases part with
        | done value =>
            -- The first part has just ended, so this is the first call of the second.
            refine .inr ⟨events, [_], value, rfl, remains, ?_⟩
            have begun : (next value).Remains ([] : List (Event sig World))
                (.call request resume) :=
              same ▸ .start
            exact begun.answered response
        | call asked continued =>
            cases same
            exact .inl ⟨continued response, remains.answered response, rfl⟩
      · exact .inr ⟨first, second ++ [⟨before, request, response⟩], value,
          List.append_assoc .., finished, remains.answered response⟩

/-- The calls of a sequence that are not calls of its first part are calls of its second
part. -/
theorem bind_call
    {next : α → Program sig β}
    {resume : sig.Response request → Program sig β}
    (remains : (program >>= next).Remains events (.call request resume))
    (uses : program.Uses allowed)
    (isOther : ¬allowed request) :
    ∃ first second value, events = first ++ second ∧
      program.Remains first (.done value) ∧
      (next value).Remains second (.call request resume) := by
  rcases remains.bind_cases with ⟨part, partRemains, same⟩ | later
  · cases part with
    | done value =>
        refine ⟨events, [], value, by simp, partRemains, ?_⟩
        rw [same]
        exact .start
    | call asked continued =>
        cases same
        exact absurd (partRemains.uses uses).1 isOther
  · exact later

theorem run_bind_call
    {program : Fallible sig ε α}
    {next : α → Fallible sig ε β}
    {resume : sig.Response request → Program sig (Except ε β)}
    (remains : (program >>= next).run.Remains events (.call request resume))
    (uses : program.run.Uses allowed)
    (isOther : ¬allowed request) :
    ∃ first second value, events = first ++ second ∧
      program.run.Remains first (.done (.ok value)) ∧
      (next value).run.Remains second (.call request resume) := by
  rw [ExceptT.run_bind] at remains
  obtain ⟨first, second, result, rfl, finished, remains⟩ := remains.bind_call uses isOther
  cases result with
  | ok value => exact ⟨first, second, value, rfl, finished, remains⟩
  | error error => cases remains.of_done.2

end Remains
end Program

/-! ## What a program has been told -/

/-- The facts that answers have told. -/
def Learned
    (learns : (request : sig.Request) → sig.Response request → Fact → Prop)
    (events : List (Event sig World))
    (fact : Fact) : Prop :=
  ∃ event ∈ events, learns event.request event.response fact

/-- What is allowed depends on the facts that are known, and answers tell only such
facts. -/
def Protocol.knowing
    (learns : (request : sig.Request) → sig.Response request → Fact → Prop)
    (allowed : (Fact → Prop) → sig.Request → Prop)
    (knows : Fact → Prop) : Protocol sig where
  allowed := allowed knows
  expected request response := ∀ fact, learns request response fact → knows fact

section Knowing

variable {learns : (request : sig.Request) → sig.Response request → Fact → Prop}
variable {allowed : (Fact → Prop) → sig.Request → Prop}
variable {events : List (Event sig World)}

theorem Learned.append
    {fact : Fact}
    (later : List (Event sig World))
    (learned : Learned learns events fact) :
    Learned learns (events ++ later) fact := by
  obtain ⟨event, member, tells⟩ := learned
  exact ⟨event, List.mem_append_left _ member, tells⟩

theorem learned_concat_iff
    {event : Event sig World}
    {fact : Fact} :
    Learned learns (events ++ [event]) fact ↔
      Learned learns events fact ∨ learns event.request event.response fact := by
  simp [Learned, or_and_right, exists_or]

/-- If a program obeys the protocol whatever it knows, what remains of it obeys the
protocol for what it has been told. -/
theorem Program.Remains.obeys
    {good : α → Prop}
    {program rest : Program sig α}
    {knows : Fact → Prop}
    (remains : program.Remains events rest)
    (obeys : ∀ knows, program.Obeys (.knowing learns allowed knows) good)
    (told : ∀ fact, Learned learns events fact → knows fact) :
    rest.Obeys (.knowing learns allowed knows) good := by
  induction remains with
  | start => exact obeys knows
  | answered _ response inductionHypothesis =>
      refine (inductionHypothesis fun fact learned => told fact (learned.append _)).2
        response fun fact tells => ?_
      exact told fact (learned_concat_iff.mpr (.inr tells))

/-- Every call is allowed by what the program has been told. -/
theorem Program.Remains.call_allowed
    {good : α → Prop}
    {program : Program sig α}
    {request : sig.Request}
    {resume : sig.Response request → Program sig α}
    (remains : program.Remains events (.call request resume))
    (obeys : ∀ knows, program.Obeys (.knowing learns allowed knows) good) :
    allowed (Learned learns events) request :=
  (remains.obeys obeys fun _ => id).1

end Knowing

/-! ## Pools -/

/-- A running program with its events. -/
structure Thread (sig : Signature) (World Tag α : Type) where
  tag : Tag
  events : List (Event sig World)
  program : Program sig α

/-- The world and the running programs. -/
structure Pool (sig : Signature) (World Tag α : Type) where
  world : World
  threads : List (Thread sig World Tag α)

/-- The programs that can be started, how they are answered, and how the world changes
without them. -/
structure Machine (sig : Signature) (World Choice Tag α : Type) where
  env : Tag → Environment sig World Choice
  start : Tag → Program sig α
  change : World → World → Prop

/-- One step: a program is started, a call of a program is answered, a program is
stopped, or the world changes on its own. A call is only answered in a proper way, which
can depend on the pool, the program and the world after it. -/
inductive Machine.Step
    (machine : Machine sig World Choice Tag α)
    (proper : Pool sig World Tag α → Thread sig World Tag α → World → Prop) :
    Pool sig World Tag α → Pool sig World Tag α → Prop
  | spawn {world threads} (tag : Tag) :
      Step machine proper ⟨world, threads⟩
        ⟨world, ⟨tag, [], machine.start tag⟩ :: threads⟩
  | call {world left right tag events request resume} (choice : Choice)
      (isProper : proper ⟨world, left ++ ⟨tag, events, .call request resume⟩ :: right⟩
        ⟨tag, events, .call request resume⟩
        ((machine.env tag).respond choice world request).2) :
      Step machine proper ⟨world, left ++ ⟨tag, events, .call request resume⟩ :: right⟩
        ⟨((machine.env tag).respond choice world request).2,
          left ++ ⟨tag, events ++ [(machine.env tag).event choice world request],
            resume ((machine.env tag).respond choice world request).1⟩ :: right⟩
  | stop {world left thread right} :
      Step machine proper ⟨world, left ++ thread :: right⟩ ⟨world, left ++ right⟩
  | change {world after threads} (changes : machine.change world after) :
      Step machine proper ⟨world, threads⟩ ⟨after, threads⟩

namespace Machine

variable {machine : Machine sig World Choice Tag α}
variable {proper : Pool sig World Tag α → Thread sig World Tag α → World → Prop}
variable {first last : Pool sig World Tag α}

/-- Any number of steps. -/
abbrev Run
    (machine : Machine sig World Choice Tag α)
    (proper : Pool sig World Tag α → Thread sig World Tag α → World → Prop) :
    Pool sig World Tag α → Pool sig World Tag α → Prop :=
  Relation.ReflTransGen (machine.Step proper)

/-- Every thread of a run is what remains of a program that was started. -/
theorem Run.remains
    (run : machine.Run proper first last)
    (idle : first.threads = []) :
    ∀ thread ∈ last.threads,
      (machine.start thread.tag).Remains thread.events thread.program := by
  induction run with
  | refl => simp [idle]
  | tail _ step inductionHypothesis =>
      cases step with
      | spawn tag => exact List.forall_mem_cons.mpr ⟨.start, inductionHypothesis⟩
      | call choice _ =>
          simp only [List.forall_mem_append, List.forall_mem_cons] at inductionHypothesis ⊢
          obtain ⟨onLeft, remains, onRight⟩ := inductionHypothesis
          exact ⟨onLeft, remains.answered _, onRight⟩
      | stop =>
          simp only [List.forall_mem_append, List.forall_mem_cons] at inductionHypothesis ⊢
          exact ⟨inductionHypothesis.1, inductionHypothesis.2.2⟩
      | change => exact inductionHypothesis

/-- A program can run alone, if all its calls are answered in a proper way. -/
theorem Run.alone
    (pick : World → sig.Request → Choice)
    (tag : Tag)
    {program : Program sig α}
    {world : World}
    {events : List (Event sig World)}
    (isProper : ∀ event ∈ (program.run (machine.env tag) pick world).1, ∀ earlier resume,
      proper ⟨event.before, [⟨tag, earlier, .call event.request resume⟩]⟩
        ⟨tag, earlier, .call event.request resume⟩
        ((machine.env tag).respond (pick event.before event.request) event.before
          event.request).2) :
    machine.Run proper ⟨world, [⟨tag, events, program⟩]⟩
      ⟨(program.run (machine.env tag) pick world).2.2,
        [⟨tag, events ++ (program.run (machine.env tag) pick world).1,
          .done (program.run (machine.env tag) pick world).2.1⟩]⟩ := by
  induction program generalizing world events with
  | done value =>
      rw [Program.run, List.append_nil]
  | call request resume inductionHypothesis =>
      obtain ⟨first, others⟩ := List.forall_mem_cons.mp isProper
      have step : machine.Step proper
          ⟨world, [] ++ ⟨tag, events, .call request resume⟩ :: []⟩ _ :=
        .call (pick world request) (first events resume)
      have rest := @inductionHypothesis _ _
        (events ++ [(machine.env tag).event (pick world request) world request]) others
      rw [List.append_assoc] at rest
      exact .head step rest

end Machine
end Interaction
