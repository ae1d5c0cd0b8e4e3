import Mathlib.Logic.Basic
import Mathlib.Data.List.Basic

/-!
# Interaction programs

A program is a tree of calls to its environment. Every call carries the
continuation for each possible response, so the code of a program and the
behaviour of its environment are described separately. An environment answers a
call by a function of the world and of a free choice; all nondeterminism
(failures, iteration orders, partial effects) is in the choice.

An execution records the events of a program: the world in which a call was
issued, the call, and the response. Statements about what a program does to its
environment are statements about the events of all of its executions.
-/

namespace Interaction

/-- The calls a program can make, and the type of the answer to each of them. -/
structure Signature where
  /-- The calls. -/
  Request : Type
  /-- The answer to a call. -/
  Response : Request → Type

/-- A program over a signature: a finished value, or a call with a continuation. -/
inductive Program (sig : Signature) (α : Type) : Type
  | done (value : α)
  | call (request : sig.Request) (resume : sig.Response request → Program sig α)

namespace Program

variable {sig : Signature} {α β γ : Type}

/-- Run a program and continue with its value. -/
def bind : Program sig α → (α → Program sig β) → Program sig β
  | .done value, next => next value
  | .call request resume, next =>
      .call request fun response => (resume response).bind next

instance : Monad (Program sig) where
  pure := .done
  bind := bind

theorem bind_eq
    (program : Program sig α)
    (next : α → Program sig β) :
    program >>= next = program.bind next := rfl

@[simp] theorem call_bind
    (request : sig.Request)
    (resume : sig.Response request → Program sig α)
    (next : α → Program sig β) :
    (call request resume).bind next =
      call request fun response => (resume response).bind next := rfl

@[simp] theorem bind_done (program : Program sig α) :
    program.bind done = program := by
  induction program with
  | done value => rfl
  | call request resume inductionHypothesis =>
      simp [bind, inductionHypothesis]

theorem bind_assoc
    (program : Program sig α)
    (first : α → Program sig β)
    (second : β → Program sig γ) :
    (program.bind first).bind second =
      program.bind fun value => (first value).bind second := by
  induction program with
  | done value => rfl
  | call request resume inductionHypothesis =>
      simp [bind, inductionHypothesis]

instance : LawfulMonad (Program sig) :=
  LawfulMonad.mk' (Program sig) bind_done (fun _ _ => rfl) bind_assoc

/-- Issue one call and return its response. -/
def perform (request : sig.Request) : Program sig (sig.Response request) :=
  .call request .done

end Program

/-- How the world answers a call, given a free choice. -/
structure Environment (sig : Signature) (World Choice : Type) where
  /-- The response to a call and the world after it. -/
  respond : Choice → World → (request : sig.Request) →
    sig.Response request × World

/-- A call, the world it was issued in, and the response to it. -/
structure Event (sig : Signature) (World : Type) where
  /-- The world in which the call was issued. -/
  before : World
  /-- The call. -/
  request : sig.Request
  /-- The response. -/
  response : sig.Response request

variable {sig : Signature} {World Choice : Type} {α β : Type}

/-- The event of answering a call with a given choice. -/
def Environment.event
    (env : Environment sig World Choice)
    (choice : Choice)
    (world : World)
    (request : sig.Request) : Event sig World :=
  ⟨world, request, (env.respond choice world request).1⟩

@[simp] theorem Environment.event_before
    (env : Environment sig World Choice)
    (choice : Choice)
    (world : World)
    (request : sig.Request) :
    (env.event choice world request).before = world := rfl

@[simp] theorem Environment.event_request
    (env : Environment sig World Choice)
    (choice : Choice)
    (world : World)
    (request : sig.Request) :
    (env.event choice world request).request = request := rfl

/-- `Exec env program world events value world'`: the program can run from
`world` to `world'`, returning `value`, with the given events. -/
inductive Exec (env : Environment sig World Choice) :
    Program sig α → World → List (Event sig World) → α → World → Prop
  | done (value : α) (world : World) :
      Exec env (.done value) world [] value world
  | call
      {request : sig.Request}
      {resume : sig.Response request → Program sig α}
      {world last : World}
      {events : List (Event sig World)}
      {value : α}
      (choice : Choice)
      (rest : Exec env (resume (env.respond choice world request).1)
        (env.respond choice world request).2 events value last) :
      Exec env (.call request resume) world
        (env.event choice world request :: events) value last

namespace Exec

variable {env : Environment sig World Choice}

@[simp] theorem done_iff
    {value value' : α}
    {world world' : World}
    {events : List (Event sig World)} :
    Exec env (.done value) world events value' world' ↔
      events = [] ∧ value' = value ∧ world' = world := by
  constructor
  · intro run
    cases run
    exact ⟨rfl, rfl, rfl⟩
  · rintro ⟨rfl, rfl, rfl⟩
    exact .done _ _

@[simp] theorem pure_iff
    {value value' : α}
    {world world' : World}
    {events : List (Event sig World)} :
    Exec env (pure value) world events value' world' ↔
      events = [] ∧ value' = value ∧ world' = world :=
  done_iff

theorem call_iff
    {request : sig.Request}
    {resume : sig.Response request → Program sig α}
    {world world' : World}
    {events : List (Event sig World)}
    {value : α} :
    Exec env (.call request resume) world events value world' ↔
      ∃ choice rest,
        events = env.event choice world request :: rest ∧
        Exec env (resume (env.respond choice world request).1)
          (env.respond choice world request).2 rest value world' := by
  constructor
  · intro run
    cases run with
    | call choice rest => exact ⟨choice, _, rfl, rest⟩
  · rintro ⟨choice, rest, rfl, run⟩
    exact .call choice run

/-- A single call runs to the response of some choice. -/
@[simp] theorem perform_iff
    {request : sig.Request}
    {world world' : World}
    {events : List (Event sig World)}
    {response : sig.Response request} :
    Exec env (.perform request) world events response world' ↔
      ∃ choice,
        events = [env.event choice world request] ∧
        response = (env.respond choice world request).1 ∧
        world' = (env.respond choice world request).2 := by
  rw [Program.perform, call_iff]
  constructor
  · rintro ⟨choice, rest, rfl, run⟩
    obtain ⟨rfl, rfl, rfl⟩ := done_iff.mp run
    exact ⟨choice, rfl, rfl, rfl⟩
  · rintro ⟨choice, rfl, rfl, rfl⟩
    exact ⟨choice, [], rfl, .done _ _⟩

/-- An execution of a sequence splits at the value of its first part. -/
theorem bind_iff
    {program : Program sig α}
    {next : α → Program sig β}
    {world world' : World}
    {events : List (Event sig World)}
    {value : β} :
    Exec env (program >>= next) world events value world' ↔
      ∃ first middle between second,
        Exec env program world first middle between ∧
        Exec env (next middle) between second value world' ∧
        events = first ++ second := by
  rw [Program.bind_eq]
  constructor
  · intro run
    induction program generalizing world events with
    | done middle =>
        exact ⟨[], middle, world, events, .done _ _, run, rfl⟩
    | call request resume inductionHypothesis =>
        rw [Program.call_bind, call_iff] at run
        obtain ⟨choice, rest, rfl, run⟩ := run
        obtain ⟨first, middle, between, second, head, tail, rfl⟩ :=
          inductionHypothesis _ run
        exact ⟨_ :: first, middle, between, second, .call choice head, tail, rfl⟩
  · rintro ⟨first, middle, between, second, head, tail, rfl⟩
    induction head with
    | done value world => exact tail
    | call choice rest inductionHypothesis =>
        exact .call choice (inductionHypothesis tail)

end Exec

namespace Program

/-- Run a program against a strategy that resolves every choice. -/
def run
    (env : Environment sig World Choice)
    (pick : World → sig.Request → Choice) :
    Program sig α → World → List (Event sig World) × α × World
  | .done value, world => ([], value, world)
  | .call request resume, world =>
      let answer := env.respond (pick world request) world request
      let rest := (resume answer.1).run env pick answer.2
      (env.event (pick world request) world request :: rest.1, rest.2)

/-- What a strategy computes is an execution. -/
theorem run_exec
    (env : Environment sig World Choice)
    (pick : World → sig.Request → Choice)
    (program : Program sig α)
    (world : World) :
    Exec env program world
      (program.run env pick world).1
      (program.run env pick world).2.1
      (program.run env pick world).2.2 := by
  induction program generalizing world with
  | done value => exact .done value world
  | call request resume inductionHypothesis =>
      exact .call (pick world request) (inductionHypothesis _ _)

/-- What holds of every event of a strategy holds of the events it produces. -/
theorem run_events
    (env : Environment sig World Choice)
    (pick : World → sig.Request → Choice)
    (good : Event sig World → Prop)
    (picked : ∀ world request, good (env.event (pick world request) world request))
    (program : Program sig α)
    (world : World) :
    ∀ event ∈ (program.run env pick world).1, good event := by
  induction program generalizing world with
  | done value => simp [run]
  | call request resume inductionHypothesis =>
      intro event member
      rcases List.mem_cons.mp member with rfl | later
      · exact picked world request
      · exact inductionHypothesis _ _ event later

end Program
end Interaction
