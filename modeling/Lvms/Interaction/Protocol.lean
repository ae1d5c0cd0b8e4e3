import Lvms.Interaction.Parallel

/-!
# Protocols

A footprint bounds the calls of a program whatever the answers are. Often the calls
are only right because the answers are: an object that is looked up has the name it
was looked up by. A protocol says which calls are allowed and which answers are
expected, and a program obeys it when it makes only allowed calls as long as it gets
expected answers. In an environment that answers as expected while an invariant holds,
the program keeps the invariant.
-/

namespace Interaction

variable {sig : Signature} {World Choice : Type} {α β ε ε' : Type}

/-- The allowed calls and the expected answers. -/
structure Protocol (sig : Signature) where
  allowed : sig.Request → Prop
  expected : (request : sig.Request) → sig.Response request → Prop :=
    fun _ _ => True

/-- Two protocols at once. -/
def Protocol.both (first second : Protocol sig) : Protocol sig where
  allowed request := first.allowed request ∧ second.allowed request
  expected request response :=
    first.expected request response ∧ second.expected request response

/-- The value of a result without an error is good. -/
def OnOk (good : α → Prop) : Except ε α → Prop
  | .ok value => good value
  | .error _ => True

namespace Program

/-- With expected answers the program makes only allowed calls and returns a good
value. -/
def Obeys (protocol : Protocol sig) (good : α → Prop) : Program sig α → Prop
  | .done value => good value
  | .call request resume =>
      protocol.allowed request ∧
        ∀ response, protocol.expected request response →
          (resume response).Obeys protocol good

end Program

/-- With expected answers the program makes only allowed calls. -/
abbrev Fallible.Obeys (protocol : Protocol sig) (program : Fallible sig ε α) : Prop :=
  program.run.Obeys protocol (OnOk fun _ => True)

namespace Program
namespace Obeys

variable {protocol : Protocol sig}
variable {good : α → Prop} {program : Program sig α}

/-- One allowed call. -/
theorem call
    {request : sig.Request}
    {good : sig.Response request → Prop}
    (isAllowed : protocol.allowed request)
    (holds : ∀ response, protocol.expected request response → good response) :
    (Program.perform request).Obeys protocol good :=
  ⟨isAllowed, holds⟩

/-- A call whose answer does not matter. -/
theorem call_ignored
    {request : sig.Request}
    (isAllowed : protocol.allowed request) :
    (Program.perform request).Obeys protocol fun _ => True :=
  ⟨isAllowed, fun _ _ => trivial⟩

/-- A footprint without assumptions about the answers. -/
theorem of_uses
    {allowed : sig.Request → Prop}
    (uses : program.Uses allowed)
    (weaker : ∀ request, allowed request → protocol.allowed request) :
    program.Obeys protocol fun _ => True := by
  induction program with
  | done value => trivial
  | call request resume inductionHypothesis =>
      exact ⟨weaker request uses.1, fun response _ =>
        inductionHypothesis response (uses.2 response)⟩

/-- A weaker result. -/
theorem mono
    {better : α → Prop}
    (obeys : program.Obeys protocol good)
    (weaker : ∀ value, good value → better value) :
    program.Obeys protocol better := by
  induction program with
  | done value => exact weaker value obeys
  | call request resume inductionHypothesis =>
      exact ⟨obeys.1, fun response isExpected =>
        inductionHypothesis response (obeys.2 response isExpected)⟩

/-- What a program can return at all. -/
theorem yields
    {possible : α → Prop}
    (obeys : program.Obeys protocol good)
    (possibly : program.Yields possible) :
    program.Obeys protocol fun value => good value ∧ possible value := by
  induction program with
  | done value => exact ⟨obeys, possibly⟩
  | call request resume inductionHypothesis =>
      exact ⟨obeys.1, fun response isExpected =>
        inductionHypothesis response (obeys.2 response isExpected) (possibly response)⟩

/-- The rest starts with what the first part returns. -/
theorem bind
    {middle : α → Prop}
    {good : β → Prop}
    {next : α → Program sig β}
    (first : program.Obeys protocol middle)
    (rest : ∀ value, middle value → (next value).Obeys protocol good) :
    (program >>= next).Obeys protocol good := by
  rw [bind_eq]
  induction program with
  | done value => exact rest value first
  | call request resume inductionHypothesis =>
      exact ⟨first.1, fun response isExpected =>
        inductionHypothesis response (first.2 response isExpected)⟩

/-- Two protocols at once. -/
theorem both
    {other : Protocol sig}
    {better : α → Prop}
    (first : program.Obeys protocol good)
    (second : program.Obeys other better) :
    program.Obeys (protocol.both other) fun value => good value ∧ better value := by
  induction program with
  | done value => exact ⟨first, second⟩
  | call request resume inductionHypothesis =>
      exact ⟨⟨first.1, second.1⟩, fun response isExpected =>
        inductionHypothesis response (first.2 response isExpected.1)
          (second.2 response isExpected.2)⟩

/-! ### Programs that can fail -/

theorem run_both
    {other : Protocol sig}
    {program : Fallible sig ε α}
    (first : program.Obeys protocol)
    (second : program.Obeys other) :
    program.Obeys (protocol.both other) :=
  (first.both second).mono fun result _ => by cases result <;> trivial

theorem run_bind
    {middle : α → Prop}
    {good : β → Prop}
    {program : Fallible sig ε α}
    {next : α → Fallible sig ε β}
    (first : program.run.Obeys protocol (OnOk middle))
    (rest : ∀ value, middle value → (next value).run.Obeys protocol (OnOk good)) :
    (program >>= next).run.Obeys protocol (OnOk good) := by
  rw [ExceptT.run_bind]
  refine first.bind fun result isGood => ?_
  cases result with
  | ok value => exact rest value isGood
  | error error => trivial

theorem run_lift
    (obeys : program.Obeys protocol good) :
    (liftM program : Fallible sig ε α).run.Obeys protocol (OnOk good) := by
  simp only [liftM, monadLift, MonadLift.monadLift, ExceptT.run, ExceptT.lift,
    ExceptT.mk]
  rw [map_eq_pure_bind]
  exact obeys.bind fun _ isGood => isGood

theorem run_mapError
    {wrap : ε → ε'}
    {program : Fallible sig ε α}
    (obeys : program.run.Obeys protocol (OnOk good)) :
    (program.mapError wrap).run.Obeys protocol (OnOk good) := by
  refine obeys.bind fun result isGood => ?_
  cases result with
  | ok value => exact isGood
  | error error => trivial

theorem run_attempt
    {good : Except ε α → Prop}
    {program : Fallible sig ε α}
    (obeys : program.run.Obeys protocol good) :
    (program.attempt : Fallible sig ε' (Except ε α)).run.Obeys protocol (OnOk good) := by
  rw [Fallible.run_attempt]
  exact obeys.bind fun _ isGood => isGood

theorem run_forM
    {elements : List α}
    {body : α → Fallible sig ε PUnit}
    (obeys : ∀ element ∈ elements,
      (body element).Obeys protocol) :
    (forM elements body).Obeys protocol := by
  induction elements with
  | nil => trivial
  | cons element rest inductionHypothesis =>
      obtain ⟨headObeys, tailObeys⟩ := List.forall_mem_cons.mp obeys
      rw [List.forM_cons]
      exact headObeys.run_bind fun _ _ => inductionHypothesis tailObeys

/-- A footprint of a program that can fail. -/
theorem run_of_uses
    {allowed : sig.Request → Prop}
    {program : Fallible sig ε α}
    (uses : program.run.Uses allowed)
    (weaker : ∀ request, allowed request → protocol.allowed request) :
    program.Obeys protocol :=
  (of_uses uses weaker).mono fun result _ => by cases result <;> trivial

/-! ### Interleaving -/

section Interleaving

variable {turn : sig.Request} {leftFirst : sig.Response turn → Bool}
variable {goodLeft : α → Prop} {goodRight : β → Prop}

theorem interleave_advance
    {request : sig.Request}
    {left : sig.Response request → Program sig β → Program sig (α × β)}
    {right : Program sig β}
    (turnAllowed : protocol.allowed turn)
    (requestAllowed : protocol.allowed request)
    (leftObeys : ∀ response other, protocol.expected request response →
      other.Obeys protocol goodRight →
      (left response other).Obeys protocol fun values =>
        goodLeft values.1 ∧ goodRight values.2)
    (rightObeys : right.Obeys protocol goodRight) :
    (interleave.advance turn leftFirst request left right).Obeys protocol fun values =>
      goodLeft values.1 ∧ goodRight values.2 := by
  induction right with
  | done value =>
      exact ⟨requestAllowed, fun response isExpected =>
        leftObeys response _ isExpected rightObeys⟩
  | call other resume inductionHypothesis =>
      refine ⟨turnAllowed, fun response _ => ?_⟩
      dsimp only
      split
      · exact ⟨requestAllowed, fun answer isExpected =>
          leftObeys answer _ isExpected rightObeys⟩
      · exact ⟨rightObeys.1, fun answer isExpected =>
          inductionHypothesis answer (rightObeys.2 answer isExpected)⟩

/-- Programs that obey a protocol obey it at the same time. -/
theorem interleave
    {left : Program sig α}
    {right : Program sig β}
    (turnAllowed : protocol.allowed turn)
    (leftObeys : left.Obeys protocol goodLeft)
    (rightObeys : right.Obeys protocol goodRight) :
    (left.interleave turn leftFirst right).Obeys protocol fun values =>
      goodLeft values.1 ∧ goodRight values.2 := by
  induction left generalizing right with
  | done value => exact rightObeys.bind fun _ isGood => ⟨leftObeys, isGood⟩
  | call request resume inductionHypothesis =>
      exact interleave_advance turnAllowed leftObeys.1
        (fun response other isExpected otherObeys =>
          inductionHypothesis response (leftObeys.2 response isExpected) otherObeys)
        rightObeys

theorem interleaveAll
    {programs : List (Program sig α)}
    (turnAllowed : protocol.allowed turn)
    (obeys : ∀ program ∈ programs, program.Obeys protocol fun _ => True) :
    (Program.interleaveAll turn leftFirst programs).Obeys protocol fun _ => True := by
  induction programs with
  | nil => trivial
  | cons program programs inductionHypothesis =>
      obtain ⟨headObeys, tailObeys⟩ := List.forall_mem_cons.mp obeys
      exact (interleave turnAllowed headObeys (inductionHypothesis tailObeys)).bind
        fun _ _ => trivial

end Interleaving

/-- In an environment that answers allowed calls as expected and keeps an invariant, a
program that obeys the protocol keeps the invariant. -/
theorem sound
    {env : Environment sig World Choice}
    {invariant : World → Prop}
    {world world' : World}
    {events : List (Event sig World)}
    {value : α}
    (obeys : program.Obeys protocol good)
    (kept : ∀ choice world request, protocol.allowed request → invariant world →
      protocol.expected request (env.respond choice world request).1 ∧
        invariant (env.respond choice world request).2)
    (run : Exec env program world events value world')
    (start : invariant world) :
    (∀ event ∈ events, protocol.allowed event.request ∧ invariant event.before) ∧
      invariant world' ∧ good value := by
  induction run with
  | done value world => exact ⟨by simp, start, obeys⟩
  | call choice rest inductionHypothesis =>
      obtain ⟨isExpected, next⟩ := kept choice _ _ obeys.1 start
      obtain ⟨later, final⟩ := inductionHypothesis (obeys.2 _ isExpected) next
      exact ⟨List.forall_mem_cons.mpr ⟨⟨obeys.1, start⟩, later⟩, final⟩

end Obeys
end Program
end Interaction
