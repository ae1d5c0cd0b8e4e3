import Mathlib.Data.List.Basic
import Mathlib.Logic.Unique

/-!
# Sequences of checks

A check returns a value or an error. `Checked` also collects warnings, which are
kept when a later check fails. A sequence of checks succeeds exactly when each of
them does, so acceptance can be read off check by check.
-/

namespace Interaction

variable {ω ε ε' α β : Type}

/-! ## Checks without warnings -/

/-- Fail with an error under a condition. -/
def failIf (condition : Bool) (error : ε) : Except ε Unit :=
  if condition then .error error else .ok ()

@[simp] theorem failIf_eq_ok_iff
    {condition : Bool}
    {error : ε}
    {value : Unit} :
    failIf condition error = .ok value ↔ condition = false := by
  cases condition <;> simp [failIf]

theorem Except.bind_eq_ok_iff
    {first : Except ε α}
    {next : α → Except ε β}
    {value : β} :
    (first >>= next) = .ok value ↔
      ∃ middle, first = .ok middle ∧ next middle = .ok value := by
  cases first with
  | error error => simp [Bind.bind, Except.bind]
  | ok middle => simp [Bind.bind, Except.bind]

/-- Wrapping errors keeps values. -/
@[simp] theorem Except.mapError_eq_ok_iff
    {wrap : ε → ε'}
    {result : Except ε α}
    {value : α} :
    result.mapError wrap = .ok value ↔ result = .ok value := by
  cases result <;> simp [Except.mapError]

/-- A loop of checks succeeds when every element passes. -/
theorem Except.forM_eq_ok_iff
    {elements : List α}
    {check : α → Except ε Unit} :
    forM elements check = .ok () ↔
      ∀ element ∈ elements, check element = .ok () := by
  induction elements with
  | nil => simp [pure, Except.pure]
  | cons element rest inductionHypothesis =>
      rw [List.forM_cons, bind_eq_ok_iff, List.forall_mem_cons]
      simp only [inductionHypothesis, Unique.exists_iff, PUnit.default_eq_unit]

/-! ## Checks with warnings -/

/-- The warnings so far, and a value or an error. -/
structure Checked (ω ε α : Type) where
  warnings : List ω := []
  result : Except ε α

namespace Checked

/-- Run one check after another; an error ends the sequence. -/
protected def bind (first : Checked ω ε α) (next : α → Checked ω ε β) :
    Checked ω ε β :=
  match first.result with
  | .error error => ⟨first.warnings, .error error⟩
  | .ok value =>
      ⟨first.warnings ++ (next value).warnings, (next value).result⟩

instance : Monad (Checked ω ε) where
  pure value := ⟨[], .ok value⟩
  bind := Checked.bind

instance : MonadLift (Except ε) (Checked ω ε) where
  monadLift result := ⟨[], result⟩

/-- Add warnings. -/
def warn (warnings : List ω) : Checked ω ε Unit :=
  ⟨warnings, .ok ()⟩

@[simp] theorem pure_result (value : α) :
    (pure value : Checked ω ε α).result = .ok value := rfl

@[simp] theorem warn_result (warnings : List ω) :
    (warn warnings : Checked ω ε Unit).result = .ok () := rfl

@[simp] theorem lift_result (check : Except ε α) :
    (liftM check : Checked ω ε α).result = check := rfl

@[simp] theorem bind_result_eq_ok_iff
    {first : Checked ω ε α}
    {next : α → Checked ω ε β}
    {value : β} :
    (first >>= next).result = .ok value ↔
      ∃ middle, first.result = .ok middle ∧ (next middle).result = .ok value := by
  change (Checked.bind first next).result = .ok value ↔ _
  cases outcome : first.result with
  | error error => simp [Checked.bind, outcome]
  | ok middle => simp [Checked.bind, outcome]

/-- A loop of checks succeeds when every element passes. -/
theorem forM_result_eq_ok_iff
    {elements : List α}
    {check : α → Checked ω ε Unit} :
    (forM elements check).result = .ok () ↔
      ∀ element ∈ elements, (check element).result = .ok () := by
  induction elements with
  | nil => simp
  | cons element rest inductionHypothesis =>
      rw [List.forM_cons, bind_result_eq_ok_iff, List.forall_mem_cons]
      simp only [inductionHypothesis, Unique.exists_iff, PUnit.default_eq_unit]

end Checked
end Interaction
