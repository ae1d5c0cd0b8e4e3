import Lvms.Interaction.Logic

/-!
# Interleaving of programs

Several programs run at the same time when, before every call, the environment
decides whose turn it is. The decision is itself a call, so the interleaving of
two programs is a program over the same signature, and footprints carry over.
-/

namespace Interaction
namespace Program

variable {sig : Signature} {α β : Type}

/-- Run two programs at the same time. While both still have calls to make, the
response to `turn` says which of them makes the next one. -/
def interleave
    (turn : sig.Request)
    (leftFirst : sig.Response turn → Bool) :
    Program sig α → Program sig β → Program sig (α × β)
  | .done value, right => do return (value, ← right)
  | .call request resume, right =>
      advance request
        (fun response => (resume response).interleave turn leftFirst) right
where
  /-- The left program waits with a call; recursion is on the right one. -/
  advance
      (request : sig.Request)
      (left : sig.Response request → Program sig β → Program sig (α × β)) :
      Program sig β → Program sig (α × β)
    | .done value => .call request fun response => left response (.done value)
    | .call other resume =>
        .call turn fun response =>
          if leftFirst response then
            .call request fun answer => left answer (.call other resume)
          else
            .call other fun answer => advance request left (resume answer)

/-- Run a list of programs at the same time. -/
def interleaveAll
    (turn : sig.Request)
    (leftFirst : sig.Response turn → Bool) :
    List (Program sig α) → Program sig (List α)
  | [] => return []
  | program :: programs => do
      let (value, values) ← interleave turn leftFirst program
        (interleaveAll turn leftFirst programs)
      return value :: values

namespace Uses

variable {allowed : sig.Request → Prop}
variable {turn : sig.Request} {leftFirst : sig.Response turn → Bool}

theorem interleave_advance
    {request : sig.Request}
    {left : sig.Response request → Program sig β → Program sig (α × β)}
    {right : Program sig β}
    (turnAllowed : allowed turn)
    (requestAllowed : allowed request)
    (leftUses : ∀ response other, other.Uses allowed →
      (left response other).Uses allowed)
    (rightUses : right.Uses allowed) :
    (interleave.advance turn leftFirst request left right).Uses allowed := by
  induction right with
  | done value =>
      exact ⟨requestAllowed, fun response => leftUses response _ trivial⟩
  | call other resume inductionHypothesis =>
      refine ⟨turnAllowed, fun response => ?_⟩
      dsimp only
      split
      · exact ⟨requestAllowed, fun answer => leftUses answer _ rightUses⟩
      · exact ⟨rightUses.1, fun answer =>
          inductionHypothesis answer (rightUses.2 answer)⟩

/-- Interleaving adds no calls but the decisions about the turn. -/
theorem interleave
    {left : Program sig α}
    {right : Program sig β}
    (turnAllowed : allowed turn)
    (leftUses : left.Uses allowed)
    (rightUses : right.Uses allowed) :
    (left.interleave turn leftFirst right).Uses allowed := by
  induction left generalizing right with
  | done value => exact rightUses.bind fun _ => trivial
  | call request resume inductionHypothesis =>
      exact interleave_advance turnAllowed leftUses.1
        (fun response other otherUses =>
          inductionHypothesis response (leftUses.2 response) otherUses)
        rightUses

theorem interleaveAll
    {programs : List (Program sig α)}
    (turnAllowed : allowed turn)
    (uses : ∀ program ∈ programs, program.Uses allowed) :
    (Program.interleaveAll turn leftFirst programs).Uses allowed := by
  induction programs with
  | nil => trivial
  | cons program programs inductionHypothesis =>
      obtain ⟨headUses, tailUses⟩ := List.forall_mem_cons.mp uses
      exact (Uses.interleave turnAllowed headUses
        (inductionHypothesis tailUses)).bind fun _ => trivial

end Uses
end Program
end Interaction
