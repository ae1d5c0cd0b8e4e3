import Lvms.Api.Changes

/-!
# Outcomes of the calls to the API server

What an execution of a call of the client can have done: each verb fails without an
effect or does what it says, and `CreateOrUpdate` ends in one of six ways.
-/

namespace Lvms

open Interaction

/-- The error of an answer that can be a value or an error. -/
def errorOf {α : Type} : Except GoError α → Option GoError
  | .ok _ => none
  | .error error => some error

/-- The error of an answer of the API server. -/
def ApiRequest.failure : (request : ApiRequest) → request.Response → Option GoError
  | .get _ _, response => errorOf response
  | .list _, response => errorOf response
  | .create _ _, response => errorOf response
  | .update _ _, response => errorOf response
  | .delete _ _, response => errorOf response
  | .applyStorageClass _, response => errorOf response
  | .updateStatus _, response => errorOf response
  | .listPVCs _, response => errorOf response
  | .listPVs _, response => errorOf response

/-- The error of the answer to a call. -/
def Request.failure : (request : Request) → request.Response → Option GoError
  | .api inner, response => inner.failure response
  | .query _, response => errorOf response
  | .command _, response => errorOf response
  | .otherManager _, response => errorOf response
  | .newResolver, _ | .loadResolved _, _ | .storeResolved _ _, _
  | .cachedConfig, _ | .cacheConfig _, _ | .mapOrder _, _ | .now, _
  | .event _ _ _ _, _ | .raidMetrics _ _, _ | .dropRAIDMetrics _, _
  | .turn, _ => none

namespace Client

variable {node name : String} {kind : Kind} {world after : World}
variable {events : List (Event sig World)} {result : Except GoError kind.Object}
variable {object : kind.Object}

/-- The answer to a lookup: an error that is not about the object, a missing object, or
the object. -/
theorem get_cases
    (ran : Exec (environment node) (get kind name).run world events result after) :
    after = world ∧ ∃ look, events = [look] ∧ look.request = .api (.get kind name) ∧
      look.request.failure look.response = errorOf result ∧
      ((∃ error, result = .error error ∧ error.isNotFound = false) ∨
        (result = .error (ApiServer.missing name) ∧
          world.api.find? kind name = none) ∨
        ∃ object, result = .ok object ∧ world.api.find? kind name = some object) := by
  obtain ⟨choice, rfl, rfl, rfl⟩ := exec_call_iff.mp ran
  have unchanged : (World.respond node choice world (.api (.get kind name))).2 = world :=
    (Exec.of_reading ran (within (get_uses ..) (by simp))).1
  refine ⟨unchanged, _, rfl, rfl, rfl, ?_⟩
  simp only [World.respond, ApiServer.respond, ApiServer.answer, ApiServer.refuse]
  cases choice.failure with
  | some text => exact .inl ⟨_, rfl, rfl⟩
  | none =>
      cases found : world.api.find? kind name with
      | none => exact .inr (.inl ⟨rfl, rfl⟩)
      | some object => exact .inr (.inr ⟨object, rfl, rfl⟩)

/-- An update fails without an effect or is stored. -/
theorem update_cases
    (ran : Exec (environment node) (update kind object).run world events result after) :
    ∃ write, events = [write] ∧ write.request = .api (.update kind object) ∧
      write.request.failure write.response = errorOf result ∧
      ((∃ error, result = .error error ∧ after = world) ∨
        ∃ old, world.api.find? kind (kind.nameOf object) = some old ∧
          (kind.metadata old).resourceVersion = (kind.metadata object).resourceVersion ∧
          result = .ok ((ApiServer.stored kind old object).getD object) ∧
          after = { world with
            api := world.api.alter kind (kind.nameOf object) fun old =>
              ApiServer.stored kind old object }) := by
  obtain ⟨choice, rfl, rfl, rfl⟩ := exec_call_iff.mp ran
  refine ⟨_, rfl, rfl, rfl, ?_⟩
  simp only [World.respond, ApiServer.respond, ApiServer.answer, ApiServer.refuse]
  cases choice.failure with
  | some text => exact .inl ⟨_, rfl, rfl⟩
  | none =>
      cases found : world.api.find? kind (kind.nameOf object) with
      | none => exact .inl ⟨_, rfl, rfl⟩
      | some old =>
          dsimp only
          split
          · rename_i current
            exact .inr ⟨old, rfl, by simpa using current, rfl, rfl⟩
          · exact .inl ⟨_, rfl, rfl⟩

/-- A successful update of an object replaces the one with its name. -/
theorem update_ok
    {updated : kind.Object}
    (unique : world.api.Unique kind)
    (ran : Exec (environment node) (update kind object).run world events (.ok updated)
      after) :
    after.api.Unique kind ∧
      ∃ old, world.api.find? kind (kind.nameOf object) = some old ∧
        updated = (ApiServer.stored kind old object).getD object ∧
        after.api.find? kind (kind.nameOf object) = ApiServer.stored kind old object ∧
        ∀ other, other ≠ kind.nameOf object →
          after.api.find? kind other = world.api.find? kind other := by
  obtain ⟨-, -, -, -, ⟨_, isError, -⟩ | ⟨old, found, -, isOk, rfl⟩⟩ := update_cases ran
  · cases isError
  · exact ⟨unique.alter fun _ _ _ => ApiServer.nameOf_of_stored, old, found,
      Except.ok.inj isOk, unique.find?_update found,
      fun other => unique.find?_alter_of_ne fun _ _ _ => ApiServer.nameOf_of_stored⟩

theorem create_cases
    (ran : Exec (environment node) (create kind object).run world events result after) :
    ∃ write, events = [write] ∧ write.request = .api (.create kind object) ∧
      write.request.failure write.response = errorOf result ∧
      ((∃ error, result = .error error ∧ after = world) ∨
        ∃ uid, result = .ok (ApiServer.createdAs kind uid object) ∧
          world.api.find? kind (kind.nameOf object) = none ∧ after = { world with
            api := world.api.set kind
              (world.api.objects kind ++ [ApiServer.createdAs kind uid object]) }) := by
  obtain ⟨choice, rfl, rfl, rfl⟩ := exec_call_iff.mp ran
  refine ⟨_, rfl, rfl, rfl, ?_⟩
  simp only [World.respond, ApiServer.respond, ApiServer.answer, ApiServer.refuse]
  cases choice.failure with
  | some text => exact .inl ⟨_, rfl, rfl⟩
  | none =>
      cases found : world.api.find? kind (kind.nameOf object) with
      | some old => exact .inl ⟨_, rfl, rfl⟩
      | none => exact .inr ⟨choice.fresh, rfl, rfl, rfl⟩

/-- A deletion fails without an effect or marks or removes the object. -/
theorem delete_cases
    {result : Except GoError Unit}
    (ran : Exec (environment node) (delete kind name).run world events result after) :
    ∃ write, events = [write] ∧ write.request = .api (.delete kind name) ∧
      write.request.failure write.response = errorOf result ∧
      ((∃ error, result = .error error ∧ after = world) ∨
        ∃ old time, world.api.find? kind name = some old ∧ result = .ok () ∧
          after = { world with
            api := world.api.alter kind name (ApiServer.deleted kind time) }) := by
  obtain ⟨choice, rfl, rfl, rfl⟩ := exec_call_iff.mp ran
  refine ⟨_, rfl, rfl, rfl, ?_⟩
  simp only [World.respond, ApiServer.respond, ApiServer.answer, ApiServer.refuse]
  cases choice.failure with
  | some text => exact .inl ⟨_, rfl, rfl⟩
  | none =>
      cases found : world.api.find? kind name with
      | none => exact .inl ⟨_, rfl, rfl⟩
      | some old => exact .inr ⟨old, choice.now, rfl, rfl, rfl⟩

/-- A list is an error or has all objects. -/
theorem list_cases
    {result : Except GoError (List kind.Object)}
    (ran : Exec (environment node) (list kind).run world events result after) :
    after = world ∧ ∃ look, events = [look] ∧ look.request = .api (.list kind) ∧
      look.request.failure look.response = errorOf result ∧
      ∀ objects, result = .ok objects → objects = world.api.objects kind := by
  have unchanged := (Exec.of_reading ran (within (list_uses ..) (by simp))).1
  obtain ⟨choice, rfl, isResult, -⟩ := exec_call_iff.mp ran
  refine ⟨unchanged, _, rfl, rfl, by rw [isResult]; rfl, ?_⟩
  rintro objects rfl
  exact (list_ok ran).1

/-- A lookup can give the object. -/
theorem exists_get
    (found : world.api.find? kind name = some object) :
    ∃ events, Exec (environment node) (get kind name).run world events (.ok object)
      world := by
  refine ⟨_, exec_call_iff.mpr ⟨{}, rfl, ?_, ?_⟩⟩ <;>
    simp [World.respond, ApiServer.respond, ApiServer.answer, found]

/-- A list that fails does not fail because something was not found. -/
theorem list_error
    {error : GoError}
    (ran : Exec (environment node) (list kind).run world events (.error error) after) :
    error.isNotFound = false := by
  obtain ⟨choice, -, answered, -⟩ := exec_call_iff.mp ran
  simp only [World.respond, ApiServer.respond] at answered
  cases failure : choice.failure with
  | some text =>
      simp only [failure, ApiServer.refuse] at answered
      rw [Except.error.inj answered]
      rfl
  | none => simp [failure, ApiServer.answer] at answered

/-! ## How `CreateOrUpdate` ends -/

/-- The ways in which `CreateOrUpdate` can end, with the object and the events. -/
inductive Stores
    (kind : Kind)
    (initial : kind.Object)
    (mutate : kind.Object → Except GoError kind.Object)
    (world : World) :
    List (Event sig World) → Except GoError (OperationResult × kind.Object) →
      World → Prop
  /-- The object could not be read. -/
  | unread {look error}
      (asked : look.request = .api (.get kind (kind.nameOf initial)))
      (failed : look.request.failure look.response = some error)
      (other : error.isNotFound = false) :
      Stores kind initial mutate world [look] (.error error) world
  /-- The change was refused. -/
  | rejected {look error}
      (asked : look.request = .api (.get kind (kind.nameOf initial)))
      (refused : (∃ existing, world.api.find? kind (kind.nameOf initial) = some existing ∧
          mutate existing = .error error) ∨
        (world.api.find? kind (kind.nameOf initial) = none ∧
          mutate initial = .error error)) :
      Stores kind initial mutate world [look] (.error error) world
  /-- The change made no difference. -/
  | unchanged {look existing}
      (asked : look.request = .api (.get kind (kind.nameOf initial)))
      (answered : look.request.failure look.response = none)
      (found : world.api.find? kind (kind.nameOf initial) = some existing)
      (same : mutate existing = .ok existing) :
      Stores kind initial mutate world [look] (.ok (.none, existing)) world
  /-- The object could not be written. -/
  | unwritten {look write object error}
      (asked : look.request = .api (.get kind (kind.nameOf initial)))
      (written : write.request = .api (.update kind object) ∨
        write.request = .api (.create kind object))
      (failed : write.request.failure write.response = some error) :
      Stores kind initial mutate world [look, write] (.error error) world
  | updated {look write existing object old}
      (asked : look.request = .api (.get kind (kind.nameOf initial)))
      (answered : look.request.failure look.response = none)
      (found : world.api.find? kind (kind.nameOf initial) = some existing)
      (changed : mutate existing = .ok object)
      (differs : object ≠ existing)
      (replaced : world.api.find? kind (kind.nameOf object) = some old)
      (written : write.request = .api (.update kind object))
      (succeeded : write.request.failure write.response = none) :
      Stores kind initial mutate world [look, write]
        (.ok (.updated, (ApiServer.stored kind old object).getD object))
        { world with
          api := world.api.alter kind (kind.nameOf object) fun old =>
            ApiServer.stored kind old object }
  | created {look write object uid}
      (asked : look.request = .api (.get kind (kind.nameOf initial)))
      (answered : look.request.failure look.response =
        some (ApiServer.missing (kind.nameOf initial)))
      (missing : world.api.find? kind (kind.nameOf initial) = none)
      (changed : mutate initial = .ok object)
      (written : write.request = .api (.create kind object))
      (succeeded : write.request.failure write.response = none)
      (unnamed : world.api.find? kind (kind.nameOf object) = none) :
      Stores kind initial mutate world [look, write]
        (.ok (.created, ApiServer.createdAs kind uid object))
        { world with
          api := world.api.set kind
            (world.api.objects kind ++ [ApiServer.createdAs kind uid object]) }

theorem createOrUpdateObject_stores
    {initial : kind.Object}
    {mutate : kind.Object → Except GoError kind.Object}
    {result : Except GoError (OperationResult × kind.Object)}
    (ran : Exec (environment node) (createOrUpdateObject kind initial mutate).run world
      events result after) :
    Stores kind initial mutate world events result after := by
  obtain ⟨answer, first, between, second, head, rest, rfl⟩ := Exec.run_attempt_bind_iff.mp ran
  obtain ⟨rfl, look, rfl, asked, answered, found⟩ :=
    get_cases head
  rcases found with ⟨error, rfl, other⟩ | ⟨rfl, missing⟩ | ⟨existing, rfl, found⟩
  · simp only [other, Bool.not_false, if_true] at rest
    obtain ⟨rfl, rfl, rfl⟩ := Exec.run_throw_iff.mp rest
    exact .unread asked answered other
  · have isMissing : (ApiServer.missing (kind.nameOf initial)).isNotFound = true := rfl
    simp only [isMissing, Bool.not_true, Bool.false_eq_true, if_false] at rest
    rcases Exec.run_bind_iff.mp rest with
      ⟨error, rfl, refused⟩ | ⟨object, _, before, writing, changing, storing, rfl⟩
    · obtain ⟨rfl, changed, rfl⟩ := Exec.run_except_iff.mp refused
      exact .rejected asked (.inr ⟨missing, changed.symm⟩)
    obtain ⟨rfl, changed, rfl⟩ := Exec.run_except_iff.mp changing
    rcases Exec.run_bind_iff.mp storing with
      ⟨error, rfl, failed⟩ | ⟨_, _, last, _, stored, ending, rfl⟩
    · obtain ⟨write, rfl, written, refused, ⟨_, -, rfl⟩ | ⟨_, isOk, -⟩⟩ :=
        create_cases failed
      · exact .unwritten asked (.inr written) refused
      · cases isOk
    · obtain ⟨rfl, rfl, rfl⟩ := Exec.run_pure_iff.mp ending
      obtain ⟨write, rfl, written, succeeded, ⟨_, isError, -⟩ | ⟨uid, isOk, unnamed, rfl⟩⟩ :=
        create_cases stored
      · cases isError
      · obtain rfl := Except.ok.inj isOk
        exact .created asked answered missing changed.symm written succeeded unnamed
  · dsimp only at rest
    rcases Exec.run_bind_iff.mp rest with
      ⟨error, rfl, refused⟩ | ⟨object, _, before, writing, changing, storing, rfl⟩
    · obtain ⟨rfl, changed, rfl⟩ := Exec.run_except_iff.mp refused
      exact .rejected asked (.inl ⟨existing, found, changed.symm⟩)
    obtain ⟨rfl, changed, rfl⟩ := Exec.run_except_iff.mp changing
    by_cases same : object = existing
    · rw [if_pos same] at storing
      obtain ⟨rfl, rfl, rfl⟩ := Exec.run_pure_iff.mp storing
      exact .unchanged asked answered found (same ▸ changed.symm)
    rw [if_neg same] at storing
    rcases Exec.run_bind_iff.mp storing with
      ⟨error, rfl, failed⟩ | ⟨_, _, last, _, stored, ending, rfl⟩
    · obtain ⟨write, rfl, written, refused, ⟨_, -, rfl⟩ | ⟨_, -, -, isOk, -⟩⟩ :=
        update_cases failed
      · exact .unwritten asked (.inl written) refused
      · cases isOk
    · obtain ⟨rfl, rfl, rfl⟩ := Exec.run_pure_iff.mp ending
      obtain ⟨write, rfl, written, succeeded, ⟨_, isError, -⟩ | ⟨_, replaced, -, isOk, rfl⟩⟩ :=
        update_cases stored
      · cases isError
      · obtain rfl := Except.ok.inj isOk
        exact .updated asked answered found changed.symm same replaced written succeeded

end Client
end Lvms
