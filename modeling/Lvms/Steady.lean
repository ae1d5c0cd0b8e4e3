import Lvms.Outcomes

/-!
# Runs without mishaps

A call can be refused because of the state of the world, as a missing object or
file is, or for a reason of its own. The latter is a mishap. In a run without
mishaps every call is answered as the state says.
-/

namespace Lvms

open Interaction

/-- A call was refused for a reason that is not in the state of the world. -/
def mishap (node : String) (event : Event sig World) : Bool :=
  event.request.failure event.response !=
    event.request.failure (World.respond node {} event.before event.request).1

/-- No mishap. -/
def steady (node : String) (event : Event sig World) : Bool :=
  !mishap node event

/-- The API server refuses a request without an effect, and whether it does is
not up to the choice. -/
theorem ApiServer.answer_of_failure
    (server : ApiServer)
    (choice choice' : Choice)
    (request : ApiRequest)
    (error : GoError)
    (failed : request.failure (server.answer choice request).1 = some error) :
    server.answer choice' request = (refuse error request, server) := by
  cases request <;> simp only [ApiServer.answer, ApiRequest.failure] at failed ⊢ <;>
    repeat' split at failed
  all_goals simp_all [errorOf, refuse]

/-- The host refuses a command without an effect, and whether it does is not up
to the choice. -/
theorem Host.apply_of_failure
    (host : Host)
    (choice choice' : Choice)
    (run : Command)
    (error : GoError)
    (failed : errorOf (host.apply choice run).1 = some error) :
    host.apply choice' run = (.error error, host) ∧
      host.afterFailure choice run = host := by
  cases run <;> simp only [Host.apply, Host.afterFailure] at failed ⊢ <;>
    repeat' split at failed
  all_goals simp_all [errorOf]

/-- Without a mishap a call is answered as if it could not fail. -/
theorem World.respond_of_steady
    {node : String}
    {choice : Choice}
    {world : World}
    {request : Request}
    (calm : steady node ((environment node).event choice world request)) :
    ∃ choice', choice'.failure = none ∧
      World.respond node choice world request =
        World.respond node choice' world request := by
  cases failure : choice.failure with
  | none => exact ⟨choice, failure, rfl⟩
  | some text =>
      refine ⟨{ choice with failure := none }, rfl, ?_⟩
      simp only [steady, mishap, Environment.event, environment, Bool.not_eq_true',
        bne_eq_false_iff_eq] at calm
      cases request with
      | api request =>
          simp only [World.respond, Request.failure, ApiServer.respond, failure] at *
          have refused : request.failure (ApiServer.refuse (.new text) request) =
              some (.new text) := by
            cases request <;> rfl
          rw [world.api.answer_of_failure {} _ request _ (calm.symm.trans refused)]
      | query asked =>
          simp only [World.respond, Request.failure, Host.answer, failure] at *
          cases reported : (world.host node).report asked with
          | ok value => simp [reported, errorOf] at calm
          | error error =>
              simp only [reported, errorOf, Option.some.injEq] at calm
              rw [calm]
      | command run =>
          simp only [World.respond, Request.failure, Host.execute, failure] at *
          obtain ⟨own, unchanged⟩ := (world.host node).apply_of_failure {}
            { choice with failure := none } run _ calm.symm
          rw [own]
          cases run <;> first | rfl | cases own
      | otherManager name =>
          simp [World.respond, Request.failure, failure, errorOf] at calm
      | newResolver | loadResolved | storeResolved | cachedConfig | cacheConfig
      | mapOrder | now | event | raidMetrics | dropRAIDMetrics | turn => rfl

/-- Answers that do not fail for a reason of their own are no mishaps. -/
theorem steady_of_no_failure
    {node : String}
    {choice : Choice}
    (never : choice.failure = none)
    (world : World)
    (request : Request) :
    steady node ((environment node).event choice world request) := by
  have same : request.failure (World.respond node choice world request).1 =
      request.failure (World.respond node {} world request).1 := by
    cases request with
    | api request =>
        simp only [World.respond, Request.failure, ApiServer.respond, never]
        cases request <;> simp only [ApiServer.answer, ApiRequest.failure] <;>
          repeat' split
        all_goals simp_all [errorOf]
    | command run =>
        simp only [World.respond, Request.failure, Host.execute, never]
        cases run <;> simp only [Host.apply]
        all_goals split <;> rfl
    | query | otherManager =>
        simp [World.respond, Request.failure, Host.answer, never]
    | newResolver | loadResolved | storeResolved | cachedConfig | cacheConfig
    | mapOrder | now | event | raidMetrics | dropRAIDMetrics | turn => rfl
  simpa [steady, mishap, Environment.event, environment] using same

/-! ## Specifications of the calls -/

section Calls

variable {node : String} {world : World}

theorem wp_call_steady
    {request : Request}
    {post : request.Response → World → Prop}
    (answered : ∀ choice, choice.failure = none →
      post (World.respond node choice world request).1
        (World.respond node choice world request).2) :
    wp (environment node) (.assuming (steady node ·)) (call request) post world := by
  rw [wp_call_iff]
  intro choice calm
  obtain ⟨choice', never, same⟩ := World.respond_of_steady calm
  rw [same]
  exact answered choice' never

/-- A query reports the state of the host. -/
theorem wp_query_steady
    {asked : Query}
    {post : Except GoError asked.Answer → World → Prop}
    (reported : post ((world.host node).report asked) world) :
    wp (environment node) (.assuming (steady node ·)) (query asked).run post
      world := by
  refine wp_call_steady fun choice never => ?_
  simpa [World.respond, Host.answer, never] using reported

/-- A command has its effect. -/
theorem wp_command_steady
    {run : Command}
    {post : Except GoError Unit → World → Prop}
    (applied : ∀ choice, post ((world.host node).apply choice run).1
      (world.setHost node ((world.host node).apply choice run).2)) :
    wp (environment node) (.assuming (steady node ·)) (command run).run post
      world := by
  refine wp_call_steady fun choice never => ?_
  simpa [World.respond, Host.execute, never] using applied choice

namespace Client

variable {kind : Kind} {name : String}
variable {post : Except GoError kind.Object → World → Prop}

/-- An object that is there is found. -/
theorem wp_get_found
    {object : kind.Object}
    (found : world.api.find? kind name = some object)
    (holds : post (.ok object) world) :
    wp (environment node) (.assuming (steady node ·)) (get kind name).run post
      world := by
  refine wp_call_steady fun choice never => ?_
  simpa [World.respond, ApiServer.respond, never, ApiServer.answer, found]
    using holds

/-- An object that is not there is reported as missing. -/
theorem wp_get_missing
    (missing : world.api.find? kind name = none)
    (holds : post (.error (ApiServer.missing name)) world) :
    wp (environment node) (.assuming (steady node ·)) (get kind name).run post
      world := by
  refine wp_call_steady fun choice never => ?_
  simpa [World.respond, ApiServer.respond, never, ApiServer.answer, missing]
    using holds

/-- An object that has not changed since it was read can be updated. -/
theorem wp_update_current
    {old object : kind.Object}
    (found : world.api.find? kind (kind.nameOf object) = some old)
    (current : (kind.metadata old).resourceVersion =
      (kind.metadata object).resourceVersion)
    (holds : ∀ updated, post (.ok updated) { world with
      api := world.api.alter kind (kind.nameOf object) fun old =>
        ApiServer.stored kind old object }) :
    wp (environment node) (.assuming (steady node ·)) (update kind object).run post
      world := by
  refine wp_call_steady fun choice never => ?_
  simpa [World.respond, ApiServer.respond, never, ApiServer.answer, found, current]
    using holds _

end Client
end Calls
end Lvms
