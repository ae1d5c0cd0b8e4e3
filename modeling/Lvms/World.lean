import Lvms.Host.Commands
import Lvms.Interaction.Parallel

/-!
# The world of the controllers

Both controllers are programs over one signature: calls to the API server,
queries and commands of the host, and the memory of the vg-manager process (the
cache of its symlink resolver and of its lvmd configuration). What Go leaves
open, the order of a map or of goroutines, is a request of its own, answered by
a choice of the environment.
-/

namespace Lvms

open Interaction

/-- The memory of a vg-manager process that outlives one function call. -/
structure Memory where
  /-- `Resolver.cache`, of the resolver of the current reconciliation. -/
  resolved : StringMap := []
  /-- `CachedFileConfig.Config`. -/
  config : Option Lvmd.Config := none
  deriving DecidableEq, Repr

/-- The state of the cluster. -/
structure World where
  api : ApiServer
  /-- The host of a node. -/
  host : String → Host
  /-- The memory of the vg-manager of a node. -/
  memory : String → Memory

/-- The calls of the controllers. -/
inductive Request
  | api (request : ApiRequest)
  | query (query : Query)
  | command (command : Command)
  | newResolver
  | loadResolved (path : String)
  | storeResolved (path target : String)
  | cachedConfig
  | cacheConfig (config : Option Lvmd.Config)
  /-- The order in which a map with these keys is ranged over. -/
  | mapOrder (keys : List String)
  | now
  | event (object : String) (warning : Bool) (reason message : String)
  | raidMetrics (vgName : String) (status : Option RAIDStatus)
  | dropRAIDMetrics (vgName : String)
  /-- Which goroutine runs next. -/
  | turn
  /-- A resource manager whose objects no modelled function reads. -/
  | otherManager (name : String)

/-- The answers to the calls. -/
@[reducible] def Request.Response : Request → Type
  | .api inner => inner.Response
  | .query asked => Except GoError asked.Answer
  | .command _ => Except GoError Unit
  | .newResolver => Unit
  | .loadResolved _ => Option String
  | .storeResolved _ _ => Unit
  | .cachedConfig => Option Lvmd.Config
  | .cacheConfig _ => Unit
  | .mapOrder _ => List String
  | .now => String
  | .event _ _ _ _ => Unit
  | .raidMetrics _ _ => Unit
  | .dropRAIDMetrics _ => Unit
  | .turn => Bool
  | .otherManager _ => Except GoError Unit

/-- The signature of the controllers. -/
@[reducible] def sig : Signature := ⟨Request, Request.Response⟩

/-- Code that returns a value or an error. -/
abbrev Go := Fallible sig GoError

namespace World

/-- Replace the host of a node. -/
def setHost (world : World) (node : String) (host : Host) : World :=
  { world with host := Function.update world.host node host }

/-- Replace the memory of the vg-manager of a node. -/
def setMemory (world : World) (node : String) (memory : Memory) : World :=
  { world with memory := Function.update world.memory node memory }

/-- How the world answers the vg-manager of a node, or the operator. -/
def respond (node : String) (choice : Choice) (world : World) :
    (request : Request) → request.Response × World
  | .api request =>
      let (response, api) := ApiServer.respond choice world.api request
      (response, { world with api })
  | .query query => ((world.host node).answer choice query, world)
  | .command command =>
      let (response, host) := (world.host node).execute choice command
      (response, world.setHost node host)
  | .newResolver =>
      ((), world.setMemory node { world.memory node with resolved := [] })
  | .loadResolved path => ((world.memory node).resolved.get? path, world)
  | .storeResolved path target =>
      ((), world.setMemory node { world.memory node with
        resolved := (world.memory node).resolved.set path target })
  | .cachedConfig => ((world.memory node).config, world)
  | .cacheConfig config =>
      ((), world.setMemory node { world.memory node with config })
  | .mapOrder keys =>
      (if choice.order.isPerm keys then choice.order else keys, world)
  | .now => (choice.fresh, world)
  | .event _ _ _ _ => ((), world)
  | .raidMetrics _ _ => ((), world)
  | .dropRAIDMetrics _ => ((), world)
  | .turn => (choice.turn, world)
  | .otherManager _ =>
      match choice.failure with
      | some text => (.error (.new text), world)
      | none => (.ok (), world)

end World

/-- The environment of the vg-manager of a node; the operator runs in the same
environment and uses no host. -/
def environment (node : String) : Environment sig World Choice :=
  ⟨World.respond node⟩

/-! ## Calls -/

/-- Issue a call. -/
def call (request : Request) : Program sig request.Response :=
  .call request .done

/-- Read the cached configuration of lvmd. -/
def cachedConfig : Program sig (Option Lvmd.Config) := call .cachedConfig

/-- Replace the cached configuration of lvmd. -/
def cacheConfig (config : Option Lvmd.Config) : Program sig Unit :=
  call (.cacheConfig config)

/-- Start with a resolver that has resolved nothing. -/
def newResolver : Program sig Unit := call .newResolver

/-- `Resolver.cache.Load`. -/
def loadResolved (path : String) : Program sig (Option String) :=
  call (.loadResolved path)

/-- `Resolver.cache.Store`. -/
def storeResolved (path target : String) : Program sig Unit :=
  call (.storeResolved path target)

/-- The keys of a map in the order of a `range` over it. -/
def mapOrder (keys : List String) : Program sig (List String) :=
  call (.mapOrder keys)

/-- The current time, as text. -/
def now : Program sig String := call .now

/-- `Eventf` on an object. -/
def eventf (object : String) (warning : Bool) (reason message : String) :
    Program sig Unit :=
  call (.event object warning reason message)

/-- `updateRAIDMetrics`; without a status the gauges are reset. -/
def updateRAIDMetrics (vgName : String) (status : Option RAIDStatus) :
    Program sig Unit :=
  call (.raidMetrics vgName status)

/-- `deleteRAIDMetrics`. -/
def deleteRAIDMetrics (vgName : String) : Program sig Unit :=
  call (.dropRAIDMetrics vgName)

/-- Ask the host. -/
def query (asked : Query) : Go asked.Answer :=
  .ofProgram (call (.query asked))

/-- Run a command on the host. -/
def command (run : Command) : Go Unit :=
  .ofProgram (call (.command run))

/-- A call is answered under some choice. -/
theorem exec_call_iff
    {node : String}
    {request : Request}
    {world after : World}
    {events : List (Event sig World)}
    {response : request.Response} :
    Exec (environment node) (call request) world events response after ↔
      ∃ choice,
        events = [(environment node).event choice world request] ∧
        response = (World.respond node choice world request).1 ∧
        after = (World.respond node choice world request).2 :=
  Exec.perform_iff

section

variable {node : String} {world : World} {assumes : Event sig World → Prop}

theorem wp_call_iff
    {request : Request}
    {post : request.Response → World → Prop} :
    wp (environment node) (.assuming assumes) (call request) post world ↔
      ∀ choice, assumes ((environment node).event choice world request) →
        post (World.respond node choice world request).1
          (World.respond node choice world request).2 := by
  simp [call, wp, Contract.assuming, environment]

theorem wp_cachedConfig_iff
    {post : Option Lvmd.Config → World → Prop} :
    wp (environment node) (.assuming assumes) cachedConfig post world ↔
      ∀ choice, assumes ((environment node).event choice world .cachedConfig) →
        post (world.memory node).config world :=
  wp_call_iff

theorem wp_cacheConfig_iff
    {config : Option Lvmd.Config}
    {post : Unit → World → Prop} :
    wp (environment node) (.assuming assumes) (cacheConfig config) post world ↔
      ∀ choice,
        assumes ((environment node).event choice world (.cacheConfig config)) →
        post () (world.setMemory node { world.memory node with config }) :=
  wp_call_iff

theorem wp_query_iff
    {asked : Query}
    {post : Except GoError asked.Answer → World → Prop} :
    wp (environment node) (.assuming assumes) (query asked).run post world ↔
      ∀ choice, assumes ((environment node).event choice world (.query asked)) →
        post ((world.host node).answer choice asked) world :=
  wp_call_iff

theorem wp_command_iff
    {run : Command}
    {post : Except GoError Unit → World → Prop} :
    wp (environment node) (.assuming assumes) (command run).run post world ↔
      ∀ choice, assumes ((environment node).event choice world (.command run)) →
        post ((world.host node).execute choice run).1
          (world.setHost node ((world.host node).execute choice run).2) :=
  wp_call_iff

/-- A command fails or has its effect. -/
theorem wp_command_cases
    {run : Command}
    {post : Except GoError Unit → World → Prop}
    (failed : ∀ choice text, choice.failure = some text →
      assumes ((environment node).event choice world (.command run)) →
      post (.error (.exit choice.exitCode text))
        (world.setHost node ((world.host node).afterFailure choice run)))
    (applied : ∀ choice, post ((world.host node).apply choice run).1
      (world.setHost node ((world.host node).apply choice run).2)) :
    wp (environment node) (.assuming assumes) (command run).run post world := by
  rw [wp_command_iff]
  intro choice assumed
  cases failure : choice.failure with
  | some text =>
      simpa [Host.execute, failure] using failed choice text failure assumed
  | none => simpa [Host.execute, failure] using applied choice

/-- A query fails or reports the state of the host. -/
theorem wp_query_of_report
    {asked : Query}
    {post : Except GoError asked.Answer → World → Prop}
    (failed : ∀ error, post (.error error) world)
    (reported : post ((world.host node).report asked) world) :
    wp (environment node) (.assuming assumes) (query asked).run post world := by
  rw [wp_query_iff]
  intro choice _
  cases failure : choice.failure with
  | some text => simpa [Host.answer, failure] using failed _
  | none => simpa [Host.answer, failure] using reported

end

/-- A query or command of the host that was answered by an error. -/
def hostFailed : Event sig World → Bool
  | ⟨_, .query _, .error _⟩ => true
  | ⟨_, .command _, .error _⟩ => true
  | _ => false

/-- A cluster without objects, with empty hosts and freshly started
processes. -/
def World.empty : World where
  api := ⟨fun _ => []⟩
  host := fun _ => {}
  memory := fun _ => {}

/-! ## Lookups in an updated world -/

namespace World

variable (world : World) (node : String)

@[simp] theorem setHost_host (host : Host) :
    (world.setHost node host).host node = host := by
  simp [setHost]

@[simp] theorem setHost_self : world.setHost node (world.host node) = world := by
  simp [setHost]

@[simp] theorem setHost_memory (host : Host) :
    (world.setHost node host).memory = world.memory := rfl

@[simp] theorem setHost_api (host : Host) :
    (world.setHost node host).api = world.api := rfl

@[simp] theorem setMemory_memory (memory : Memory) :
    (world.setMemory node memory).memory node = memory := by
  simp [setMemory]

@[simp] theorem setMemory_host (memory : Memory) :
    (world.setMemory node memory).host = world.host := rfl

@[simp] theorem setMemory_api (memory : Memory) :
    (world.setMemory node memory).api = world.api := rfl

end World
end Lvms
