import Lvms.Client

/-!
# Effects

The calls of the controllers fall into classes by what they can change. The
footprint of a program is a list of such classes, and everything that no class
of the list can change is the same after the program has run.
-/

namespace Lvms

open Interaction Interaction.Program

variable {α : Type} {effects : List Effect} {program : Program sig α} {world after : World}
variable {node : String} {events : List (Event sig World)} {value : α}

/-- What a call can change. -/
inductive Effect
  /-- Nothing. -/
  | read
  /-- The cache of the symlink resolver. -/
  | resolve
  /-- Events and metrics. -/
  | report
  | create (kind : Kind)
  | update (kind : Kind)
  | delete (kind : Kind)
  | applyStorageClass
  | updateStatus
  /-- The cached configuration of lvmd. -/
  | cacheConfig
  | writeFile
  | removeFile
  /-- Signatures and device-mapper references. -/
  | wipe
  /-- Devices are added to a volume group. -/
  | grow
  /-- Devices leave a volume group or lose their label. -/
  | shrink
  | createPool
  | tunePool
  /-- Logical volumes and volume groups are removed. -/
  | destroy
  | otherManager
  deriving DecidableEq, Repr

/-- The class of a command. -/
def Command.effect : Command → Effect
  | .vgcreate _ _ _ | .vgextend _ _ => .grow
  | .vgreduce _ _ | .pvremove _ => .shrink
  | .vgchangeDeactivate _ | .vgremove _ | .lvmdevicesDelpvid _
  | .lvchangeDeactivate _ _ | .lvremove _ _ => .destroy
  | .lvcreate _ _ _ _ _ => .createPool
  | .lvextend _ _ _ | .lvextendMetadata _ _ _ | .lvchangeActivate _ _ => .tunePool
  | .wipefs _ | .dmsetupRemove _ => .wipe
  | .writeFile _ => .writeFile
  | .removeFile => .removeFile

/-- The class of a call to the API server. -/
def ApiRequest.effect : ApiRequest → Effect
  | .get _ _ | .list _ | .listPVCs _ | .listPVs _ => .read
  | .create kind _ => .create kind
  | .update kind _ => .update kind
  | .delete kind _ => .delete kind
  | .applyStorageClass _ => .applyStorageClass
  | .updateStatus _ => .updateStatus

/-- The class of a call. -/
def Request.effect : Request → Effect
  | .api inner => inner.effect
  | .command run => run.effect
  | .query _ | .loadResolved _ | .cachedConfig | .mapOrder _ | .now | .turn => .read
  | .newResolver | .storeResolved _ _ => .resolve
  | .cacheConfig _ => .cacheConfig
  | .event _ _ _ _ | .raidMetrics _ _ | .dropRAIDMetrics _ => .report
  | .otherManager _ => .otherManager

/-- The call is of one of some classes. -/
def Within (effects : List Effect) (request : Request) : Prop :=
  request.effect ∈ effects

/-- A footprint can be widened. -/
theorem within
    {wider : List Effect}
    (uses : program.Uses (Within effects))
    (included : ∀ effect ∈ effects, effect ∈ wider) :
    program.Uses (Within wider) :=
  uses.mono fun _ allowed => included _ allowed

theorem call_uses
    (request : Request)
    (member : request.effect ∈ effects) :
    (call request).Uses (Within effects) :=
  ⟨member, fun _ => trivial⟩

/-! ## Footprints of the calls -/

/-- Queries only read. -/
theorem query_uses (asked : Query) :
    (query asked).run.Uses (Within [.read]) :=
  call_uses _ (by simp [Request.effect])

/-- A command has the effect of its class. -/
theorem command_uses (run : Command) :
    (command run).run.Uses (Within [run.effect]) :=
  call_uses _ (.head _)

theorem eventf_uses (object : String) (warning : Bool) (reason message : String) :
    (eventf object warning reason message).Uses (Within [.report]) :=
  call_uses _ (by simp [Request.effect])

theorem mapOrder_uses (keys : List String) :
    (mapOrder keys).Uses (Within [.read]) :=
  call_uses _ (by simp [Request.effect])

namespace Client

theorem get_uses (kind : Kind) (name : String) :
    (get kind name).run.Uses (Within [.read]) :=
  call_uses _ (by simp [Request.effect, ApiRequest.effect])

theorem list_uses (kind : Kind) :
    (list kind).run.Uses (Within [.read]) :=
  call_uses _ (by simp [Request.effect, ApiRequest.effect])

theorem update_uses (kind : Kind) (object : kind.Object) :
    (update kind object).run.Uses (Within [.update kind]) :=
  call_uses _ (by simp [Request.effect, ApiRequest.effect])

theorem delete_uses (kind : Kind) (name : String) :
    (delete kind name).run.Uses (Within [.delete kind]) :=
  call_uses _ (by simp [Request.effect, ApiRequest.effect])

/-- The object is read, and what the change makes of it is stored. -/
theorem createOrUpdateObject_uses_of
    {allowed : Request → Prop}
    {kind : Kind}
    {initial : kind.Object}
    {mutate : kind.Object → Except GoError kind.Object}
    (reads : allowed (.api (.get kind (kind.nameOf initial))))
    (stores : ∀ existing object, mutate existing = .ok object →
      allowed (.api (.create kind object)) ∧ allowed (.api (.update kind object))) :
    (createOrUpdateObject kind initial mutate).run.Uses allowed := by
  refine .run_bind (.run_attempt ⟨reads, fun _ => trivial⟩) fun found => ?_
  cases found with
  | ok existing =>
      dsimp only
      cases changed : mutate existing with
      | error error => trivial
      | ok object =>
          have updates : (if object = existing then pure (.none, existing)
              else do
                let updated ← update kind object
                return (.updated, updated) :
                  Go (OperationResult × kind.Object)).run.Uses allowed := by
            split
            · trivial
            · exact .run_bind ⟨(stores _ _ changed).2, fun _ => trivial⟩ fun _ => trivial
          exact updates
  | error error =>
      dsimp only
      split
      · trivial
      · cases changed : mutate initial with
        | error error => trivial
        | ok object =>
            exact ⟨(stores _ _ changed).1, fun created => by cases created <;> trivial⟩

theorem createOrUpdateObject_uses
    (kind : Kind)
    (initial : kind.Object)
    (mutate : kind.Object → Except GoError kind.Object) :
    (createOrUpdateObject kind initial mutate).run.Uses
      (Within [.read, .create kind, .update kind]) :=
  createOrUpdateObject_uses_of (by simp [Within, Request.effect, ApiRequest.effect])
    fun _ _ _ => by simp [Within, Request.effect, ApiRequest.effect]

theorem createOrUpdate_uses
    (kind : Kind)
    (initial : kind.Object)
    (mutate : kind.Object → Except GoError kind.Object) :
    (createOrUpdate kind initial mutate).run.Uses
      (Within [.read, .create kind, .update kind]) :=
  .run_bind (createOrUpdateObject_uses ..) fun _ => trivial

/-- An object that is returned is in the store. -/
theorem get_ok
    {node name : String}
    {kind : Kind}
    {world after : World}
    {events : List (Event sig World)}
    {object : kind.Object}
    (ran : Exec (environment node) (get kind name).run world events (.ok object) after) :
    world.api.find? kind name = some object ∧ after = world := by
  obtain ⟨choice, -, answered, rfl⟩ := exec_call_iff.mp ran
  simp only [World.respond, ApiServer.respond] at answered ⊢
  cases failure : choice.failure with
  | some text => simp [failure, ApiServer.refuse] at answered
  | none =>
      simp only [failure, ApiServer.answer] at answered
      cases found : world.api.find? kind name with
      | none => simp [found] at answered
      | some stored => simp_all [ApiServer.answer]

/-- A list that is returned has all objects. -/
theorem list_ok
    {node : String}
    {kind : Kind}
    {world after : World}
    {events : List (Event sig World)}
    {objects : List kind.Object}
    (ran : Exec (environment node) (list kind).run world events (.ok objects) after) :
    objects = world.api.objects kind ∧ after = world := by
  obtain ⟨choice, -, answered, rfl⟩ := exec_call_iff.mp ran
  simp only [World.respond, ApiServer.respond] at answered ⊢
  cases failure : choice.failure with
  | some text => simp [failure, ApiServer.refuse] at answered
  | none => simp_all [ApiServer.answer]

end Client

/-! ## Frames -/

namespace Effect

/-- The effect changes what LVM or the kernel knows about the disks. -/
def touchesDisks : Effect → Bool
  | .wipe | .grow | .shrink | .createPool | .tunePool | .destroy => true
  | _ => false

/-- The effect changes the configuration file of lvmd. -/
def touchesFile : Effect → Bool
  | .writeFile | .removeFile => true
  | _ => false

/-- The effect changes the objects of a kind. -/
def touchesKind (kind : Kind) : Effect → Bool
  | .create other | .update other | .delete other => kind == other
  | .applyStorageClass => kind == .storageClass
  | .updateStatus => kind == .lvmCluster
  | _ => false

end Effect

/-- The host without its configuration file of lvmd. -/
def Host.disks (host : Host) : Host :=
  { host with lvmdFile := none }

/-- What programs with a footprint leave unchanged between two worlds. -/
structure Frame (effects : List Effect) (before after : World) : Prop where
  disks : (∀ effect ∈ effects, effect.touchesDisks = false) →
    ∀ node, (after.host node).disks = (before.host node).disks
  lvmdFile : (∀ effect ∈ effects, effect.touchesFile = false) →
    ∀ node, (after.host node).lvmdFile = (before.host node).lvmdFile
  config : .cacheConfig ∉ effects →
    ∀ node, (after.memory node).config = (before.memory node).config
  resolved : .resolve ∉ effects →
    ∀ node, (after.memory node).resolved = (before.memory node).resolved
  objects : ∀ kind, (∀ effect ∈ effects, effect.touchesKind kind = false) →
    after.api.objects kind = before.api.objects kind

namespace Frame

variable {effects : List Effect} {before middle after : World}

theorem refl : Frame effects before before :=
  ⟨fun _ _ => rfl, fun _ _ => rfl, fun _ _ => rfl, fun _ _ => rfl, fun _ _ => rfl⟩

/-- A host with the same disks and the same file is the same. -/
theorem host
    (frame : Frame effects before after)
    (disks : ∀ effect ∈ effects, effect.touchesDisks = false)
    (file : ∀ effect ∈ effects, effect.touchesFile = false) :
    after.host = before.host := by
  funext node
  calc after.host node
    _ = { (after.host node).disks with lvmdFile := (after.host node).lvmdFile } := rfl
    _ = { (before.host node).disks with lvmdFile := (before.host node).lvmdFile } := by
      rw [frame.disks disks node, frame.lvmdFile file node]
    _ = before.host node := rfl

/-- Frames compose. -/
theorem trans
    (first : Frame effects before middle)
    (second : Frame effects middle after) :
    Frame effects before after where
  disks untouched node :=
    (second.disks untouched node).trans (first.disks untouched node)
  lvmdFile file node :=
    (second.lvmdFile file node).trans (first.lvmdFile file node)
  config absent node :=
    (second.config absent node).trans (first.config absent node)
  resolved absent node :=
    (second.resolved absent node).trans (first.resolved absent node)
  objects kind untouched :=
    (second.objects kind untouched).trans (first.objects kind untouched)

/-- The objects of a kind that is not touched are found as before. -/
theorem find?
    (frame : Frame effects before after)
    (kind : Kind)
    (name : String)
    (untouched : ∀ effect ∈ effects, effect.touchesKind kind = false) :
    after.api.find? kind name = before.api.find? kind name := by
  rw [ApiServer.find?, ApiServer.find?, frame.objects kind untouched]

/-- A wider footprint leaves less unchanged. -/
theorem widen
    {wider : List Effect}
    (frame : Frame effects before after)
    (included : ∀ effect ∈ effects, effect ∈ wider) :
    Frame wider before after where
  disks untouched := frame.disks fun effect member =>
    untouched effect (included effect member)
  lvmdFile untouched := frame.lvmdFile fun effect member =>
    untouched effect (included effect member)
  config absent := frame.config fun member => absent (included _ member)
  resolved absent := frame.resolved fun member => absent (included _ member)
  objects kind untouched := frame.objects kind fun effect member =>
    untouched effect (included effect member)

end Frame

/-- Reading changes nothing. -/
theorem Frame.unchanged
    {before : World}
    (frame : Frame [.read, .report] before after) :
    after = before := by
  obtain ⟨⟨objects⟩, hosts, memories⟩ := before
  obtain ⟨⟨objects'⟩, hosts', memories'⟩ := after
  obtain rfl : objects' = objects := funext fun kind =>
    frame.objects kind (by cases kind <;> decide)
  obtain rfl : hosts' = hosts := frame.host (by decide) (by decide)
  obtain rfl : memories' = memories := by
    funext node
    exact congrArg₂ Memory.mk (frame.resolved (by decide) node)
      (frame.config (by decide) node)
  rfl

theorem Host.execute_lvmdFile
    (choice : Choice)
    (host : Host)
    (run : Command)
    (untouched : run.effect.touchesFile = false) :
    (host.execute choice run).2.lvmdFile = host.lvmdFile := by
  rw [Host.execute]
  cases choice.failure with
  | some text => cases run <;> rfl
  | none =>
      cases run <;> simp_all only [Command.effect, Effect.touchesFile, Host.apply,
        Bool.true_eq_false]
      split <;> rfl

/-- Other commands leave the disks alone. -/
theorem Host.execute_disks
    (choice : Choice)
    (host : Host)
    (run : Command)
    (untouched : run.effect.touchesDisks = false) :
    (host.execute choice run).2.disks = host.disks := by
  rw [Host.execute]
  cases choice.failure with
  | some text =>
      cases run <;> first | rfl | cases untouched
  | none =>
      cases run <;> cases untouched
      · rfl
      · simp only [Host.apply]
        split <;> rfl

/-- Requests leave the objects of other kinds alone. -/
theorem ApiServer.respond_objects
    (choice : Choice)
    (server : ApiServer)
    (request : ApiRequest)
    (kind : Kind)
    (untouched : request.effect.touchesKind kind = false) :
    (server.respond choice request).2.objects kind = server.objects kind := by
  have other {changed : Kind} (objects : List changed.Object)
      (different : (kind == changed) = false) :
      (server.set changed objects).objects kind = server.objects kind :=
    server.set_objects_other objects (by simpa using different)
  rw [ApiServer.respond]
  cases choice.failure with
  | some text => rfl
  | none =>
      cases request <;>
        simp only [ApiRequest.effect, Effect.touchesKind] at untouched <;>
        simp only [ApiServer.answer] <;> repeat' split
      all_goals first | rfl | exact other _ untouched

/-- One call changes at most what its class says. -/
theorem respond_frame
    (node : String)
    (choice : Choice)
    (world : World)
    (request : Request)
    (member : request.effect ∈ effects) :
    Frame effects world (World.respond node choice world request).2 := by
  cases request with
  | api request =>
      exact ⟨fun _ _ => rfl, fun _ _ => rfl, fun _ _ => rfl, fun _ _ => rfl,
        fun kind untouched =>
          world.api.respond_objects choice request kind (untouched _ member)⟩
  | command run =>
      refine ⟨fun untouched other => ?_, fun untouched other => ?_, fun _ _ => rfl,
        fun _ _ => rfl, fun _ _ => rfl⟩ <;> by_cases same : other = node
      · subst same
        simpa [World.respond] using
          Host.execute_disks choice _ run (untouched _ member)
      · simp [World.respond, World.setHost, Function.update_of_ne same]
      · subst same
        simpa [World.respond] using
          Host.execute_lvmdFile choice _ run (untouched _ member)
      · simp [World.respond, World.setHost, Function.update_of_ne same]
  | newResolver | storeResolved =>
      refine ⟨fun _ _ => rfl, fun _ _ => rfl, fun _ other => ?_,
        fun absent => absurd member absent, fun _ _ => rfl⟩
      by_cases same : other = node
      · subst same
        simp [World.respond]
      · simp [World.respond, World.setMemory, Function.update_of_ne same]
  | cacheConfig config =>
      refine ⟨fun _ _ => rfl, fun _ _ => rfl, fun absent => absurd member absent,
        fun _ other => ?_, fun _ _ => rfl⟩
      by_cases same : other = node
      · subst same
        simp [World.respond]
      · simp [World.respond, World.setMemory, Function.update_of_ne same]
  | otherManager name =>
      rw [World.respond]
      cases choice.failure <;> exact Frame.refl
  | query | loadResolved | cachedConfig | mapOrder | now | event | raidMetrics
  | dropRAIDMetrics | turn => exact Frame.refl

/-- A program changes at most what its footprint says. -/
theorem wp_frame
    {assumes : Event sig World → Prop}
    (uses : program.Uses (Within effects)) :
    wp (environment node) (.assuming assumes) program
      (fun _ after => Frame effects world after) world :=
  wp.of_uses uses
    (fun choice _ request allowed frame _ =>
      ⟨trivial, frame.trans (respond_frame node choice _ request allowed)⟩)
    Frame.refl

/-- After a program that only reads, the world is the same. -/
theorem wp_reading
    {assumes : Event sig World → Prop}
    {post : α → World → Prop}
    (uses : program.Uses (Within [.read, .report]))
    (holds : ∀ value, post value world) :
    wp (environment node) (.assuming assumes) program post world := by
  refine (wp_frame uses).mono fun value after frame => ?_
  rw [frame.unchanged]
  exact holds value

/-- An execution changes at most what the footprint of its program says. -/
theorem Exec.frame
    (ran : Exec (environment node) program world events value after)
    (uses : program.Uses (Within effects)) :
    Frame effects world after :=
  ((wp_frame uses : wp (environment node) (.assuming fun _ => True) program
    (fun _ last => Frame effects world last) world).sound ran
      (by simp [Contract.assuming])).2

/-- An execution without calls that touch a kind keeps its objects. -/
theorem Exec.objects_of_uses
    {kind : Kind}
    (ran : Exec (environment node) program world events value after)
    (uses : program.Uses fun request : Request => request.effect.touchesKind kind = false) :
    after.api.objects kind = world.api.objects kind := by
  induction ran with
  | done value world => rfl
  | call choice rest inductionHypothesis =>
      refine (inductionHypothesis (uses.2 _)).trans ?_
      refine (respond_frame node choice _ _ (List.mem_singleton_self _)).objects kind ?_
      simpa using uses.1

/-- Volume groups are created, updated and deleted. -/
theorem Request.cases_of_touches
    {request : Request}
    (touches : request.effect.touchesKind .volumeGroup = true) :
    (∃ object, request = .api (.create .volumeGroup object)) ∨
      (∃ object, request = .api (.update .volumeGroup object)) ∨
      ∃ name, request = .api (.delete .volumeGroup name) := by
  have isKind {kind : Kind} (same : (.volumeGroup == kind) = true) : .volumeGroup = kind := by
    simpa using same
  cases request with
  | api inner =>
      cases inner with
      | create kind object =>
          obtain rfl := isKind touches
          exact .inl ⟨object, rfl⟩
      | update kind object =>
          obtain rfl := isKind touches
          exact .inr (.inl ⟨object, rfl⟩)
      | delete kind name =>
          obtain rfl := isKind touches
          exact .inr (.inr ⟨name, rfl⟩)
      | _ => cases touches
  | command run => cases run <;> cases touches
  | _ => cases touches

/-- The objects of a kind that is not touched are the same throughout. -/
theorem Exec.objects_throughout
    {kind : Kind}
    (ran : Exec (environment node) program world events value after)
    (uses : program.Uses (Within effects))
    (untouched : ∀ effect ∈ effects, effect.touchesKind kind = false) :
    ∀ event ∈ events, event.before.api.objects kind = world.api.objects kind := by
  have kept (choice : Choice) (current : World) (request : Request)
      (allowed : Within effects request)
      (same : current.api.objects kind = world.api.objects kind) :
      (World.respond node choice current request).2.api.objects kind =
        world.api.objects kind :=
    ((respond_frame node choice current request allowed).objects kind untouched).trans same
  have preserved := uses.preserves kept ran
  exact (preserved rfl).1

/-- An execution of a program that only reads. -/
theorem Exec.of_reading
    (ran : Exec (environment node) program world events value after)
    (uses : program.Uses (Within [.read, .report])) :
    after = world ∧ ∀ event ∈ events, event.request.effect ∈ [.read, .report] :=
  ⟨(Exec.frame ran uses).unchanged, uses.events_allowed ran⟩

/-! ## Avoiding an effect -/

/-- No call is of a forbidden class. -/
def avoiding (assumes : Event sig World → Prop) (forbidden : Effect) :
    Contract sig World :=
  ⟨assumes, fun event => event.request.effect ≠ forbidden⟩

section Avoiding

variable {α : Type} {effects : List Effect} {forbidden : Effect} {node : String}
variable {assumes : Event sig World → Prop} {program : Program sig α} {world : World}

/-- A specification can be used for a program that avoids an effect. -/
theorem wp_avoiding
    {post : α → World → Prop}
    (holds : wp (environment node) (.assuming assumes) program post world)
    (uses : program.Uses (Within effects))
    (absent : forbidden ∉ effects) :
    wp (environment node) (avoiding assumes forbidden) program post world :=
  holds.guaranteed uses fun _ allowed same =>
    absent (same ▸ allowed : forbidden ∈ effects)

/-- A program avoids what is not in its footprint. -/
theorem wp_avoiding_of_uses
    (uses : program.Uses (Within effects))
    (absent : forbidden ∉ effects) :
    wp (environment node) (avoiding assumes forbidden) program (fun _ _ => True) world :=
  (wp_avoiding (wp_frame uses) uses absent).mono fun _ _ _ => trivial

end Avoiding
end Lvms
