import Lvms.System.Controllers

/-!
# The finalizers of the nodes

A volume group keeps the cleanup finalizer of a node, whatever the controllers do at the
same time, until the vg-manager of the node has cleaned up or the node does not exist.
This rests on the versions of the objects: a write is only stored when the version that
its controller has seen is still the stored one.
-/

namespace Lvms

open Interaction Interaction.Program

/-- The volume group with a name has the cleanup finalizer of a node. -/
def HasFinalizer (node name : String) (world : World) : Prop :=
  ∃ vg, world.api.find? .volumeGroup name = some vg ∧
    getFinalizer node ∈ vg.metadata.finalizers

/-- The controllers that are running. -/
abbrev Controllers := Pool sig World Controller (Except GoError Result)

/-! ## One call -/

/-- What a call does to the volume group with a name, and what its answer shows. -/
inductive Turns
    (name : String)
    (world after : World)
    (request : Request)
    (response : request.Response) : Prop
  | kept
      (same : after.api.find? .volumeGroup name = world.api.find? .volumeGroup name)
      (shows : ∀ vg, Shows request response vg → vg.name = name →
        world.api.find? .volumeGroup name = some vg)
  | updated {old object}
      (asked : request = .api (.update .volumeGroup object))
      (named : object.name = name)
      (found : world.api.find? .volumeGroup name = some old)
      (version : old.metadata.resourceVersion = object.metadata.resourceVersion)
      (becomes : after.api.find? .volumeGroup name =
        ApiServer.stored .volumeGroup old object)
      (shows : ∀ vg, Shows request response vg ↔
        vg = (ApiServer.stored .volumeGroup old object).getD object)
  | deleted {old time}
      (found : world.api.find? .volumeGroup name = some old)
      (becomes : after.api.find? .volumeGroup name =
        ApiServer.deleted .volumeGroup time old)
      (shows : ∀ vg, ¬Shows request response vg)
  | created {new}
      (missing : world.api.find? .volumeGroup name = none)
      (becomes : after.api.find? .volumeGroup name = some new)
      (shows : ∀ vg, ¬Shows request response vg)

section Call

variable {name node : String} {choice : Choice} {world : World}

/-- Reading shows what is stored. -/
theorem find?_of_shows
    {request : Request}
    {vg : LVMVolumeGroup}
    (unique : world.api.Unique .volumeGroup)
    (reads : request.effect.touchesKind .volumeGroup = false)
    (shows : Shows request (World.respond node choice world request).1 vg) :
    world.api.find? .volumeGroup vg.name = some vg := by
  cases request with
  | api inner =>
      cases inner with
      | get kind name =>
          cases kind with
          | volumeGroup =>
              have ran : Exec (environment node) (Client.get .volumeGroup name).run world _
                  _ _ :=
                exec_call_iff.mpr ⟨choice, rfl, shows.symm, rfl⟩
              have found := (Client.get_ok ran).1
              have named : vg.name = name := ApiServer.nameOf_of_find? found
              rwa [named]
          | _ => cases shows
      | list kind =>
          cases kind with
          | volumeGroup =>
              obtain ⟨vgs, isOk, member⟩ := shows
              have ran : Exec (environment node) (Client.list .volumeGroup).run world _ _
                  _ :=
                exec_call_iff.mpr ⟨choice, rfl, isOk.symm, rfl⟩
              obtain rfl : vgs = world.api.objects .volumeGroup := (Client.list_ok ran).1
              exact unique.find?_of_mem member
          | _ => cases shows
      | update kind object =>
          cases kind with
          | volumeGroup => cases reads
          | _ => cases shows
      | _ => cases shows
  | _ => cases shows

/-- An update keeps the volume group or stores it. -/
theorem Turns.of_update
    (unique : world.api.Unique .volumeGroup)
    (object : LVMVolumeGroup) :
    Turns name world
      (World.respond node choice world (.api (.update .volumeGroup object))).2
      (.api (.update .volumeGroup object))
      (World.respond node choice world (.api (.update .volumeGroup object))).1 := by
  have ran : Exec (environment node) (Client.update .volumeGroup object).run world _ _ _ :=
    exec_call_iff.mpr ⟨choice, rfl, rfl, rfl⟩
  obtain ⟨-, -, -, -, ⟨error, failed, same⟩ | ⟨old, found, version, succeeded, stored⟩⟩ :=
    Client.update_cases ran
  · refine .kept (by rw [same]) fun vg shows => ?_
    cases failed.symm.trans shows
  · by_cases named : object.name = name
    · subst named
      refine .updated rfl rfl found version ?_ fun vg => ?_
      · rw [stored]
        exact unique.find?_update found
      · change _ = _ ↔ _
        rw [succeeded, Except.ok.injEq, eq_comm]
    · refine .kept ?_ fun vg shows isNamed => ?_
      · rw [stored]
        exact unique.find?_alter_of_ne (fun _ _ _ => ApiServer.nameOf_of_stored)
          (Ne.symm named)
      · obtain rfl := Except.ok.inj (succeeded.symm.trans shows)
        exact absurd ((ApiServer.nameOf_getD_stored old object).symm.trans isNamed) named

/-- A creation keeps the volume group or creates it. -/
theorem Turns.of_create (object : LVMVolumeGroup) :
    Turns name world
      (World.respond node choice world (.api (.create .volumeGroup object))).2
      (.api (.create .volumeGroup object))
      (World.respond node choice world (.api (.create .volumeGroup object))).1 := by
  have ran : Exec (environment node) (Client.create .volumeGroup object).run world _ _ _ :=
    exec_call_iff.mpr ⟨choice, rfl, rfl, rfl⟩
  obtain ⟨-, -, -, -, ⟨error, failed, same⟩ | ⟨uid, -, missing, added⟩⟩ :=
    Client.create_cases ran
  · exact .kept (by rw [same]) fun _ shows => shows.elim
  · by_cases named : object.name = name
    · subst named
      exact .created missing
        (by rw [added]; exact ApiServer.find?_set_append missing rfl) fun _ shows => shows
    · refine .kept ?_ fun _ shows => shows.elim
      rw [added]
      exact ApiServer.find?_set_append_of_ne named

/-- A deletion keeps the volume group or deletes it. -/
theorem Turns.of_delete
    (unique : world.api.Unique .volumeGroup)
    (other : String) :
    Turns name world
      (World.respond node choice world (.api (.delete .volumeGroup other))).2
      (.api (.delete .volumeGroup other))
      (World.respond node choice world (.api (.delete .volumeGroup other))).1 := by
  have ran : Exec (environment node) (Client.delete .volumeGroup other).run world _ _ _ :=
    exec_call_iff.mpr ⟨choice, rfl, rfl, rfl⟩
  obtain ⟨-, -, -, -, ⟨error, failed, same⟩ | ⟨old, time, found, -, altered⟩⟩ :=
    Client.delete_cases ran
  · exact .kept (by rw [same]) fun _ shows => shows.elim
  · by_cases named : name = other
    · subst named
      exact .deleted found (by rw [altered]; exact unique.find?_delete time found)
        fun _ shows => shows
    · refine .kept ?_ fun _ shows => shows.elim
      rw [altered]
      exact unique.find?_alter_of_ne
        (fun _ _ isNamed becomes => (ApiServer.nameOf_of_deleted becomes).trans isNamed)
        named

/-- A call keeps, updates, deletes or creates a volume group. -/
theorem Turns.of_respond
    (unique : world.api.Unique .volumeGroup)
    (request : Request) :
    Turns name world (World.respond node choice world request).2 request
      (World.respond node choice world request).1 := by
  by_cases touches : request.effect.touchesKind .volumeGroup = true
  · rcases Request.cases_of_touches touches with ⟨object, rfl⟩ | ⟨object, rfl⟩ | ⟨other, rfl⟩
    · exact .of_create object
    · exact .of_update unique object
    · exact .of_delete unique other
  · rw [Bool.not_eq_true] at touches
    refine .kept ?_ fun vg shows named => ?_
    · exact (respond_frame node choice world request (List.mem_singleton_self _)).find?
        .volumeGroup name (by simpa using touches)
    · rw [← named]
      exact find?_of_shows unique touches shows

end Call

/-! ## The versions that controllers have seen -/

/-- What is assumed about the answer to a call. -/
structure Proper
    (pool : Controllers)
    (thread : Thread sig World Controller (Except GoError Result))
    (after : World) : Prop where
  /-- A node does not come into existence between a look at the nodes and the write that
  removes its finalizer. -/
  nodes : ∀ object resume node,
    thread.program = .call (.api (.update .volumeGroup object)) resume →
    HasFinalizer node object.name pool.world →
    getFinalizer node ∉ object.metadata.finalizers →
    Learned tells thread.events (.absent node) →
    pool.world.api.find? .node node = none
  /-- The API server does not replace an object by one with another UID. -/
  identity : ∀ object resume old,
    thread.program = .call (.api (.update .volumeGroup object)) resume →
    pool.world.api.find? .volumeGroup object.name = some old →
    old.metadata.uid ≠ object.metadata.uid →
    after = pool.world
  /-- The API server gives every object a UID of its own. -/
  fresh : ∀ name new,
    pool.world.api.find? .volumeGroup name = none →
    after.api.find? .volumeGroup name = some new →
    ∀ running ∈ pool.threads, ∀ vg, Learned tells running.events (.seen vg) →
      vg.metadata.uid ≠ new.metadata.uid

/-- A version of a volume group is older than the stored one, or is it. -/
def UpToDate (world : World) (vg : LVMVolumeGroup) : Prop :=
  ∀ current, world.api.find? .volumeGroup vg.name = some current →
    vg.metadata.uid = current.metadata.uid →
    vg.metadata.resourceVersion < current.metadata.resourceVersion ∨ vg = current

/-- Calls keep old versions old. -/
theorem UpToDate.turns
    {world after : World}
    {request : Request}
    {response : request.Response}
    {vg : LVMVolumeGroup}
    (upToDate : UpToDate world vg)
    (turns : Turns vg.name world after request response)
    (fresh : ∀ new, world.api.find? .volumeGroup vg.name = none →
      after.api.find? .volumeGroup vg.name = some new →
      vg.metadata.uid ≠ new.metadata.uid) :
    UpToDate after vg := by
  intro current found sameUid
  -- A new version of what was stored is newer than the versions that were seen.
  have newer (old : LVMVolumeGroup)
      (foundOld : world.api.find? .volumeGroup vg.name = some old)
      (uid : current.metadata.uid = old.metadata.uid)
      (version : current.metadata.resourceVersion = old.metadata.resourceVersion + 1) :
      vg.metadata.resourceVersion < current.metadata.resourceVersion := by
    rcases upToDate old foundOld (sameUid.trans uid) with older | rfl <;> omega
  cases turns with
  | kept same shows => exact upToDate current (same ▸ found) sameUid
  | updated asked named foundOld version becomes shows =>
      have isStored := ApiServer.eq_of_stored (becomes.symm.trans found)
      exact .inl (newer _ foundOld (by rw [isStored]; rfl) (by rw [isStored]; rfl))
  | deleted foundOld becomes shows =>
      rcases ApiServer.eq_of_deleted (becomes.symm.trans found) with rfl | rfl
      · exact upToDate _ foundOld sameUid
      · exact .inl (newer _ foundOld rfl rfl)
  | created missing becomes shows => exact absurd sameUid (fresh current missing found)

/-- What an answer shows is stored after the call. -/
theorem UpToDate.of_shows
    {world after : World}
    {request : Request}
    {response : request.Response}
    {vg : LVMVolumeGroup}
    (turns : Turns vg.name world after request response)
    (isShown : Shows request response vg) :
    UpToDate after vg := by
  intro current found _
  refine .inr ?_
  cases turns with
  | kept same shows =>
      exact Option.some.inj ((shows vg isShown rfl).symm.trans (same.symm.trans found))
  | updated asked named foundOld version becomes shows =>
      rw [(shows vg).mp isShown, ← becomes, found]
      rfl
  | deleted foundOld becomes shows => exact absurd isShown (shows vg)
  | created missing becomes shows => exact absurd isShown (shows vg)

/-- The controllers have seen nothing newer than what is stored. -/
def Coherent (pool : Controllers) : Prop :=
  ∀ thread ∈ pool.threads, ∀ vg, Learned tells thread.events (.seen vg) →
    UpToDate pool.world vg

section Runs

variable {system : System} {first pool next : Controllers}

/-- Every controller is answered as on some node. -/
theorem System.env_eq (system : System) (controller : Controller) :
    ∃ node, system.controllers.env controller = environment node := by
  cases controller <;> exact ⟨_, rfl⟩

/-- One step keeps the controllers coherent. -/
theorem Coherent.step
    (unique : pool.world.api.Unique .volumeGroup)
    (coherent : Coherent pool)
    (step : system.controllers.Step Proper pool next) :
    Coherent next := by
  cases step with
  | spawn controller =>
      refine List.forall_mem_cons.mpr ⟨fun vg learned => ?_, coherent⟩
      obtain ⟨_, ⟨⟩, _⟩ := learned
  | @call world left right controller events request resume choice isProper =>
      obtain ⟨node, isEnv⟩ := system.env_eq controller
      rw [isEnv] at isProper ⊢
      have turns (name : String) :
          Turns name world (World.respond node choice world request).2 request
            (World.respond node choice world request).1 :=
        .of_respond unique request
      have earlier : ∀ running ∈ left ++ ⟨controller, events, .call request resume⟩ :: right,
          ∀ vg, Learned tells running.events (.seen vg) →
            UpToDate (World.respond node choice world request).2 vg := by
        intro running member vg learned
        exact (coherent running member vg learned).turns (turns vg.name)
          fun new missing becomes =>
            isProper.fresh vg.name new missing becomes running member vg learned
      simp only [List.forall_mem_append, List.forall_mem_cons] at earlier
      obtain ⟨onLeft, before, onRight⟩ := earlier
      refine List.forall_mem_append.mpr ⟨onLeft, List.forall_mem_cons.mpr ⟨?_, onRight⟩⟩
      intro vg learned
      rcases learned_concat_iff.mp learned with old | told
      · exact before vg old
      · exact .of_shows (turns vg.name) told
  | stop =>
      simp only [Coherent, List.forall_mem_append, List.forall_mem_cons] at coherent ⊢
      exact ⟨coherent.1, coherent.2.2⟩
  | change changes =>
      intro thread member vg learned current found
      rw [ApiServer.find?, changes] at found
      exact coherent thread member vg learned current found

/-- One step keeps the names of the volume groups unique. -/
theorem unique_step
    (unique : pool.world.api.Unique .volumeGroup)
    (step : system.controllers.Step Proper pool next) :
    next.world.api.Unique .volumeGroup := by
  cases step with
  | spawn | stop => exact unique
  | @call world _ _ controller _ request _ choice _ =>
      obtain ⟨node, isEnv⟩ := system.env_eq controller
      rw [isEnv]
      have ran : Exec (environment node) (Lvms.call request) world _ _ _ :=
        exec_call_iff.mpr ⟨choice, rfl, rfl, rfl⟩
      exact Exec.unique ran unique
  | change changes =>
      rw [ApiServer.Unique, changes]
      exact unique

/-- In every run, a controller that has seen the stored version of a volume group has
seen the volume group as it is stored. -/
theorem Coherent.of_run
    (run : system.controllers.Run Proper first pool)
    (idle : first.threads = [])
    (unique : first.world.api.Unique .volumeGroup) :
    pool.world.api.Unique .volumeGroup ∧ Coherent pool := by
  induction run with
  | refl => exact ⟨unique, by simp [Coherent, idle]⟩
  | tail _ step inductionHypothesis =>
      obtain ⟨stillUnique, coherent⟩ := inductionHypothesis
      exact ⟨unique_step stillUnique step, coherent.step stillUnique step⟩

end Runs

/-! ## The end of a cleanup -/

namespace Reconciler

variable
  {r : Reconciler}
  {vg object : LVMVolumeGroup}
  {events : List (Event sig World)}

/-- Programs that do not update volume groups do not make the call. -/
theorem not_quiet (object : LVMVolumeGroup) :
    ¬Updating (fun _ => False) (.api (.update .volumeGroup object)) :=
  fun updates => updates object rfl

/-- The removal of the finalizer is the end of `processDelete`. -/
theorem processDelete_release
    {resume : Except GoError LVMVolumeGroup → Program sig (Except GoError Unit)}
    (remains : (r.processDelete vg).run.Remains events
      (.call (.api (.update .volumeGroup object)) resume)) :
    object.name = vg.name ∧ ∀ stored, resume (.ok stored) = .done (.ok ()) := by
  obtain ⟨_, _, _, -, -, remains⟩ := remains.run_bind_call (.run_mapError
    (updating_of_within (Lvmd.CachedFileConfig.load_uses _) (by decide)))
    (not_quiet object)
  obtain ⟨_, _, _, -, -, remains⟩ := remains.run_bind_call
    (updating_of_within (r.cleanUpDisks_uses _) (by decide)) (not_quiet object)
  obtain ⟨_, _, _, -, -, remains⟩ := remains.run_bind_call
    (updating_of_within (r.storeRemaining_uses ..) (by decide)) (not_quiet object)
  obtain ⟨_, _, _, -, -, remains⟩ := remains.run_bind_call (.run_mapError
    (updating_of_within (r.removeVolumeGroupStatus_uses _) (by decide)))
    (not_quiet object)
  dsimp only at remains
  split at remains
  · rcases remains.call_cases with ⟨-, same⟩ | ⟨_, response, _, -, later⟩
    · cases same
      exact ⟨rfl, fun _ => rfl⟩
    · cases response <;> cases later.of_done.2
  · cases remains.of_done.2

/-- A reconciliation that removes the finalizer of its node ends `processDelete`. -/
theorem reconcile_release
    {resume : Except GoError LVMVolumeGroup → Program sig (Except GoError Result)}
    (remains : (r.reconcile vg).run.Remains events
      (.call (.api (.update .volumeGroup object)) resume))
    (released : getFinalizer r.nodeName ∉ object.metadata.finalizers) :
    object.name = vg.name ∧ ∀ before stored, resume (.ok stored) = .done (.ok {}) ∧
      (r.processDelete vg).run.Remains
        (events ++ [⟨before, .api (.update .volumeGroup object), .ok stored⟩])
        (.done (.ok ())) := by
  by_cases isDeleted : vg.metadata.deletionTimestamp.isSome = true
  · rw [reconcile, if_pos isDeleted, ExceptT.run_bind] at remains
    rcases remains.bind_cases with
      ⟨part, partRemains, same⟩ | ⟨_, _, value, -, -, later⟩
    · cases part with
      | done value => cases value <;> cases same
      | call asked continued =>
          cases same
          obtain ⟨named, ends⟩ := processDelete_release partRemains
          refine ⟨named, fun before stored => ⟨?_, ?_⟩⟩
          · dsimp only
            rw [ends stored]
            rfl
          · rw [← ends stored]
            exact partRemains.answered (.ok stored)
    · cases value <;> cases later.of_done.2
  · -- Everything else that is written has the finalizer.
    have updating : (r.reconcile vg).run.Uses
        (Updating fun object => getFinalizer r.nodeName ∈ object.metadata.finalizers) := by
      refine r.reconcile_updating (fun deleted => absurd deleted isDeleted) ?_
        fun registered _ => registered
      dsimp only [ObjectMeta.addFinalizer]
      split
      · rename_i registered
        exact List.contains_iff_mem.mp registered
      · simp
    exact absurd ((remains.uses updating).1 object rfl) released

/-- A request that removes the finalizer of its node ends `processDelete`. -/
theorem reconcileRequest_release
    {name : String}
    {resume : Except GoError LVMVolumeGroup → Program sig (Except GoError Result)}
    (remains : (r.reconcileRequest name).run.Remains events
      (.call (.api (.update .volumeGroup object)) resume))
    (released : getFinalizer r.nodeName ∉ object.metadata.finalizers) :
    ∃ vg earlier cleanup, events = earlier ++ cleanup ∧ object.name = vg.name ∧
      ∀ before stored, resume (.ok stored) = .done (.ok {}) ∧
        (r.processDelete vg).run.Remains
          (cleanup ++ [⟨before, .api (.update .volumeGroup object), .ok stored⟩])
          (.done (.ok ())) := by
  obtain ⟨first, _, _, rfl, -, remains⟩ := remains.run_bind_call
    (.run_lift ⟨by rintro _ ⟨⟩, fun _ => trivial⟩) (not_quiet object)
  obtain ⟨second, _, found, rfl, -, remains⟩ := remains.run_bind_call
    (.run_attempt (updating_of_within (Client.get_uses ..) (by decide)))
    (not_quiet object)
  cases found with
  | error error =>
      dsimp only at remains
      split at remains <;> cases remains.of_done.2
  | ok vg =>
      obtain ⟨third, _, nodeMatches, rfl, -, remains⟩ := remains.run_bind_call
        (.run_mapError (updating_of_within (r.matchesThisNode_uses _) (by decide)))
        (not_quiet object)
      split at remains
      · cases remains.of_done.2
      · obtain ⟨fourth, cleanup, _, rfl, -, remains⟩ := remains.run_bind_call
          (.run_mapError (updating_of_within (Client.get_uses ..) (by decide)))
          (not_quiet object)
        obtain ⟨named, ends⟩ := reconcile_release remains released
        exact ⟨vg, first ++ (second ++ (third ++ fourth)), cleanup, by simp, named, ends⟩

end Reconciler

/-! ## The finalizers -/

/-- With this step the vg-manager of a node has run `processDelete` of a volume group to
its end without an error. -/
def CleanupEnds
    (system : System)
    (node name : String)
    (pool next : Controllers) : Prop :=
  ∃ left right asked earlier cleanup program event vg,
    pool.threads =
      left ++ ⟨.vgManager node asked, earlier ++ cleanup, program⟩ :: right ∧
    next.threads = left ++
      ⟨.vgManager node asked, earlier ++ cleanup ++ [event], .done (.ok {})⟩ :: right ∧
    vg.name = name ∧
    ((system.vgManager node).processDelete vg).run.Remains (cleanup ++ [event])
      (.done (.ok ()))

section Kept

variable {system : System} {first pool next last : Controllers} {node name : String}

/-- An update that is stored leaves out the finalizer of a node only when its controller
has been told that the node does not exist, or is the vg-manager of the node. -/
theorem absent_or_owner_of_lost
    {controller : Controller}
    {events : List (Event sig World)}
    {world : World}
    {old object : LVMVolumeGroup}
    {resume : Except GoError LVMVolumeGroup → Program sig (Except GoError Result)}
    (remains : (system.controllers.start controller).Remains events
      (.call (.api (.update .volumeGroup object)) resume))
    (upToDate : ∀ vg, Learned tells events (.seen vg) → UpToDate world vg)
    (found : world.api.find? .volumeGroup object.name = some old)
    (uid : old.metadata.uid = object.metadata.uid)
    (version : old.metadata.resourceVersion = object.metadata.resourceVersion)
    (there : getFinalizer node ∈ old.metadata.finalizers)
    (lost : getFinalizer node ∉ object.metadata.finalizers) :
    Learned tells events (.absent node) ∨ controller.owner = some node := by
  obtain ⟨seen, isSeen, rewrites⟩ :=
    remains.call_allowed (system.controllers_rewrite controller)
  -- The version is the stored one, so the controller has seen what is stored.
  have same : seen = old := by
    rcases upToDate seen isSeen old (rewrites.name ▸ found)
      (rewrites.uid.symm.trans uid.symm) with older | same
    · have sameVersion := rewrites.version
      omega
    · exact same
  exact (rewrites.finalizers node (same ▸ there)).resolve_left lost

/-- A vg-manager that removes its own finalizer ends its cleanup. -/
theorem CleanupEnds.of_release
    {controller : Controller}
    {events : List (Event sig World)}
    {world before after : World}
    {left right : List (Thread sig World Controller (Except GoError Result))}
    {object stored : LVMVolumeGroup}
    {response : Except GoError LVMVolumeGroup}
    {resume : Except GoError LVMVolumeGroup → Program sig (Except GoError Result)}
    (remains : (system.controllers.start controller).Remains events
      (.call (.api (.update .volumeGroup object)) resume))
    (isOwner : controller.owner = some node)
    (lost : getFinalizer node ∉ object.metadata.finalizers)
    (succeeded : response = .ok stored) :
    CleanupEnds system node object.name
      ⟨world, left ++ ⟨controller, events,
        .call (.api (.update .volumeGroup object)) resume⟩ :: right⟩
      ⟨after, left ++ ⟨controller, events ++
        [⟨before, .api (.update .volumeGroup object), response⟩], resume response⟩ ::
          right⟩ := by
  subst succeeded
  cases controller with
  | operator | nodeRemoval | deletion => cases isOwner
  | vgManager owner asked =>
      obtain rfl := Option.some.inj isOwner
      obtain ⟨vg, earlier, cleanup, rfl, named, ends⟩ :=
        Reconciler.reconcileRequest_release remains
          (by rwa [system.nodeName_vgManager])
      obtain ⟨isEnd, finished⟩ := ends before stored
      exact ⟨left, right, asked, earlier, cleanup, _, _, vg, rfl, by rw [isEnd],
        named.symm, finished⟩

/-- One step keeps the finalizer, or the node does not exist, or the step ends the
cleanup of the node. -/
theorem HasFinalizer.step
    (remains : ∀ thread ∈ pool.threads, (system.controllers.start thread.tag).Remains
      thread.events thread.program)
    (unique : pool.world.api.Unique .volumeGroup)
    (coherent : Coherent pool)
    (step : system.controllers.Step Proper pool next)
    (has : HasFinalizer node name pool.world) :
    HasFinalizer node name next.world ∨ pool.world.api.find? .node node = none ∨
      CleanupEnds system node name pool next := by
  obtain ⟨old, found, there⟩ := has
  cases step with
  | spawn | stop => exact .inl ⟨old, found, there⟩
  | change changes =>
      refine .inl ⟨old, ?_, there⟩
      rw [ApiServer.find?, changes]
      exact found
  | @call world left right controller events request resume choice isProper =>
      have isRunning : ⟨controller, events, .call request resume⟩ ∈
          left ++ ⟨controller, events, .call request resume⟩ :: right := by
        simp
      have ran := remains _ isRunning
      obtain ⟨host, isEnv⟩ := system.env_eq controller
      rw [isEnv] at isProper ⊢
      have turns : Turns name world (World.respond host choice world request).2 request
          (World.respond host choice world request).1 :=
        .of_respond unique request
      cases turns with
      | kept same _ => exact .inl ⟨old, same.trans found, there⟩
      | created missing _ _ => cases missing.symm.trans found
      | @deleted old' time found' becomes _ =>
          obtain rfl := Option.some.inj (found.symm.trans found')
          obtain ⟨marked, isMarked⟩ :
              ∃ marked, ApiServer.deleted .volumeGroup time old = some marked :=
            ApiServer.exists_deleted_of_finalizers time (List.ne_nil_of_mem there)
          refine .inl ⟨marked, becomes.trans isMarked, ?_⟩
          rcases ApiServer.eq_of_deleted isMarked with rfl | rfl <;> exact there
      | @updated old' object asked named found' version becomes shows =>
          subst asked named
          obtain rfl := Option.some.inj (found.symm.trans found')
          by_cases lost : getFinalizer node ∉ object.metadata.finalizers
          · by_cases uid : old.metadata.uid = object.metadata.uid
            · rcases absent_or_owner_of_lost ran (coherent _ isRunning) found uid version
                there lost with isAbsent | isOwner
              · exact .inr (.inl (isProper.nodes object resume node rfl
                  ⟨old, found, there⟩ lost isAbsent))
              · exact .inr (.inr (.of_release ran isOwner lost ((shows _).mpr rfl)))
            · have unchanged := isProper.identity object resume old rfl found uid
              exact .inl ⟨old, unchanged ▸ found, there⟩
          · rw [not_not] at lost
            obtain ⟨new, isStored⟩ :
                ∃ new, ApiServer.stored .volumeGroup old object = some new :=
              ApiServer.exists_stored_of_finalizers old (List.ne_nil_of_mem lost)
            refine .inl ⟨new, becomes.trans isStored, ?_⟩
            rw [ApiServer.eq_of_stored isStored]
            exact lost

/-- The finalizer of a node stays on a volume group, in every interleaving of the
controllers, until the vg-manager of the node has run `processDelete` to its end without
an error, or the node does not exist. -/
theorem hasFinalizer_until
    (idle : first.threads = [])
    (unique : first.world.api.Unique .volumeGroup)
    (run : system.controllers.Run Proper first pool)
    (has : HasFinalizer node name pool.world)
    (later : system.controllers.Run Proper pool last) :
    HasFinalizer node name last.world ∨
    ∃ before after, system.controllers.Run Proper pool before ∧
      system.controllers.Step Proper before after ∧
      system.controllers.Run Proper after last ∧
      HasFinalizer node name before.world ∧
      (before.world.api.find? .node node = none ∨
        CleanupEnds system node name before after) := by
  induction later with
  | refl => exact .inl has
  | @tail middle last earlier step inductionHypothesis =>
      rcases inductionHypothesis with
        stillHas | ⟨before, after, toBefore, lost, fromAfter, hadBefore, reason⟩
      · have toMiddle := run.trans earlier
        obtain ⟨stillUnique, coherent⟩ := Coherent.of_run toMiddle idle unique
        rcases stillHas.step (Machine.Run.remains toMiddle idle) stillUnique coherent
          step with kept | reason
        · exact .inl kept
        · exact .inr ⟨middle, last, earlier, step, .refl, stillHas, reason⟩
      · exact .inr ⟨before, after, toBefore, lost, fromAfter.tail step, hadBefore, reason⟩

end Kept

/-! ## A run -/

/-- A call that updates a volume group releases it at most from a node that does not
exist, and no call creates one. -/
def onlyReleases (absent : String) (event : Event sig World) (after : World) : Bool :=
  (after.api.objects .volumeGroup).all (fun vg =>
    (event.before.api.find? .volumeGroup vg.name).isSome) &&
  match event.request with
  | .api (.update .volumeGroup object) =>
      (event.before.api.find? .volumeGroup object.name).all fun old =>
        old.metadata.uid == object.metadata.uid &&
        (event.before.api.find? .node absent).isNone &&
        old.metadata.finalizers.all fun finalizer =>
          object.metadata.finalizers.contains finalizer || finalizer == getFinalizer absent
  | _ => true

/-- A call that only releases is answered in a proper way. -/
theorem Proper.of_onlyReleases
    {absent : String}
    {event : Event sig World}
    {after : World}
    {controller : Controller}
    {threads : List (Thread sig World Controller (Except GoError Result))}
    {earlier : List (Event sig World)}
    {resume : sig.Response event.request → Program sig (Except GoError Result)}
    (releases : onlyReleases absent event after = true) :
    Proper ⟨event.before, threads⟩ ⟨controller, earlier, .call event.request resume⟩
      after := by
  obtain ⟨before, request, response⟩ := event
  obtain ⟨noneNew, updates⟩ := Bool.and_eq_true_iff.mp releases
  refine ⟨?_, ?_, ?_⟩
  · rintro object _ node ⟨⟩ ⟨old, found, there⟩ lost -
    simp only [found, Option.all_some, Bool.and_eq_true, Option.isNone_iff_eq_none,
      List.all_eq_true, Bool.or_eq_true, List.contains_iff_mem, beq_iff_eq] at updates
    obtain ⟨⟨-, missing⟩, finalizers⟩ := updates
    rw [getFinalizer_injective ((finalizers _ there).resolve_left lost)]
    exact missing
  · rintro object _ old ⟨⟩ found otherUid
    simp only [found, Option.all_some, Bool.and_eq_true, beq_iff_eq] at updates
    exact absurd updates.1.1 otherUid
  · intro name new missing found
    have known := List.all_eq_true.mp noneNew new (List.mem_of_find?_eq_some found)
    rw [show new.name = name from ApiServer.nameOf_of_find? found, missing] at known
    cases known

/-- The vg-managers of two nodes have registered at a volume group, and one of the nodes
does not exist any more. -/
def registeredWorld : World :=
  { oneNodeWorld with
    api := (oneNodeWorld.api.set .nodeStatus [{ metadata := { name := "gone" } }]).set
      .volumeGroup [{
        metadata := {
          name := "vg1", finalizers := [getFinalizer "gone", getFinalizer "node"] }
        spec := {} }] }

/-- The node removal controller handles the node that does not exist. -/
def removalOfGone : List (Event sig World) × Except GoError Result × World :=
  (NodeRemoval.reconcile "gone").run.run (environment "") withoutFailures registeredWorld

/-- The node removal controller has rewritten the finalizers, and the one of the node that
exists stays. -/
theorem hasFinalizer_until_removal :
    (removalOfGone.2.2.api.find? .volumeGroup "vg1").map (·.metadata.finalizers) =
        some [getFinalizer "node"] ∧
    ∀ node ∈ ["gone", "node"],
      HasFinalizer node "vg1" removalOfGone.2.2 ∨
      ∃ before after,
        System.plain.controllers.Run Proper ⟨registeredWorld, []⟩ before ∧
        System.plain.controllers.Step Proper before after ∧
        System.plain.controllers.Run Proper after
          ⟨removalOfGone.2.2, [⟨.nodeRemoval "gone", removalOfGone.1, .done removalOfGone.2.1⟩]⟩ ∧
        HasFinalizer node "vg1" before.world ∧
        (before.world.api.find? .node node = none ∨
          CleanupEnds .plain node "vg1" before after) := by
  have releases : ∀ event ∈ removalOfGone.1, onlyReleases "gone" event
      (World.respond "" (withoutFailures event.before event.request) event.before
        event.request).2 = true := by
    decide +kernel
  refine ⟨by decide +kernel, fun node member => ?_⟩
  have has : HasFinalizer node "vg1" registeredWorld := by
    refine ⟨_, rfl, ?_⟩
    rcases List.mem_pair.mp member with rfl | rfl <;> simp
  have spawned : System.plain.controllers.Run Proper ⟨registeredWorld, []⟩ _ :=
    .single (.spawn (Controller.nodeRemoval "gone"))
  refine hasFinalizer_until rfl (by decide) .refl has (spawned.trans
    (Machine.Run.alone withoutFailures (Controller.nodeRemoval "gone") ?_))
  exact fun event isEvent _ _ => .of_onlyReleases (releases event isEvent)

end Lvms
