import Lvms.VolumeClaims.Controller
import Lvms.Interaction.Keyed
import Lvms.Outcomes
import Mathlib.Data.String.Basic

/-!
# When the event about missing capacity is published

The event says that the requested storage is greater than the capacity of every node. It
is also published when a node has exactly the requested storage, and never when the
annotation of some node cannot be parsed. The order of the nodes has no influence on it.
-/

namespace Lvms

open Interaction

/-- The request publishes an event. -/
def Request.isEvent : Request → Bool
  | .event _ _ _ _ => true
  | _ => false

namespace ClaimReconciler

variable (r : ClaimReconciler) (key : String) (requested : Quantity)

/-! ## The nodes -/

/-- The capacity in an annotation of a node. -/
def capacityOf (node : Node) : Option (Except GoError Quantity) :=
  (node.metadata.annotations.get? key).map r.parseQuantity

/-- The annotation of the node cannot be parsed. -/
def Malformed (node : Node) : Prop :=
  ∃ err, r.capacityOf key node = some (.error err)

/-- The node has at least the requested storage. -/
def Suffices (node : Node) : Prop :=
  ∃ capacity, r.capacityOf key node = some (.ok capacity) ∧
    requested.nano ≤ capacity.nano

/-- The node has more than the requested storage. -/
def Exceeds (node : Node) : Prop :=
  ∃ capacity, r.capacityOf key node = some (.ok capacity) ∧
    requested.nano < capacity.nano

/-- The text about a node with too little storage. -/
def nodeReport (node : Node) : Option String :=
  match r.capacityOf key node with
  | some (.ok capacity) => some ("node " ++ node.metadata.name ++ " has " ++
      r.prettyByteSize capacity.value ++ " free storage")
  | _ => none

variable {r key requested}

/-- More than enough is enough. -/
theorem Exceeds.suffices
    {node : Node}
    (exceeds : r.Exceeds key requested node) :
    r.Suffices key requested node := by
  obtain ⟨capacity, isCapacity, more⟩ := exceeds
  exact ⟨capacity, isCapacity, more.le⟩

theorem not_malformed_of_exceeds
    {node : Node}
    (exceeds : r.Exceeds key requested node) :
    ¬r.Malformed key node := by
  obtain ⟨capacity, isCapacity, -⟩ := exceeds
  rintro ⟨err, isError⟩
  cases isCapacity.symm.trans isError

/-- What the loop does with one node. -/
theorem checkCapacity_cons
    (nodeMessage : List String)
    (node : Node)
    (rest : List Node) :
    (r.Malformed key node ∧
      r.checkCapacity key requested nodeMessage (node :: rest) = .failedToParse) ∨
    (r.Exceeds key requested node ∧
      r.checkCapacity key requested nodeMessage (node :: rest) = .found) ∨
    (¬r.Malformed key node ∧ ¬r.Exceeds key requested node ∧
      r.checkCapacity key requested nodeMessage (node :: rest) =
        r.checkCapacity key requested
          (nodeMessage ++ (r.nodeReport key node).toList) rest) := by
  rw [checkCapacity, Malformed, Exceeds, nodeReport, capacityOf]
  cases node.metadata.annotations.get? key with
  | none => simp
  | some text =>
      simp only [Option.map_some, Option.some.injEq]
      cases r.parseQuantity text with
      | error err => exact .inl ⟨⟨err, rfl⟩, rfl⟩
      | ok capacity =>
          right
          by_cases more : requested.nano < capacity.nano
          · exact .inl ⟨⟨capacity, rfl, more⟩, if_pos more⟩
          · refine .inr ⟨by simp, ?_, if_neg more⟩
            rintro ⟨other, isOther, exceeds⟩
            obtain rfl := Except.ok.inj isOther
            exact more exceeds

/-- The loop reaches the end of the nodes. -/
theorem checkCapacity_eq_notFound_iff
    {nodeMessage messages : List String}
    {nodes : List Node} :
    r.checkCapacity key requested nodeMessage nodes = .notFound messages ↔
      (∀ node ∈ nodes,
        ¬r.Malformed key node ∧ ¬r.Exceeds key requested node) ∧
      messages = nodeMessage ++ nodes.filterMap (r.nodeReport key) := by
  induction nodes generalizing nodeMessage with
  | nil =>
      rw [checkCapacity, CapacityCheck.notFound.injEq]
      simp [eq_comm]
  | cons node rest inductionHypothesis =>
      rw [List.forall_mem_cons]
      rcases checkCapacity_cons nodeMessage node rest with
        ⟨malformed, stops⟩ | ⟨exceeds, stops⟩ | ⟨parsed, small, continues⟩
      · rw [stops]
        exact iff_of_false nofun fun all => all.1.1.1 malformed
      · rw [stops]
        exact iff_of_false nofun fun all => all.1.1.2 exceeds
      · rw [continues, inductionHypothesis, List.append_assoc, List.filterMap_cons]
        cases r.nodeReport key node <;> simp [parsed, small]

/-- A node with more than the requested storage is found when all annotations parse. -/
theorem checkCapacity_eq_found
    {nodeMessage : List String}
    {nodes : List Node}
    (parsed : ∀ node ∈ nodes, ¬r.Malformed key node)
    (exceeds : ∃ node ∈ nodes, r.Exceeds key requested node) :
    r.checkCapacity key requested nodeMessage nodes = .found := by
  induction nodes generalizing nodeMessage with
  | nil => simp at exceeds
  | cons node rest inductionHypothesis =>
      rw [List.forall_mem_cons] at parsed
      rw [List.exists_mem_cons_iff] at exceeds
      rcases checkCapacity_cons nodeMessage node rest with
        ⟨malformed, -⟩ | ⟨-, stops⟩ | ⟨-, small, continues⟩
      · exact absurd malformed parsed.1
      · exact stops
      · rw [continues]
        exact inductionHypothesis parsed.2 (exceeds.resolve_left small)

/-- An annotation that cannot be parsed ends the loop when no node has enough. -/
theorem checkCapacity_eq_failedToParse
    {nodeMessage : List String}
    {nodes : List Node}
    (small : ∀ node ∈ nodes, ¬r.Exceeds key requested node)
    (malformed : ∃ node ∈ nodes, r.Malformed key node) :
    r.checkCapacity key requested nodeMessage nodes = .failedToParse := by
  induction nodes generalizing nodeMessage with
  | nil => simp at malformed
  | cons node rest inductionHypothesis =>
      rw [List.forall_mem_cons] at small
      rw [List.exists_mem_cons_iff] at malformed
      rcases checkCapacity_cons nodeMessage node rest with
        ⟨-, stops⟩ | ⟨exceeds, -⟩ | ⟨parsed, -, continues⟩
      · exact stops
      · exact absurd exceeds small.1
      · rw [continues]
        exact inductionHypothesis small.2 (malformed.resolve_left parsed)

/-! ## A run -/

/-- The claim with a name is pending, and its storage class is one of TopoLVM. -/
structure Pending
    (world : World)
    (name : String)
    (pvc : PersistentVolumeClaim)
    (sc : StorageClass) : Prop where
  found : world.api.find? .persistentVolumeClaim name = some pvc
  phase : pvc.phase = .pending
  ofClass : ∃ storageClassName, pvc.storageClassName = some storageClassName ∧
    world.api.find? .storageClass storageClassName = some sc
  provisioner : sc.provisioner = topolvmCSIDriverName

/-- The events that a run publishes. -/
def published (events : List (Event sig World)) : List Request :=
  (events.map (·.request)).filter Request.isEvent

/-- A call of the API server publishes nothing. -/
theorem published_call
    {request : ApiRequest}
    {call : Event sig World}
    {later : List (Event sig World)}
    (isCall : call.request = .api request) :
    published ([call] ++ later) = published later := by
  rw [published, List.singleton_append, List.map_cons, isCall]
  rfl

/-- What a run publishes and returns when the loop over the nodes has ended. -/
def outcome (r : ClaimReconciler) (pvc : PersistentVolumeClaim) :
    CapacityCheck → List Request × Result
  | .failedToParse => ([], {})
  | .found => ([], { requeueAfter := 15 })
  | .notFound nodeMessage =>
      ([.event pvc.metadata.name true "NotEnoughCapacity"
        (r.notEnoughCapacity pvc.requestedStorage nodeMessage)], { requeueAfter := 15 })

variable {host name : String} {world after : World} {events : List (Event sig World)}
variable {pvc : PersistentVolumeClaim} {sc : StorageClass} {result : Result}

/-- What is published for the result of the check. -/
theorem reportCapacity_ok
    {check : CapacityCheck}
    (ran : Exec (environment host) (r.reportCapacity pvc check).run world events
      (.ok result) after) :
    (published events, result) = r.outcome pvc check := by
  cases check with
  | failedToParse =>
      obtain ⟨rfl, isResult, -⟩ := Exec.run_pure_iff.mp ran
      rw [Except.ok.inj isResult]
      rfl
  | found =>
      obtain ⟨rfl, isResult, -⟩ := Exec.run_pure_iff.mp ran
      rw [Except.ok.inj isResult]
      rfl
  | notFound nodeMessage =>
      obtain ⟨_, told, later, last, telling, returning, rfl⟩ :=
        Exec.run_lift_bind_iff.mp ran
      obtain ⟨choice, rfl, -, -⟩ := exec_call_iff.mp telling
      obtain ⟨rfl, isResult, -⟩ := Exec.run_pure_iff.mp returning
      rw [Except.ok.inj isResult]
      rfl

theorem reconcilePending_ok
    (phase : pvc.phase = .pending)
    (ran : Exec (environment host) (r.reconcilePending pvc (deviceClassOf sc)).run world
      events (.ok result) after) :
    (published events, result) = r.outcome pvc
      (r.checkCapacity (capacityKey (deviceClassOf sc)) pvc.requestedStorage []
        (world.api.objects .node)) := by
  rw [reconcilePending, phase] at ran
  obtain ⟨nodes, first, between, second, head, tail, rfl⟩ := Exec.run_bind_ok_iff.mp ran
  obtain ⟨rfl, look, rfl, isLook, -, isList⟩ := Client.list_cases head
  obtain rfl := isList nodes rfl
  rw [published_call isLook]
  exact reportCapacity_ok tail

/-- What a run publishes and returns, for a claim of a storage class and some nodes. -/
def conclusion
    (r : ClaimReconciler)
    (pvc : PersistentVolumeClaim)
    (sc : StorageClass)
    (nodes : List Node) : List Request × Result :=
  if pvc.metadata.deletionTimestamp.isSome then ([], {})
  else r.outcome pvc
    (r.checkCapacity (capacityKey (deviceClassOf sc)) pvc.requestedStorage [] nodes)

/-- What is published for a pending claim. -/
theorem reconcile_ok
    (pending : Pending world name pvc sc)
    (ran : Exec (environment host) (r.reconcile name).run world events (.ok result) after) :
    (published events, result) = r.conclusion pvc sc (world.api.objects .node) := by
  rw [conclusion]
  obtain ⟨looked, first, between, second, head, tail, rfl⟩ := Exec.run_attempt_bind_iff.mp ran
  obtain ⟨rfl, look, rfl, isLook, -, answers⟩ := Client.get_cases head
  rw [published_call isLook]
  rcases answers with ⟨err, rfl, other⟩ | ⟨-, missing⟩ | ⟨found, rfl, isFound⟩
  · dsimp only at tail
    rw [other] at tail
    exact (Exec.run_throw_not_ok tail).elim
  · cases pending.found.symm.trans missing
  · obtain rfl := Option.some.inj (isFound.symm.trans pending.found)
    dsimp only at tail
    split at tail
    · rename_i marked
      obtain ⟨rfl, isResult, -⟩ := Exec.run_pure_iff.mp tail
      rw [if_pos marked, Except.ok.inj isResult]
      rfl
    · rename_i unmarked
      obtain ⟨storageClassName, isName, isClass⟩ := pending.ofClass
      rw [isName] at tail
      obtain ⟨found, first, later, last, getting, checking, rfl⟩ :=
        Exec.run_bind_ok_iff.mp tail
      obtain ⟨rfl, call, rfl, isCall, -, -⟩ := Client.get_cases getting
      obtain rfl := Option.some.inj ((Client.get_ok getting).1.symm.trans isClass)
      rw [pending.provisioner] at checking
      rw [if_neg unmarked, published_call isCall]
      exact reconcilePending_ok pending.phase checking

/-! ## Some run succeeds -/

theorem exists_reportCapacity (check : CapacityCheck) :
    ∃ events result after, Exec (environment host) (r.reportCapacity pvc check).run world
      events (.ok result) after := by
  cases check with
  | failedToParse => exact ⟨[], _, world, Exec.run_pure_iff.mpr ⟨rfl, rfl, rfl⟩⟩
  | found => exact ⟨[], _, world, Exec.run_pure_iff.mpr ⟨rfl, rfl, rfl⟩⟩
  | notFound nodeMessage =>
      exact ⟨_, _, world, Exec.run_lift_bind_iff.mpr ⟨(), _, world, [],
        exec_call_iff.mpr ⟨{}, rfl, rfl, rfl⟩,
        Exec.run_pure_iff.mpr ⟨rfl, rfl, rfl⟩, rfl⟩⟩

theorem exists_reconcilePending (phase : pvc.phase = .pending) (deviceClass : String) :
    ∃ events result after, Exec (environment host)
      (r.reconcilePending pvc deviceClass).run world events (.ok result) after := by
  rw [reconcilePending, phase]
  have listed : Exec (environment host) (Client.list .node).run world _
      (.ok (world.api.objects .node)) world :=
    exec_call_iff.mpr ⟨{}, rfl, rfl, rfl⟩
  obtain ⟨events, result, after, reported⟩ := r.exists_reportCapacity
    (r.checkCapacity (capacityKey deviceClass) pvc.requestedStorage []
      (world.api.objects .node))
  exact ⟨_, result, after,
    Exec.run_bind_ok_iff.mpr ⟨_, _, world, events, listed, reported, rfl⟩⟩

/-- The reconciliation can succeed. -/
theorem exists_reconcile (pending : Pending world name pvc sc) :
    ∃ events result after, Exec (environment host) (r.reconcile name).run world events
      (.ok result) after := by
  obtain ⟨gets, got⟩ : ∃ gets, Exec (environment host)
      (Client.get .persistentVolumeClaim name).run world gets (.ok pvc) world :=
    Client.exists_get pending.found
  by_cases marked : pvc.metadata.deletionTimestamp.isSome
  · refine ⟨gets ++ [], {}, world,
      Exec.run_attempt_bind_iff.mpr ⟨.ok pvc, gets, world, [], got, ?_, rfl⟩⟩
    dsimp only
    rw [if_pos marked]
    exact Exec.run_pure_iff.mpr ⟨rfl, rfl, rfl⟩
  · obtain ⟨storageClassName, isName, isClass⟩ := pending.ofClass
    obtain ⟨getsClass, gotClass⟩ : ∃ getsClass, Exec (environment host)
        (Client.get .storageClass storageClassName).run world getsClass (.ok sc) world :=
      Client.exists_get isClass
    obtain ⟨events, result, after, checked⟩ :=
      exists_reconcilePending pending.phase (deviceClassOf sc)
    refine ⟨gets ++ (getsClass ++ events), result, after,
      Exec.run_attempt_bind_iff.mpr ⟨.ok pvc, gets, world, _, got, ?_, rfl⟩⟩
    dsimp only
    rw [if_neg marked, isName]
    refine Exec.run_bind_ok_iff.mpr ⟨sc, getsClass, world, events, gotClass, ?_, rfl⟩
    rw [pending.provisioner]
    exact checked

/-! ## The event -/

/-- The run publishes that no node has enough storage for the claim. -/
def Announced (pvc : PersistentVolumeClaim) (events : List (Event sig World)) : Prop :=
  ∃ event ∈ events, ∃ message,
    event.request = .event pvc.metadata.name true "NotEnoughCapacity" message

theorem announced_iff_published :
    Announced pvc events ↔ ∃ message,
      .event pvc.metadata.name true "NotEnoughCapacity" message ∈ published events := by
  simp only [published, List.mem_filter, List.mem_map, Request.isEvent, and_true]
  constructor
  · rintro ⟨event, member, message, isEvent⟩
    exact ⟨message, event, member, isEvent⟩
  · rintro ⟨message, event, member, isEvent⟩
    exact ⟨event, member, message, isEvent⟩

/-- When the claim is announced as too large. -/
theorem announced_iff
    (pending : Pending world name pvc sc)
    (ran : Exec (environment host) (r.reconcile name).run world events (.ok result) after) :
    Announced pvc events ↔
      ¬pvc.metadata.deletionTimestamp.isSome ∧
      ∀ node ∈ world.api.objects .node,
        ¬r.Malformed (capacityKey (deviceClassOf sc)) node ∧
        ¬r.Exceeds (capacityKey (deviceClassOf sc)) pvc.requestedStorage node := by
  have told : published events = _ := congrArg Prod.fst (reconcile_ok pending ran)
  rw [announced_iff_published, told, conclusion]
  split
  · rename_i marked
    exact iff_of_false (by simp) fun all => all.1 marked
  · rename_i unmarked
    rw [and_iff_right unmarked]
    cases check : r.checkCapacity (capacityKey (deviceClassOf sc))
        pvc.requestedStorage [] (world.api.objects .node) with
    | notFound nodeMessage =>
        exact iff_of_true ⟨_, .head _⟩ (checkCapacity_eq_notFound_iff.mp check).1
    | failedToParse =>
        refine iff_of_false (by simp [outcome]) fun all => ?_
        cases check.symm.trans (checkCapacity_eq_notFound_iff.mpr ⟨all, rfl⟩)
    | found =>
        refine iff_of_false (by simp [outcome]) fun all => ?_
        cases check.symm.trans (checkCapacity_eq_notFound_iff.mpr ⟨all, rfl⟩)

/-! ## The order of the nodes -/

variable {nodes others : List Node}

theorem outcome_silent
    (busy : ¬∀ node ∈ nodes,
      ¬r.Malformed key node ∧ ¬r.Exceeds key requested node) :
    (r.outcome pvc (r.checkCapacity key requested [] nodes)).1 = [] := by
  cases check : r.checkCapacity key requested [] nodes with
  | notFound nodeMessage => exact absurd (checkCapacity_eq_notFound_iff.mp check).1 busy
  | failedToParse => rfl
  | found => rfl

/-- The messages about the nodes are sorted before they are published. -/
theorem notEnoughCapacity_eq_of_perm
    {first second : List String}
    (permuted : first.Perm second) :
    r.notEnoughCapacity requested first = r.notEnoughCapacity requested second := by
  have sorted : first.insertionSort (fun left right => left ≤ right) =
      second.insertionSort (fun left right => left ≤ right) :=
    @insertionSort_eq_of_perm _ _ _ id _ _ (fun _ _ _ _ => id) permuted
  unfold notEnoughCapacity
  rw [sorted]

/-- The event is the same for every order of the nodes. -/
theorem conclusion_published_eq_of_perm (permuted : others.Perm nodes) :
    (r.conclusion pvc sc others).1 = (r.conclusion pvc sc nodes).1 := by
  have same : (∀ node ∈ others,
      ¬r.Malformed (capacityKey (deviceClassOf sc)) node ∧
        ¬r.Exceeds (capacityKey (deviceClassOf sc)) pvc.requestedStorage node) ↔
      ∀ node ∈ nodes,
        ¬r.Malformed (capacityKey (deviceClassOf sc)) node ∧
          ¬r.Exceeds (capacityKey (deviceClassOf sc)) pvc.requestedStorage node :=
    forall_congr' fun _ => imp_congr_left permuted.mem_iff
  rw [conclusion, conclusion]
  split
  · rfl
  · by_cases small : ∀ node ∈ nodes,
        ¬r.Malformed (capacityKey (deviceClassOf sc)) node ∧
          ¬r.Exceeds (capacityKey (deviceClassOf sc)) pvc.requestedStorage node
    · rw [checkCapacity_eq_notFound_iff.mpr ⟨small, rfl⟩,
        checkCapacity_eq_notFound_iff.mpr ⟨same.mpr small, rfl⟩, outcome, outcome,
        List.nil_append, List.nil_append,
        notEnoughCapacity_eq_of_perm (permuted.filterMap _)]
    · rw [outcome_silent small, outcome_silent (mt same.mp small)]

/-- Some node has more than the requested storage, and the annotation of another one cannot
be parsed. -/
def Mixed
    (r : ClaimReconciler)
    (pvc : PersistentVolumeClaim)
    (sc : StorageClass)
    (nodes : List Node) : Prop :=
  ¬pvc.metadata.deletionTimestamp.isSome ∧
  (∃ node ∈ nodes,
    r.Exceeds (capacityKey (deviceClassOf sc)) pvc.requestedStorage node) ∧
  ∃ node ∈ nodes, r.Malformed (capacityKey (deviceClassOf sc)) node

/-- Whether a run asks for another one only depends on the order of mixed nodes. -/
theorem conclusion_result_eq_of_perm
    (unmixed : ¬r.Mixed pvc sc nodes)
    (permuted : others.Perm nodes) :
    (r.conclusion pvc sc others).2 = (r.conclusion pvc sc nodes).2 := by
  rw [conclusion, conclusion]
  split
  · rfl
  · rename_i unmarked
    by_cases more : ∃ node ∈ nodes,
        r.Exceeds (capacityKey (deviceClassOf sc)) pvc.requestedStorage node
    · have parsed : ∀ node ∈ nodes,
          ¬r.Malformed (capacityKey (deviceClassOf sc)) node := fun node member
        malformed => unmixed ⟨unmarked, more, node, member, malformed⟩
      obtain ⟨node, member, exceeds⟩ := more
      rw [checkCapacity_eq_found parsed ⟨node, member, exceeds⟩,
        checkCapacity_eq_found (fun other isOther => parsed other (permuted.mem_iff.mp isOther))
          ⟨node, permuted.mem_iff.mpr member, exceeds⟩]
    · have small : ∀ node ∈ nodes,
          ¬r.Exceeds (capacityKey (deviceClassOf sc)) pvc.requestedStorage node :=
        fun node member exceeds => more ⟨node, member, exceeds⟩
      have smallOthers : ∀ node ∈ others,
          ¬r.Exceeds (capacityKey (deviceClassOf sc)) pvc.requestedStorage node :=
        fun node member => small node (permuted.mem_iff.mp member)
      by_cases broken : ∃ node ∈ nodes,
          r.Malformed (capacityKey (deviceClassOf sc)) node
      · rw [checkCapacity_eq_failedToParse small broken]
        obtain ⟨node, member, malformed⟩ := broken
        rw [checkCapacity_eq_failedToParse smallOthers
          ⟨node, permuted.mem_iff.mpr member, malformed⟩]
      · have parsed : ∀ node ∈ nodes,
            ¬r.Malformed (capacityKey (deviceClassOf sc)) node :=
          fun node member malformed => broken ⟨node, member, malformed⟩
        rw [checkCapacity_eq_notFound_iff.mpr
            ⟨fun node member => ⟨parsed node member, small node member⟩, rfl⟩,
          checkCapacity_eq_notFound_iff.mpr ⟨fun node member =>
            ⟨parsed node (permuted.mem_iff.mp member), smallOthers node member⟩, rfl⟩]
        rfl

/-- Mixed nodes have orders with different results. -/
theorem exists_perm_of_mixed (mixed : r.Mixed pvc sc nodes) :
    ∃ first second : List Node, first.Perm nodes ∧ second.Perm nodes ∧
      (r.conclusion pvc sc first).2 ≠ (r.conclusion pvc sc second).2 := by
  obtain ⟨unmarked, ⟨large, isLarge, exceeds⟩, broken, isBroken, malformed⟩ := mixed
  refine ⟨large :: nodes.erase large, broken :: nodes.erase broken,
    (List.perm_cons_erase isLarge).symm, (List.perm_cons_erase isBroken).symm, ?_⟩
  have found : r.checkCapacity (capacityKey (deviceClassOf sc))
      pvc.requestedStorage [] (large :: nodes.erase large) = .found := by
    rcases checkCapacity_cons [] large (nodes.erase large) with
      ⟨isMalformed, -⟩ | ⟨-, stops⟩ | ⟨-, small, -⟩
    · exact absurd isMalformed (not_malformed_of_exceeds exceeds)
    · exact stops
    · exact absurd exceeds small
  have failed : r.checkCapacity (capacityKey (deviceClassOf sc))
      pvc.requestedStorage [] (broken :: nodes.erase broken) = .failedToParse := by
    rcases checkCapacity_cons [] broken (nodes.erase broken) with
      ⟨-, stops⟩ | ⟨isLarge, -⟩ | ⟨parsed, -, -⟩
    · exact stops
    · exact absurd malformed (not_malformed_of_exceeds isLarge)
    · exact absurd malformed parsed
  rw [conclusion, conclusion, if_neg unmarked, if_neg unmarked, found, failed]
  simp [outcome]

/-- The world with the nodes in another order. -/
def withNodes (world : World) (nodes : List Node) : World :=
  { world with api := world.api.set .node nodes }

theorem Pending.withNodes
    (pending : Pending world name pvc sc)
    (nodes : List Node) :
    Pending (withNodes world nodes) name pvc sc where
  found := by
    rw [← pending.found]
    exact congrArg (List.find? _) (ApiServer.set_objects_other _ _ nofun)
  phase := pending.phase
  ofClass := by
    obtain ⟨storageClassName, isName, isClass⟩ := pending.ofClass
    refine ⟨storageClassName, isName, ?_⟩
    rw [← isClass]
    exact congrArg (List.find? _) (ApiServer.set_objects_other _ _ nofun)
  provisioner := pending.provisioner

/-- All successful runs have a property, whatever the order of the nodes. -/
def InAnyOrder
    (r : ClaimReconciler)
    (host name : String)
    (world : World)
    (property : List (Event sig World) → Result → Prop) : Prop :=
  ∀ nodes : List Node, nodes.Perm (world.api.objects .node) → ∀ events result after,
    Exec (environment host) (r.reconcile name).run (withNodes world nodes) events
      (.ok result) after → property events result

/-! ## Accuracy -/

/-- The event is published exactly if no node has the requested storage. -/
def Accurate
    (r : ClaimReconciler)
    (pvc : PersistentVolumeClaim)
    (sc : StorageClass)
    (nodes : List Node)
    (events : List (Event sig World)) : Prop :=
  Announced pvc events ↔ ¬∃ node ∈ nodes,
    r.Suffices (capacityKey (deviceClassOf sc)) pvc.requestedStorage node

/-- No event is published whatever the capacities are. -/
def Silenced
    (r : ClaimReconciler)
    (pvc : PersistentVolumeClaim)
    (sc : StorageClass)
    (nodes : List Node) : Prop :=
  pvc.metadata.deletionTimestamp.isSome ∨
    ∃ node ∈ nodes, r.Malformed (capacityKey (deviceClassOf sc)) node

/-- Some node has more than the requested storage; or some has it and no event is
published anyway; or none has it and nothing keeps the event back. -/
def Unambiguous
    (r : ClaimReconciler)
    (pvc : PersistentVolumeClaim)
    (sc : StorageClass)
    (nodes : List Node) : Prop :=
  (∃ node ∈ nodes,
    r.Exceeds (capacityKey (deviceClassOf sc)) pvc.requestedStorage node) ∨
  (r.Silenced pvc sc nodes ∧ ∃ node ∈ nodes,
    r.Suffices (capacityKey (deviceClassOf sc)) pvc.requestedStorage node) ∨
  (¬r.Silenced pvc sc nodes ∧ ¬∃ node ∈ nodes,
    r.Suffices (capacityKey (deviceClassOf sc)) pvc.requestedStorage node)

/-- When the claim is announced as too large, by what silences it. -/
theorem announced_iff_silenced
    (pending : Pending world name pvc sc)
    (ran : Exec (environment host) (r.reconcile name).run world events (.ok result) after) :
    Announced pvc events ↔
      ¬r.Silenced pvc sc (world.api.objects .node) ∧
      ¬∃ node ∈ world.api.objects .node,
        r.Exceeds (capacityKey (deviceClassOf sc)) pvc.requestedStorage node := by
  rw [announced_iff pending ran, Silenced]
  constructor
  · rintro ⟨unmarked, small⟩
    refine ⟨?_, ?_⟩
    · rintro (marked | ⟨node, member, malformed⟩)
      · exact unmarked marked
      · exact (small node member).1 malformed
    · rintro ⟨node, member, exceeds⟩
      exact (small node member).2 exceeds
  · rintro ⟨loud, small⟩
    exact ⟨fun marked => loud (.inl marked), fun node member =>
      ⟨fun malformed => loud (.inr ⟨node, member, malformed⟩),
        fun exceeds => small ⟨node, member, exceeds⟩⟩⟩

/-- The event is accurate exactly when the nodes are unambiguous. -/
theorem accurate_iff
    (pending : Pending world name pvc sc)
    (ran : Exec (environment host) (r.reconcile name).run world events (.ok result) after) :
    r.Accurate pvc sc (world.api.objects .node) events ↔
      r.Unambiguous pvc sc (world.api.objects .node) := by
  have enough : (∃ node ∈ world.api.objects .node,
      r.Exceeds (capacityKey (deviceClassOf sc)) pvc.requestedStorage node) →
      ∃ node ∈ world.api.objects .node,
        r.Suffices (capacityKey (deviceClassOf sc)) pvc.requestedStorage node := by
    rintro ⟨node, member, exceeds⟩
    exact ⟨node, member, exceeds.suffices⟩
  rw [Accurate, Unambiguous, announced_iff_silenced pending ran]
  by_cases more : ∃ node ∈ world.api.objects .node,
      r.Exceeds (capacityKey (deviceClassOf sc)) pvc.requestedStorage node
  · exact iff_of_true (iff_of_false (fun told => told.2 more) (not_not_intro (enough more)))
      (.inl more)
  · rw [or_iff_right more, and_iff_left more]
    by_cases silenced : r.Silenced pvc sc (world.api.objects .node)
    · simp [silenced]
    · simp [silenced]

/-- The event is accurate exactly for these nodes. It does not depend on their order; the
delay until the next run does when they are mixed. -/
theorem notEnoughCapacity_accurate_iff
    (pending : Pending world name pvc sc)
    (ran : Exec (environment host) (r.reconcile name).run world events (.ok result) after) :
    (r.Accurate pvc sc (world.api.objects .node) events ↔
      r.Unambiguous pvc sc (world.api.objects .node)) ∧
    r.InAnyOrder host name world (fun others _ => published others = published events) ∧
    (r.InAnyOrder host name world (fun _ other => other = result) ↔
      ¬r.Mixed pvc sc (world.api.objects .node)) := by
  have told : published events = _ := congrArg Prod.fst (reconcile_ok pending ran)
  have returned : result = _ := congrArg Prod.snd (reconcile_ok pending ran)
  have reads : ∀ nodes : List Node,
      (withNodes world nodes).api.objects .node = nodes := fun nodes =>
    ApiServer.set_objects_self _ _ _
  refine ⟨accurate_iff pending ran, ?_, ?_, ?_⟩
  · intro nodes permuted others other later ranOther
    have toldOther : published others = _ :=
      congrArg Prod.fst (reconcile_ok (pending.withNodes nodes) ranOther)
    rw [told, toldOther, reads]
    exact conclusion_published_eq_of_perm permuted
  · intro same mixed
    obtain ⟨first, second, isFirst, isSecond, different⟩ := exists_perm_of_mixed mixed
    have returns : ∀ nodes : List Node, nodes.Perm (world.api.objects .node) →
        (r.conclusion pvc sc nodes).2 = result := by
      intro nodes permuted
      obtain ⟨others, other, later, ranOther⟩ := exists_reconcile (pending.withNodes nodes)
      have returnedOther : other = _ :=
        congrArg Prod.snd (reconcile_ok (pending.withNodes nodes) ranOther)
      rw [reads] at returnedOther
      exact returnedOther.symm.trans (same nodes permuted others other later ranOther)
    exact different ((returns first isFirst).trans (returns second isSecond).symm)
  · intro unmixed nodes permuted others other later ranOther
    have returnedOther : other = _ :=
      congrArg Prod.snd (reconcile_ok (pending.withNodes nodes) ranOther)
    rw [returned, returnedOther, reads]
    exact conclusion_result_eq_of_perm unmixed permuted

/-! ## A node with ten bytes -/

/-- A reconciler that knows one quantity. -/
def tenReconciler : ClaimReconciler where
  parseQuantity text :=
    if text = "10" then .ok { nano := 10000000000, text }
    else .error (.new "quantities must match the regular expression")
  format quantity := quantity.text
  float64 bytes := bytes
  fixed _ := "10.0"

/-- A node that announces ten bytes. -/
def tenNode : Node where
  metadata := {
    name := "node"
    annotations := [("capacity.topolvm.io/vg1", "10")] }

/-- The storage class of a device class. -/
def plainClass : StorageClass where
  metadata := { name := "lvms-vg1" }
  provisioner := "topolvm.io"
  reclaimPolicy := none
  volumeBindingMode := none
  parameters := [("topolvm.io/device-class", "vg1")]

/-- A claim of this storage class. -/
def sizedClaim (bytes : Int) : PersistentVolumeClaim where
  metadata := { name := "data" }
  storageClassName := some "lvms-vg1"
  requests := some { nano := bytes * 1000000000 }

/-- A world with the claim, the storage class and the node. -/
def tenWorld (bytes : Int) : World where
  api := ⟨fun
    | .persistentVolumeClaim => [sizedClaim bytes]
    | .storageClass => [plainClass]
    | .node => [tenNode]
    | _ => []⟩
  host := fun _ => {}
  memory := fun _ => {}

/-- A run without failures. -/
def tenRun (bytes : Int) : List (Event sig World) × Except GoError Result × World :=
  Program.run (environment "") (fun _ _ => {}) (tenReconciler.reconcile "data").run
    (tenWorld bytes)

theorem tenWorld_pending (bytes : Int) :
    Pending (tenWorld bytes) "data" (sizedClaim bytes) plainClass where
  found := rfl
  phase := rfl
  ofClass := ⟨"lvms-vg1", rfl, rfl⟩
  provisioner := rfl

theorem tenNode_capacity :
    tenReconciler.capacityOf (capacityKey (deviceClassOf plainClass)) tenNode =
      some (.ok { nano := 10000000000, text := "10" }) := by
  decide +kernel

theorem notEnoughCapacity_accurate_iff_small :
    tenReconciler.Accurate (sizedClaim 5) plainClass [tenNode] (tenRun 5).1 := by
  have succeeds : (tenRun 5).2.1 = .ok { requeueAfter := 15 } := by
    decide +kernel
  refine (notEnoughCapacity_accurate_iff (tenWorld_pending 5)
    (succeeds ▸ Program.run_exec (environment "") (fun _ _ => {}) _ _)).1.mpr (.inl ?_)
  exact ⟨tenNode, .head _, _, tenNode_capacity, by decide⟩

/-- A claim of exactly the free storage of the node is announced to be too large. -/
theorem equal_capacity_announced :
    (tenRun 10).2.1 = .ok { requeueAfter := 15 } ∧
      ¬tenReconciler.Accurate (sizedClaim 10) plainClass [tenNode] (tenRun 10).1 := by
  have succeeds : (tenRun 10).2.1 = .ok { requeueAfter := 15 } := by
    decide +kernel
  refine ⟨succeeds, fun accurate => accurate.mp ?_ ?_⟩
  · refine (announced_iff (tenWorld_pending 10)
      (succeeds ▸ Program.run_exec (environment "") (fun _ _ => {}) _ _)).mpr
      ⟨nofun, fun node member => ?_⟩
    obtain rfl := List.mem_singleton.mp member
    refine ⟨?_, ?_⟩
    · rintro ⟨err, isError⟩
      cases tenNode_capacity.symm.trans isError
    · rintro ⟨capacity, isCapacity, more⟩
      cases tenNode_capacity.symm.trans isCapacity
      exact absurd more (by decide)
  · exact ⟨tenNode, .head _, _, tenNode_capacity, by decide⟩

end ClaimReconciler
end Lvms
