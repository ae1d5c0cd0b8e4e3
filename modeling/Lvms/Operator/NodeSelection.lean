import Lvms.Operator.Status

/-!
# Agreement of the node selections

Three places decide which nodes a cluster uses: `ValidNodes`, from all device
classes at once; `isNodeValid`, for one device class; and the affinity of the
daemon set. This module compares them, and shows when a node that no selector
matches has an influence on the cluster.

What is assumed about `MatchNodeSelectorTerms` is its documentation: a selector
is a disjunction of its terms.
-/

namespace Lvms

open Interaction

/-! ## Selectors and their terms -/

namespace Scheduling

/-- Selectors are evaluated term by term. An error of a term counts when no other
term matches. -/
structure TermWise
    (scheduling : Scheduling)
    (matchTerm : Node → NodeSelectorTerm → Except GoError Bool) : Prop where
  matches_iff : ∀ node selector,
    scheduling.matchNodeSelectorTerms node selector = .ok true ↔
      ∃ term ∈ selector.nodeSelectorTerms, matchTerm node term = .ok true
  fails_iff : ∀ node selector,
    (∃ err, scheduling.matchNodeSelectorTerms node selector = .error err) ↔
      (∀ term ∈ selector.nodeSelectorTerms, matchTerm node term ≠ .ok true) ∧
      ∃ term ∈ selector.nodeSelectorTerms, ∃ err, matchTerm node term = .error err

/-- Selectors are evaluated term by term, and never with an error. -/
def Decides
    (scheduling : Scheduling)
    (matchTerm : Node → NodeSelectorTerm → Bool) : Prop :=
  ∀ node selector, scheduling.matchNodeSelectorTerms node selector =
    .ok (selector.nodeSelectorTerms.any (matchTerm node))

/-- An optional selector admits a node; without one every node is admitted. -/
def admits
    (scheduling : Scheduling)
    (nodeSelector : Option NodeSelector)
    (node : Node) : Bool :=
  match nodeSelector with
  | none => true
  | some selector =>
      match scheduling.matchNodeSelectorTerms node selector with
      | .ok found => found
      | .error _ => false

end Scheduling

/-- A term of the combined selector is a term of a device class. -/
theorem mem_selectorTerms_iff
    {deviceClasses : List DeviceClass}
    {terms : List NodeSelectorTerm}
    (combined : selectorTerms deviceClasses = some terms)
    (term : NodeSelectorTerm) :
    term ∈ terms ↔ ∃ deviceClass ∈ deviceClasses, ∃ selector,
      deviceClass.nodeSelector = some selector ∧
      term ∈ selector.nodeSelectorTerms := by
  induction deviceClasses generalizing terms with
  | nil =>
      obtain rfl : [] = terms := Option.some.inj combined
      simp
  | cons deviceClass rest inductionHypothesis =>
      unfold selectorTerms at combined
      cases given : deviceClass.nodeSelector with
      | none => simp [given] at combined
      | some selector =>
          simp only [given, Option.map_eq_some_iff] at combined
          obtain ⟨others, isOthers, rfl⟩ := combined
          rw [List.mem_append, inductionHypothesis isOthers]
          simp [given]

/-- Without a device class for all nodes there is a combined selector. -/
theorem selectorTerms_isSome_iff (deviceClasses : List DeviceClass) :
    (selectorTerms deviceClasses).isSome ↔
      ∀ deviceClass ∈ deviceClasses, deviceClass.nodeSelector.isSome := by
  induction deviceClasses with
  | nil => simp [selectorTerms]
  | cons deviceClass rest inductionHypothesis =>
      unfold selectorTerms
      cases given : deviceClass.nodeSelector with
      | none => simp [given]
      | some selector => simp [given, inductionHypothesis]

/-- Some device class lists a term. -/
def SomeTerm (cluster : LVMCluster) : Prop :=
  ∃ deviceClass ∈ cluster.spec.deviceClasses, ∃ selector,
    deviceClass.nodeSelector = some selector ∧ selector.nodeSelectorTerms ≠ []

/-- With a device class for all nodes the cluster has no selector. -/
theorem extractNodeSelector_of_unselective
    {cluster : LVMCluster}
    {deviceClass : DeviceClass}
    (member : deviceClass ∈ cluster.spec.deviceClasses)
    (unselective : deviceClass.nodeSelector = none) :
    (extractNodeSelectorAndTolerations cluster).1 = none := by
  cases combined : selectorTerms cluster.spec.deviceClasses with
  | none => simp [extractNodeSelectorAndTolerations, combined]
  | some terms =>
      have selective := (selectorTerms_isSome_iff _).mp (by simp [combined])
        deviceClass member
      simp [unselective] at selective

/-- Without a term the cluster has no selector either. -/
theorem extractNodeSelector_of_noTerm
    {cluster : LVMCluster}
    (noTerm : ¬SomeTerm cluster) :
    (extractNodeSelectorAndTolerations cluster).1 = none := by
  cases combined : selectorTerms cluster.spec.deviceClasses with
  | none => simp [extractNodeSelectorAndTolerations, combined]
  | some terms =>
      have empty : terms = [] := by
        apply List.eq_nil_iff_forall_not_mem.mpr
        intro term member
        obtain ⟨deviceClass, classMember, selector, given, termMember⟩ :=
          (mem_selectorTerms_iff combined term).mp member
        exact noTerm ⟨deviceClass, classMember, selector, given,
          List.ne_nil_of_mem termMember⟩
      simp [extractNodeSelectorAndTolerations, combined, empty]

/-- Otherwise the selector of the cluster has the terms of all device classes. -/
theorem extractNodeSelector_of_someTerm
    {cluster : LVMCluster}
    (selective : ∀ deviceClass ∈ cluster.spec.deviceClasses,
      deviceClass.nodeSelector.isSome)
    (someTerm : SomeTerm cluster) :
    ∃ terms, (extractNodeSelectorAndTolerations cluster).1 = some ⟨terms⟩ ∧
      ∀ term, term ∈ terms ↔
        ∃ deviceClass ∈ cluster.spec.deviceClasses, ∃ selector,
          deviceClass.nodeSelector = some selector ∧
          term ∈ selector.nodeSelectorTerms := by
  obtain ⟨terms, combined⟩ := Option.isSome_iff_exists.mp
    ((selectorTerms_isSome_iff _).mpr selective)
  have memberIff := mem_selectorTerms_iff combined
  refine ⟨terms, ?_, memberIff⟩
  obtain ⟨deviceClass, member, selector, given, nonempty⟩ := someTerm
  obtain ⟨term, termMember⟩ := List.exists_mem_of_ne_nil _ nonempty
  have listed : term ∈ terms :=
    (memberIff term).mpr ⟨deviceClass, member, selector, given, termMember⟩
  simp [extractNodeSelectorAndTolerations, combined, List.ne_nil_of_mem listed]

/-! ## Nodes -/

namespace Scheduling

variable {scheduling : Scheduling}
variable {tolerations : List Toleration}

theorem toleratesAllTaints_of_tolerated
    {taints : List Taint}
    (tolerated : ∀ taint ∈ taints,
      scheduling.tolerationsTolerateTaint tolerations taint) :
    scheduling.toleratesAllTaints tolerations taints = (true, none) := by
  induction taints with
  | nil => rfl
  | cons taint rest inductionHypothesis =>
      rw [List.forall_mem_cons] at tolerated
      simp [toleratesAllTaints, tolerated.1, inductionHypothesis tolerated.2]

/-- Taints that are tolerated cause no error. -/
theorem toleratesAllTaints_of_true
    {taints : List Taint}
    {err : Option GoError}
    (outcome : scheduling.toleratesAllTaints tolerations taints = (true, err)) :
    err = none := by
  induction taints with
  | nil => simpa [toleratesAllTaints] using outcome.symm
  | cons taint rest inductionHypothesis =>
      unfold toleratesAllTaints at outcome
      split at outcome
      · split at outcome <;> cases outcome
      · exact inductionHypothesis outcome

/-- `isNodeValid` for a node whose taints are tolerated. -/
theorem isNodeValid_iff_admits
    {node : Node}
    {cluster : LVMCluster}
    {deviceClass : DeviceClass}
    (tolerated : scheduling.toleratesAllTaints cluster.spec.tolerations node.taints =
      (true, none)) :
    scheduling.isNodeValid node cluster deviceClass = .ok true ↔
      scheduling.admits deviceClass.nodeSelector node = true := by
  unfold isNodeValid admits
  rw [tolerated]
  cases given : deviceClass.nodeSelector with
  | none => simp
  | some selector =>
      cases outcome : scheduling.matchNodeSelectorTerms node selector with
      | error err => simp [outcome]
      | ok found => simp [outcome]

/-- What a node adds to the valid nodes when no selector fails. -/
theorem considerNode_of_total
    {nodeSelector : Option NodeSelector}
    {node : Node}
    (total : ∀ selector, ∃ found,
      scheduling.matchNodeSelectorTerms node selector = .ok found) :
    scheduling.considerNode nodeSelector tolerations node =
      .ok ([node].filter fun node =>
          (scheduling.toleratesAllTaints tolerations node.taints).1 &&
            scheduling.admits nodeSelector node,
        (scheduling.toleratesAllTaints tolerations node.taints).2.toList) := by
  unfold considerNode admits
  cases tolerated : (scheduling.toleratesAllTaints tolerations node.taints).1 with
  | false => simp [tolerated, pure, Except.pure]
  | true =>
      cases nodeSelector with
      | none => simp [tolerated, pure, Except.pure]
      | some selector =>
          obtain ⟨found, outcome⟩ := total selector
          cases found <;>
            simp [tolerated, outcome, pure, Except.pure, Bind.bind, Except.bind]

/-- When no selector fails, the valid nodes are the tolerated ones that the
selector admits. -/
theorem considerNodes_of_total
    {nodeSelector : Option NodeSelector}
    {nodes : List Node}
    (total : ∀ node selector, ∃ found,
      scheduling.matchNodeSelectorTerms node selector = .ok found) :
    ∃ errs, scheduling.considerNodes nodeSelector tolerations nodes =
      .ok (nodes.filter fun node =>
          (scheduling.toleratesAllTaints tolerations node.taints).1 &&
            scheduling.admits nodeSelector node, errs) := by
  induction nodes with
  | nil => exact ⟨[], rfl⟩
  | cons first rest inductionHypothesis =>
      obtain ⟨errs, considered⟩ := inductionHypothesis
      have split : ∀ keep : Node → Bool,
          (first :: rest).filter keep = [first].filter keep ++ rest.filter keep :=
        fun keep => List.filter_append [first] rest
      refine ⟨(scheduling.toleratesAllTaints tolerations first.taints).2.toList ++
        errs, ?_⟩
      rw [split, considerNodes, considerNode_of_total (total first), considered]
      rfl

theorem validNodes_eq (cluster : LVMCluster) (nodes : List Node) :
    scheduling.validNodes cluster nodes =
      match scheduling.considerNodes (extractNodeSelectorAndTolerations cluster).1
        cluster.spec.tolerations nodes with
      | .error err => ([], some err)
      | .ok (valid, errs) => (valid, GoError.joinAll errs) := rfl

end Scheduling

/-! ## Agreement -/

section

variable {scheduling : Scheduling} {matchTerm : Node → NodeSelectorTerm → Bool}

theorem Scheduling.Decides.admits_iff
    (decides : scheduling.Decides matchTerm)
    (selector : NodeSelector)
    (node : Node) :
    scheduling.admits (some selector) node = true ↔
      ∃ term ∈ selector.nodeSelectorTerms, matchTerm node term = true := by
  simp [Scheduling.admits, decides node selector]

/-- Some device class accepts a node. -/
def Accepted (scheduling : Scheduling) (cluster : LVMCluster) (node : Node) : Prop :=
  ∃ deviceClass ∈ cluster.spec.deviceClasses,
    scheduling.isNodeValid node cluster deviceClass = .ok true

/-- The three selections agree on a node of a list. -/
structure SelectionsAgree
    (scheduling : Scheduling)
    (cluster : LVMCluster)
    (nodes : List Node)
    (node : Node) : Prop where
  valid_iff : node ∈ (scheduling.validNodes cluster nodes).1 ↔
    Accepted scheduling cluster node
  affinity_iff : Accepted scheduling cluster node ↔
    scheduling.admits (extractNodeSelectorAndTolerations cluster).1 node = true

/-- Some device class is for all nodes, or lists a term. -/
def SomeSelection (cluster : LVMCluster) : Prop :=
  ∃ deviceClass ∈ cluster.spec.deviceClasses, ∀ selector,
    deviceClass.nodeSelector = some selector → selector.nodeSelectorTerms ≠ []

/-- `ValidNodes` and the affinity use the same selector. -/
theorem mem_validNodes_iff
    {cluster : LVMCluster}
    {nodes : List Node}
    {node : Node}
    (decides : scheduling.Decides matchTerm)
    (member : node ∈ nodes)
    (tolerated : scheduling.toleratesAllTaints cluster.spec.tolerations node.taints =
      (true, none)) :
    node ∈ (scheduling.validNodes cluster nodes).1 ↔
      scheduling.admits (extractNodeSelectorAndTolerations cluster).1 node = true := by
  have total (node : Node) (selector : NodeSelector) : ∃ found,
      scheduling.matchNodeSelectorTerms node selector = .ok found :=
    ⟨_, decides node selector⟩
  obtain ⟨errs, considered⟩ : ∃ errs, scheduling.considerNodes
      (extractNodeSelectorAndTolerations cluster).1 cluster.spec.tolerations nodes =
        .ok (_, errs) :=
    Scheduling.considerNodes_of_total total
  rw [Scheduling.validNodes_eq, considered]
  simp [member, tolerated]

/-- With terms for every device class, a node is accepted when the terms of all
device classes together admit it. -/
theorem accepted_iff_of_selective
    {cluster : LVMCluster}
    {node : Node}
    (decides : scheduling.Decides matchTerm)
    (tolerated : scheduling.toleratesAllTaints cluster.spec.tolerations node.taints =
      (true, none))
    (selective : ∀ deviceClass ∈ cluster.spec.deviceClasses,
      deviceClass.nodeSelector.isSome)
    (someTerm : SomeTerm cluster) :
    Accepted scheduling cluster node ↔
      scheduling.admits (extractNodeSelectorAndTolerations cluster).1 node = true := by
  obtain ⟨terms, extracted, memberIff⟩ :=
    extractNodeSelector_of_someTerm selective someTerm
  rw [extracted, decides.admits_iff]
  constructor
  · rintro ⟨deviceClass, member, valid⟩
    obtain ⟨selector, given⟩ :=
      Option.isSome_iff_exists.mp (selective deviceClass member)
    rw [Scheduling.isNodeValid_iff_admits tolerated, given, decides.admits_iff] at valid
    obtain ⟨term, termMember, matched⟩ := valid
    exact ⟨term, (memberIff term).mpr ⟨deviceClass, member, selector, given, termMember⟩,
      matched⟩
  · rintro ⟨term, termMember, matched⟩
    obtain ⟨deviceClass, member, selector, given, listed⟩ := (memberIff term).mp termMember
    refine ⟨deviceClass, member, ?_⟩
    rw [Scheduling.isNodeValid_iff_admits tolerated, given, decides.admits_iff]
    exact ⟨term, listed, matched⟩

/-- The selections agree on a tolerated node exactly when some device class is for
all nodes or lists a term. -/
theorem selectionsAgree_iff
    (scheduling : Scheduling)
    (matchTerm : Node → NodeSelectorTerm → Bool)
    (cluster : LVMCluster)
    (nodes : List Node)
    (node : Node)
    (decides : scheduling.Decides matchTerm)
    (member : node ∈ nodes)
    (tolerated : ∀ taint ∈ node.taints,
      scheduling.tolerationsTolerateTaint cluster.spec.tolerations taint) :
    SelectionsAgree scheduling cluster nodes node ↔ SomeSelection cluster := by
  have tolerates := Scheduling.toleratesAllTaints_of_tolerated tolerated
  have validIff := mem_validNodes_iff decides member tolerates
  by_cases selective : ∀ deviceClass ∈ cluster.spec.deviceClasses,
      deviceClass.nodeSelector.isSome
  · by_cases someTerm : SomeTerm cluster
    · have acceptedIff := accepted_iff_of_selective decides tolerates selective someTerm
      obtain ⟨deviceClass, classMember, selector, given, terms⟩ := someTerm
      refine iff_of_true ⟨validIff.trans acceptedIff.symm, acceptedIff⟩
        ⟨deviceClass, classMember, ?_⟩
      rintro other isOther
      obtain rfl := Option.some.inj (given.symm.trans isOther)
      exact terms
    · -- The affinity admits every node, and no device class does.
      refine iff_of_false ?_ ?_
      · intro agree
        have admitted : scheduling.admits
            (extractNodeSelectorAndTolerations cluster).1 node = true := by
          rw [extractNodeSelector_of_noTerm someTerm]
          rfl
        obtain ⟨deviceClass, classMember, valid⟩ := agree.affinity_iff.mpr admitted
        obtain ⟨selector, given⟩ :=
          Option.isSome_iff_exists.mp (selective deviceClass classMember)
        rw [Scheduling.isNodeValid_iff_admits tolerates, given, decides.admits_iff] at valid
        obtain ⟨term, termMember, -⟩ := valid
        exact someTerm ⟨deviceClass, classMember, selector, given,
          List.ne_nil_of_mem termMember⟩
      · rintro ⟨deviceClass, classMember, terms⟩
        obtain ⟨selector, given⟩ :=
          Option.isSome_iff_exists.mp (selective deviceClass classMember)
        exact someTerm ⟨deviceClass, classMember, selector, given, terms selector given⟩
  · push Not at selective
    obtain ⟨deviceClass, classMember, unselective⟩ := selective
    have isNone : deviceClass.nodeSelector = none := by simpa using unselective
    have admitted : scheduling.admits
        (extractNodeSelectorAndTolerations cluster).1 node = true := by
      rw [extractNodeSelector_of_unselective classMember isNone]
      rfl
    have accepted : Accepted scheduling cluster node := by
      refine ⟨deviceClass, classMember, ?_⟩
      rw [Scheduling.isNodeValid_iff_admits tolerates, isNone]
      rfl
    refine iff_of_true ⟨validIff.trans (iff_of_true admitted accepted),
      iff_of_true accepted admitted⟩ ⟨deviceClass, classMember, ?_⟩
    intro selector given
    rw [isNone] at given
    cases given

end

/-- A requirement on the labels of a node; comparisons of numbers are left out. -/
def matchesRequirement (node : Node) (requirement : NodeSelectorRequirement) : Bool :=
  match requirement.operator, node.metadata.labels.get? requirement.key with
  | .inValues, some value => requirement.values.contains value
  | .notInValues, some value => !requirement.values.contains value
  | .notInValues, none => true
  | .existsKey, found => found.isSome
  | .doesNotExist, found => found.isNone
  | _, _ => false

/-- A term on the labels of a node. -/
def matchesTerm (node : Node) (term : NodeSelectorTerm) : Bool :=
  !term.matchExpressions.isEmpty &&
    term.matchExpressions.all (matchesRequirement node)

/-- Scheduling by labels and by the keys of taints. -/
def Scheduling.byLabels : Scheduling where
  matchNodeSelectorTerms node selector :=
    .ok (selector.nodeSelectorTerms.any (matchesTerm node))
  tolerationsTolerateTaint tolerations taint :=
    tolerations.any fun toleration => toleration.key == taint.key

/-- The selector of the nodes of a zone. -/
def zoneSelector (zone : String) : NodeSelector :=
  ⟨[{ matchExpressions :=
    [{ key := "zone", operator := .inValues, values := [zone] }] }]⟩

/-- A cluster with one device class that has a selector. -/
def selectiveCluster (selector : NodeSelector) : LVMCluster where
  metadata := { name := "cluster" }
  spec := { deviceClasses := [{ name := "vg1", nodeSelector := some selector }] }

/-- A node of a zone. -/
def zoneNode (name zone : String) (taints : List Taint) : Node where
  metadata := { name, labels := [("zone", zone)] }
  taints := taints

theorem selectionsAgree_iff_zone :
    SelectionsAgree .byLabels (selectiveCluster (zoneSelector "a"))
      [zoneNode "node" "a" []] (zoneNode "node" "a" []) :=
  (selectionsAgree_iff .byLabels matchesTerm (selectiveCluster (zoneSelector "a"))
    [zoneNode "node" "a" []] (zoneNode "node" "a" []) (fun _ _ => rfl) (by simp)
    (by simp [zoneNode])).mpr
    ⟨_, List.mem_singleton_self _, by rintro _ ⟨⟩; simp [zoneSelector]⟩

/-- A selector without terms leaves the affinity open and is met by no node. -/
theorem selections_disagree :
    ¬∀ (scheduling : Scheduling) (matchTerm : Node → NodeSelectorTerm → Bool)
      (cluster : LVMCluster) (nodes : List Node) (node : Node),
      scheduling.Decides matchTerm → cluster.spec.deviceClasses ≠ [] → node ∈ nodes →
      (∀ taint ∈ node.taints,
        scheduling.tolerationsTolerateTaint cluster.spec.tolerations taint) →
      SelectionsAgree scheduling cluster nodes node := by
  intro always
  have agree := always .byLabels matchesTerm (selectiveCluster ⟨[]⟩)
    [zoneNode "node" "a" []] (zoneNode "node" "a" []) (fun _ _ => rfl)
    (by simp [selectiveCluster]) (by simp) (by simp [zoneNode])
  obtain ⟨deviceClass, member, valid⟩ := agree.affinity_iff.mpr rfl
  obtain rfl := List.mem_singleton.mp member
  exact absurd valid (by decide)

/-! ## Unrelated nodes -/

section

variable {scheduling : Scheduling}
variable {extra : Node} {cluster : LVMCluster}

/-- A node that adds nothing can be left out. -/
theorem considerNodes_insert
    {nodeSelector : Option NodeSelector}
    {tolerations : List Toleration}
    (nothing : scheduling.considerNode nodeSelector tolerations extra = .ok ([], []))
    (before after : List Node) :
    scheduling.considerNodes nodeSelector tolerations (before ++ extra :: after) =
      scheduling.considerNodes nodeSelector tolerations (before ++ after) := by
  induction before with
  | nil =>
      rw [List.nil_append, Scheduling.considerNodes, nothing, List.nil_append]
      cases scheduling.considerNodes nodeSelector tolerations after <;> rfl
  | cons node rest inductionHypothesis =>
      simp only [List.cons_append, Scheduling.considerNodes, inductionHypothesis]

/-- A node that is not valid for a device class can be left out. -/
theorem checkDeviceClassNodes_insert
    {nodeStatusList : List LVMVolumeGroupNodeStatus}
    {deviceClass : DeviceClass}
    (invalid : scheduling.isNodeValid extra cluster deviceClass = .ok false)
    (validNodeExists : Bool)
    (before after : List Node) :
    scheduling.checkDeviceClassNodes cluster nodeStatusList deviceClass validNodeExists
        (before ++ extra :: after) =
      scheduling.checkDeviceClassNodes cluster nodeStatusList deviceClass
        validNodeExists (before ++ after) := by
  induction before generalizing validNodeExists with
  | nil =>
      rw [List.nil_append, Scheduling.checkDeviceClassNodes, invalid, List.nil_append]
      rfl
  | cons node rest inductionHypothesis =>
      simp only [List.cons_append, Scheduling.checkDeviceClassNodes,
        inductionHypothesis]

/-- Inserting a node anywhere in the list of nodes changes neither the valid nodes,
nor whether they come with an error, nor whether the device classes are found to be
set up. -/
structure Unaffected
    (scheduling : Scheduling)
    (cluster : LVMCluster)
    (extra : Node)
    (before after : List Node)
    (nodeStatusList : List LVMVolumeGroupNodeStatus) : Prop where
  nodes : (scheduling.validNodes cluster (before ++ extra :: after)).1 =
    (scheduling.validNodes cluster (before ++ after)).1
  error_iff : (scheduling.validNodes cluster (before ++ extra :: after)).2 = none ↔
    (scheduling.validNodes cluster (before ++ after)).2 = none
  setup_iff : scheduling.validateDeviceClassSetup cluster (before ++ extra :: after)
      nodeStatusList = .ok () ↔
    scheduling.validateDeviceClassSetup cluster (before ++ after) nodeStatusList =
      .ok ()

/-- A node outside the selection has no influence on the cluster, whatever the other
nodes are. -/
def HasNoInfluence
    (scheduling : Scheduling)
    (cluster : LVMCluster)
    (extra : Node) : Prop :=
  ∀ before after nodeStatusList,
    (∀ node ∈ before ++ after, node.metadata.name ≠ extra.metadata.name) →
    Unaffected scheduling cluster extra before after nodeStatusList

/-- The taints of the node cause no error, and when they are tolerated some device
class lists a term and no selector fails on the node. -/
def Harmless
    (scheduling : Scheduling)
    (cluster : LVMCluster)
    (extra : Node) : Prop :=
  (scheduling.toleratesAllTaints cluster.spec.tolerations extra.taints).2 = none ∧
  ((scheduling.toleratesAllTaints cluster.spec.tolerations extra.taints).1 = true →
    SomeTerm cluster ∧
    ∀ deviceClass ∈ cluster.spec.deviceClasses, ∀ selector,
      deviceClass.nodeSelector = some selector →
      ∃ found, scheduling.matchNodeSelectorTerms extra selector = .ok found)

/-- A node that has no influence on an empty list adds nothing. -/
theorem considerNode_of_unaffected
    (unaffected : Unaffected scheduling cluster extra [] [] []) :
    scheduling.considerNode (extractNodeSelectorAndTolerations cluster).1
      cluster.spec.tolerations extra = .ok ([], []) := by
  have nodes := unaffected.nodes
  have noError := unaffected.error_iff.mpr rfl
  rw [List.nil_append, Scheduling.validNodes_eq, Scheduling.considerNodes] at nodes noError
  cases outcome : scheduling.considerNode (extractNodeSelectorAndTolerations cluster).1
      cluster.spec.tolerations extra with
  | error err => simp [outcome, Bind.bind, Except.bind] at noError
  | ok added =>
      simp only [outcome, Scheduling.considerNodes, pure, Except.pure, Bind.bind,
        Except.bind, List.append_nil, GoError.joinAll_eq_none_iff] at noError nodes
      exact congrArg Except.ok (Prod.ext nodes noError)

/-- A harmless node is valid for no device class. -/
theorem Harmless.isNodeValid
    (harmless : Harmless scheduling cluster extra)
    (selective : ∀ deviceClass ∈ cluster.spec.deviceClasses,
      deviceClass.nodeSelector.isSome)
    (unrelated : ∀ deviceClass ∈ cluster.spec.deviceClasses, ∀ selector,
      deviceClass.nodeSelector = some selector →
      scheduling.matchNodeSelectorTerms extra selector ≠ .ok true)
    {deviceClass : DeviceClass}
    (member : deviceClass ∈ cluster.spec.deviceClasses) :
    scheduling.isNodeValid extra cluster deviceClass = .ok false := by
  obtain ⟨noError, tolerable⟩ := harmless
  obtain ⟨selector, given⟩ :=
    Option.isSome_iff_exists.mp (selective deviceClass member)
  unfold Scheduling.isNodeValid
  cases taints :
      scheduling.toleratesAllTaints cluster.spec.tolerations extra.taints with
  | mk tolerated err =>
      rw [taints] at noError tolerable
      obtain rfl : err = none := noError
      cases tolerated with
      | false => rfl
      | true =>
          obtain ⟨found, outcome⟩ :=
            (tolerable rfl).2 deviceClass member selector given
          cases found with
          | true => exact absurd outcome (unrelated deviceClass member selector given)
          | false => simp [given, outcome]

section

variable
    {matchTerm : Node → NodeSelectorTerm → Except GoError Bool}
    {cluster : LVMCluster}
    {extra : Node}
    (termWise : scheduling.TermWise matchTerm)
    (selective : ∀ deviceClass ∈ cluster.spec.deviceClasses,
      deviceClass.nodeSelector.isSome)
    (unrelated : ∀ deviceClass ∈ cluster.spec.deviceClasses, ∀ selector,
      deviceClass.nodeSelector = some selector →
      scheduling.matchNodeSelectorTerms extra selector ≠ .ok true)

include termWise selective unrelated

/-- The combined selector does not match a node that no selector matches, and fails
when one of them does. -/
theorem combined_unrelated
    (someTerm : SomeTerm cluster) :
    ∃ selector, (extractNodeSelectorAndTolerations cluster).1 = some selector ∧
      scheduling.matchNodeSelectorTerms extra selector ≠ .ok true ∧
      ((∃ err, scheduling.matchNodeSelectorTerms extra selector = .error err) ↔
        ∃ deviceClass ∈ cluster.spec.deviceClasses, ∃ selector,
          deviceClass.nodeSelector = some selector ∧
          ∃ err, scheduling.matchNodeSelectorTerms extra selector = .error err) := by
  obtain ⟨terms, extracted, memberIff⟩ :=
    extractNodeSelector_of_someTerm selective someTerm
  have unmatched {deviceClass : DeviceClass}
      (member : deviceClass ∈ cluster.spec.deviceClasses)
      {selector : NodeSelector}
      (given : deviceClass.nodeSelector = some selector) :
      ∀ term ∈ selector.nodeSelectorTerms, matchTerm extra term ≠ .ok true :=
    fun term listed matched => unrelated deviceClass member selector given
      ((termWise.matches_iff _ _).mpr ⟨term, listed, matched⟩)
  have noTermMatches : ∀ term ∈ terms, matchTerm extra term ≠ .ok true := by
    intro term listed
    obtain ⟨deviceClass, member, selector, given, termMember⟩ := (memberIff term).mp listed
    exact unmatched member given term termMember
  refine ⟨⟨terms⟩, extracted, ?_, ?_⟩
  · rw [Ne, termWise.matches_iff]
    rintro ⟨term, listed, matched⟩
    exact noTermMatches term listed matched
  · rw [termWise.fails_iff]
    constructor
    · rintro ⟨-, term, listed, failed⟩
      obtain ⟨deviceClass, member, selector, given, termMember⟩ :=
        (memberIff term).mp listed
      exact ⟨deviceClass, member, selector, given, (termWise.fails_iff _ _).mpr
        ⟨unmatched member given, term, termMember, failed⟩⟩
    · rintro ⟨deviceClass, member, selector, given, failed⟩
      obtain ⟨-, term, termMember, termFailed⟩ := (termWise.fails_iff _ _).mp failed
      exact ⟨noTermMatches, term,
        (memberIff term).mpr ⟨deviceClass, member, selector, given, termMember⟩,
        termFailed⟩

/-- A harmless node adds nothing to the valid nodes. -/
theorem Harmless.considerNode
    (harmless : Harmless scheduling cluster extra) :
    scheduling.considerNode (extractNodeSelectorAndTolerations cluster).1
      cluster.spec.tolerations extra = .ok ([], []) := by
  obtain ⟨noError, tolerable⟩ := harmless
  unfold Scheduling.considerNode
  cases tolerated :
      (scheduling.toleratesAllTaints cluster.spec.tolerations extra.taints).1 with
  | false => simp [tolerated, noError, pure, Except.pure]
  | true =>
      obtain ⟨someTerm, total⟩ := tolerable tolerated
      obtain ⟨selector, extracted, unmatched, failsIff⟩ :=
        combined_unrelated termWise selective unrelated someTerm
      cases outcome : scheduling.matchNodeSelectorTerms extra selector with
      | error err =>
          obtain ⟨deviceClass, member, other, given, otherErr, failed⟩ :=
            failsIff.mp ⟨err, outcome⟩
          obtain ⟨found, isFound⟩ := total deviceClass member other given
          rw [isFound] at failed
          cases failed
      | ok found =>
          cases found with
          | true => exact absurd outcome unmatched
          | false =>
              simp [extracted, outcome, tolerated, noError, pure, Except.pure, Bind.bind,
                Except.bind]

/-- A node that adds nothing to the valid nodes is harmless. -/
theorem Harmless.of_considerNode
    (nothing : scheduling.considerNode (extractNodeSelectorAndTolerations cluster).1
      cluster.spec.tolerations extra = .ok ([], [])) :
    Harmless scheduling cluster extra := by
  unfold Scheduling.considerNode at nothing
  cases tolerated :
      (scheduling.toleratesAllTaints cluster.spec.tolerations extra.taints).1 with
  | false =>
      simp only [tolerated, Bool.not_false, if_true, pure, Except.pure, Except.ok.injEq,
        Prod.mk.injEq, Option.toList_eq_nil_iff, true_and] at nothing
      exact ⟨nothing, fun wrong => by simp [tolerated] at wrong⟩
  | true =>
      have someTerm : SomeTerm cluster := by
        by_contra noTerm
        simp [extractNodeSelector_of_noTerm noTerm, tolerated, pure, Except.pure] at nothing
      obtain ⟨selector, extracted, unmatched, failsIff⟩ :=
        combined_unrelated termWise selective unrelated someTerm
      cases outcome : scheduling.matchNodeSelectorTerms extra selector with
      | error err => simp [extracted, tolerated, outcome, Bind.bind, Except.bind] at nothing
      | ok found =>
          refine ⟨Scheduling.toleratesAllTaints_of_true (Prod.ext tolerated rfl),
            fun _ => ⟨someTerm, fun deviceClass member other given => ?_⟩⟩
          cases classOutcome : scheduling.matchNodeSelectorTerms extra other with
          | ok classFound => exact ⟨classFound, rfl⟩
          | error err =>
              obtain ⟨combinedErr, failed⟩ :=
                failsIff.mpr ⟨deviceClass, member, other, given, err, classOutcome⟩
              rw [outcome] at failed
              cases failed

end

/-- A node that no selector matches has no influence exactly when it is harmless. -/
theorem hasNoInfluence_iff
    (scheduling : Scheduling)
    (matchTerm : Node → NodeSelectorTerm → Except GoError Bool)
    (cluster : LVMCluster)
    (extra : Node)
    (termWise : scheduling.TermWise matchTerm)
    (selective : ∀ deviceClass ∈ cluster.spec.deviceClasses,
      deviceClass.nodeSelector.isSome)
    (unrelated : ∀ deviceClass ∈ cluster.spec.deviceClasses, ∀ selector,
      deviceClass.nodeSelector = some selector →
      scheduling.matchNodeSelectorTerms extra selector ≠ .ok true) :
    HasNoInfluence scheduling cluster extra ↔ Harmless scheduling cluster extra := by
  constructor
  · -- A node that adds something changes the empty list of nodes already.
    intro noInfluence
    exact Harmless.of_considerNode termWise selective unrelated
      (considerNode_of_unaffected (noInfluence [] [] [] (by simp)))
  · intro harmless before after nodeStatusList _
    have inserted := considerNodes_insert
      (harmless.considerNode termWise selective unrelated) before after
    have sameNodes : scheduling.validNodes cluster (before ++ extra :: after) =
        scheduling.validNodes cluster (before ++ after) := by
      simp only [Scheduling.validNodes_eq, inserted]
    refine ⟨by rw [sameNodes], by rw [sameNodes], ?_⟩
    unfold Scheduling.validateDeviceClassSetup
    rw [Except.forM_eq_ok_iff, Except.forM_eq_ok_iff]
    refine forall₂_congr fun deviceClass member => ?_
    rw [checkDeviceClassNodes_insert (harmless.isNodeValid selective unrelated member)]

end

/-- Terms that never fail. -/
theorem Scheduling.Decides.termWise
    {scheduling : Scheduling}
    {matchTerm : Node → NodeSelectorTerm → Bool}
    (decides : scheduling.Decides matchTerm) :
    scheduling.TermWise fun node term => .ok (matchTerm node term) where
  matches_iff node selector := by simp [decides node selector]
  fails_iff node selector := by simp [decides node selector]

theorem selectiveCluster_unrelated (taints : List Taint) :
    ∀ deviceClass ∈ (selectiveCluster (zoneSelector "a")).spec.deviceClasses,
      ∀ selector, deviceClass.nodeSelector = some selector →
      Scheduling.byLabels.matchNodeSelectorTerms (zoneNode "other" "b" taints) selector ≠
        .ok true := by
  intro deviceClass member selector given
  obtain rfl := List.mem_singleton.mp member
  obtain rfl := Option.some.inj given
  change (Except.ok false : Except GoError Bool) ≠ .ok true
  simp

theorem hasNoInfluence_iff_dedicated :
    HasNoInfluence .byLabels (selectiveCluster (zoneSelector "a"))
      (zoneNode "other" "b" [{ key := "dedicated" }]) :=
  (hasNoInfluence_iff .byLabels _ (selectiveCluster (zoneSelector "a"))
    (zoneNode "other" "b" [{ key := "dedicated" }])
    (Scheduling.Decides.termWise fun _ _ => rfl) (by simp [selectiveCluster])
    (selectiveCluster_unrelated _)).mpr ⟨by decide, fun wrong => absurd wrong (by decide)⟩

/-- The not-ready taint of a node in another zone makes `ValidNodes` fail. -/
theorem notReady_has_influence :
    ¬∀ (scheduling : Scheduling)
      (matchTerm : Node → NodeSelectorTerm → Except GoError Bool)
      (cluster : LVMCluster) (extra : Node),
      scheduling.TermWise matchTerm →
      (∀ deviceClass ∈ cluster.spec.deviceClasses, deviceClass.nodeSelector.isSome) →
      (∀ deviceClass ∈ cluster.spec.deviceClasses, ∀ selector,
        deviceClass.nodeSelector = some selector →
        scheduling.matchNodeSelectorTerms extra selector ≠ .ok true) →
      HasNoInfluence scheduling cluster extra := by
  intro always
  have noInfluence := always .byLabels _ (selectiveCluster (zoneSelector "a"))
    (zoneNode "other" "b" [{ key := taintNodeNotReady }])
    (Scheduling.Decides.termWise fun _ _ => rfl) (by simp [selectiveCluster])
    (selectiveCluster_unrelated _)
  have noError := (noInfluence [] [] [] (by simp)).error_iff.mpr rfl
  exact absurd noError (by decide)

end Lvms
