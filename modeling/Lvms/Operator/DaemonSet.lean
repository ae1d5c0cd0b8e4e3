import Lvms.Operator.Resources

/-!
# The vg-manager daemon set

The operator runs one vg-manager on every selected node. Its daemon set is created
from a template; of an existing one only the mutable fields are updated.
-/

namespace Lvms

open Interaction

/-- `VGManagerUnit`. -/
def vgManagerUnit : String := "vg-manager"

/-- The labels of the daemon set and of its pods. -/
def vgManagerLabels : StringMap :=
  [("app.kubernetes.io/name", "vg-manager"),
    ("app.kubernetes.io/managed-by", "lvms-operator"),
    ("app.kubernetes.io/part-of", "lvms-provisioner"),
    ("app.kubernetes.io/component", "vg-manager")]

/-- The volumes of the pods. -/
def vgManagerVolumes (clusterType : ClusterType) : List Volume :=
  [{ name := "registration-dir", hostPath := "/var/lib/kubelet/plugins_registry/" },
    { name := "node-plugin-dir",
      hostPath := "/var/lib/kubelet/plugins/topolvm.io/node" },
    { name := "file-lock-dir", hostPath := "/var/lock" },
    { name := "csi-plugin-dir",
      hostPath := "/var/lib/kubelet/plugins/kubernetes.io/csi" },
    { name := "pod-volumes-dir", hostPath := "/var/lib/kubelet/pods/" },
    { name := "lvmd-config",
      hostPath :=
        if clusterType = .microShift then "/var/lib/microshift/lvms"
        else "/etc/topolvm" },
    { name := "device-dir", hostPath := "/dev" },
    { name := "run-udev", hostPath := "/run/udev" },
    { name := "sys", hostPath := "/sys" },
    { name := "metrics-cert" }]

/-- `templateVGManagerDaemonset`. -/
def Operator.templateVGManagerDaemonset (r : Operator) (lvmCluster : LVMCluster) :
    DaemonSet :=
  let (nodeSelector, tolerations) := extractNodeSelectorAndTolerations lvmCluster
  let command :=
    if r.vgManagerCommand.isEmpty then ["/lvms", "vgmanager"]
    else r.vgManagerCommand
  { metadata := {
      name := vgManagerUnit
      inNamespace := r.ns
      labels := vgManagerLabels }
    matchLabels := vgManagerLabels
    templateLabels := vgManagerLabels
    templateAnnotations := [("target.workload.openshift.io/management",
      "\x7b\"effect\": \"PreferredDuringScheduling\"\x7d")]
    containers := [{
      name := vgManagerUnit
      image := r.imageName
      command := command ++ r.vgManagerArgs }]
    volumes := vgManagerVolumes r.clusterType
    serviceAccountName := "vg-manager"
    priorityClassName := "openshift-user-critical"
    tolerations
    affinity := nodeSelector }

/-- `initMapIfNil`; it also empties a map with one entry. -/
def initMapIfNil (entries : StringMap) : StringMap :=
  if 1 < entries.length then entries else []

/-- Copy the entries of a map into another one. -/
def copyInto (entries additions : StringMap) : StringMap :=
  additions.foldl (fun entries entry => entries.set entry.1 entry.2) entries

/-- The error of a daemon set that another object controls. -/
def daemonSetReferenceError (name : String) (err : GoError) : GoError :=
  .new ("failed to set controller reference on vgManager daemonset " ++ quoted name ++
    ". " ++ err.error)

/-- The change that `vgManager.EnsureCreated` makes to the daemon set. A new one is
the template; the affinity of an existing one stays when the template has none. -/
def updateDaemonSet
    (lvmCluster : LVMCluster)
    (dsTemplate ds : DaemonSet) : Except GoError DaemonSet := do
  -- `ds.CreationTimestamp.IsZero()`: the API server has not stored the object.
  if ds.metadata.resourceVersion = 0 then
    return dsTemplate
  let metadata ← Except.mapError (daemonSetReferenceError dsTemplate.metadata.name)
    (ds.metadata.setControllerReference lvmCluster.metadata)
  return { ds with
    metadata := { metadata with
      labels := copyInto (initMapIfNil metadata.labels) dsTemplate.metadata.labels
      annotations := copyInto (initMapIfNil metadata.annotations)
        dsTemplate.metadata.annotations }
    templateLabels :=
      copyInto (initMapIfNil ds.templateLabels) dsTemplate.metadata.labels
    templateAnnotations :=
      copyInto (initMapIfNil ds.templateAnnotations) dsTemplate.templateAnnotations
    containers := dsTemplate.containers
    volumes := dsTemplate.volumes
    serviceAccountName := dsTemplate.serviceAccountName
    priorityClassName := dsTemplate.priorityClassName
    tolerations := dsTemplate.tolerations
    affinity := dsTemplate.affinity <|> ds.affinity }

/-- `intstr.GetScaledValueFromIntOrPercent`, rounded up. -/
def scaledValue (value : IntOrPercent) (total : Int) : Option Int :=
  match value with
  | .int value => some value
  | .percent value => some (-((-(value * total)) / 100))
  | .invalid => none

/-- `VerifyDaemonSetReadiness`. -/
def verifyDaemonSetReadiness (ds : DaemonSet) : Except GoError Unit :=
  match ds.updateStrategy with
  | .onDelete => .ok ()
  | .rollingUpdate limit => do
      let key := ds.metadata.inNamespace ++ "/" ++ ds.metadata.name
      failIf (ds.updatedNumberScheduled != ds.desiredNumberScheduled)
        (.new ("the DaemonSet is not ready: " ++ key ++ ". " ++
          toString ds.updatedNumberScheduled ++ " out of " ++
          toString ds.desiredNumberScheduled ++ " expected pods have been scheduled"))
      let maxUnavailable := (scaledValue limit ds.desiredNumberScheduled).getD
        ds.desiredNumberScheduled
      let expectedReady := ds.desiredNumberScheduled - maxUnavailable
      failIf (ds.numberReady < expectedReady)
        (.new ("the DaemonSet is not ready: " ++ key ++ ". " ++
          toString ds.numberReady ++ " out of " ++ toString expectedReady ++
          " expected pods are ready"))

/-- The pods with some labels, as `client.MatchingLabels` selects them. -/
def podsWithLabels (labels : StringMap) (pods : List Pod) : List Pod :=
  pods.filter fun pod =>
    labels.all fun entry => pod.metadata.labels.get? entry.1 == some entry.2

/-- The first part of `vgManager.EnsureDeleted`. -/
def deleteDaemonSet (name : String) : Go Unit := do
  match ← (Client.delete .daemonSet name).attempt with
  | .ok () => return
  | .error err =>
      if !err.isNotFound then
        throw (GoError.wrapped ("failed to delete " ++ vgManagerUnit ++
          " daemonset " ++ quoted name) err)

/-- The second part of `vgManager.EnsureDeleted`: the daemon set is not found any
more. -/
def verifyDaemonSetDeleted (name : String) : Go Unit := do
  match ← (Client.get .daemonSet name).attempt with
  | .ok _ => throw (.new (vgManagerUnit ++ " daemonset " ++ quoted name ++
      " still has to be removed"))
  | .error err =>
      if !err.isNotFound then
        throw (GoError.wrapped ("failed to verify deletion of " ++ vgManagerUnit ++
          " daemonset " ++ quoted name) err)

/-- `resource.VGManager`. -/
def Operator.vgManager (r : Operator) : Manager where
  getName := vgManagerUnit
  ensureCreated lvmCluster := do
    let template := r.templateVGManagerDaemonset lvmCluster
    let metadata ← Fallible.mapError (daemonSetReferenceError template.metadata.name)
      (.ofProgram (pure (template.metadata.setControllerReference
        lvmCluster.metadata)))
    let dsTemplate := { template with metadata }
    let (_, ds) ← Fallible.mapError (failedToReconcile vgManagerUnit)
      (Client.createOrUpdateObject .daemonSet
        { metadata := { name := vgManagerUnit, inNamespace := r.ns } }
        (updateDaemonSet lvmCluster dsTemplate))
    Fallible.mapError (GoError.wrapped "DaemonSet is not considered ready")
      (.ofProgram (pure (verifyDaemonSetReadiness ds)))
  ensureDeleted lvmCluster := do
    let ds := r.templateVGManagerDaemonset lvmCluster
    deleteDaemonSet ds.metadata.name
    verifyDaemonSetDeleted ds.metadata.name
    -- Pods are deleted in the background, so they are waited for as well.
    let pods ← Fallible.mapError
      (GoError.wrapped ("failed to list pods for DaemonSet " ++
        quoted ds.metadata.name))
      (Client.list .pod)
    let running := podsWithLabels ds.matchLabels pods
    if !running.isEmpty then
      throw (.new ("DaemonSet " ++ quoted ds.metadata.name ++ " still has " ++
        toString running.length ++ " pods running"))

end Lvms
