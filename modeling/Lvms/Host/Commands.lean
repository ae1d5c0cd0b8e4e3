import Lvms.Host.Types
import Lvms.Api.Server

/-!
# The commands of the host

A host has block devices, symbolic links, the objects of LVM and the
configuration file of lvmd. Commands read or change it. A failing command
changes nothing, with one exception: `pvremove` handles its devices one after
the other, so that it can fail with some of the labels already removed.
-/

namespace Lvms

/-- The state of a host. -/
structure Host where
  blockDevices : List BlockDevice := []
  /-- The back files of loop devices. -/
  backFiles : String → List String := fun _ => []
  /-- Where a path leads; `none` when it cannot be resolved. -/
  symlinks : String → Option String := fun _ => none
  volumeGroups : List VGRow := []
  /-- The devices that carry the label of a physical volume. -/
  physicalVolumes : List PhysicalVolume := []
  logicalVolumes : List LogicalVolume := []
  /-- The file of lvmd; `none` when there is none. -/
  lvmdFile : Option Lvmd.FileContent := none

/-- The commands that only report. -/
inductive Query
  | lsblk
  | losetup (device : String)
  | vgs (tagged : Bool)
  | pvs (vgName : String)
  | lvs (vgName : String)
  | evalSymlinks (path : String)
  /-- Open the file of lvmd; the answer says whether it exists. -/
  | openFile
  | readFile
  deriving DecidableEq, Repr

/-- The answers to the queries. -/
@[reducible] def Query.Answer : Query → Type
  | .lsblk => List BlockDevice
  | .losetup _ => List String
  | .vgs _ => List (List VGRow)
  | .pvs _ => List (List PhysicalVolume)
  | .lvs _ => List (List LogicalVolume)
  | .evalSymlinks _ => String
  | .openFile => Bool
  | .readFile => Lvmd.FileContent

/-- The commands that change the host. -/
inductive Command
  | vgcreate (name : String) (yes : Bool) (devices : List String)
  | vgextend (name : String) (devices : List String)
  | vgreduce (name device : String)
  | vgchangeDeactivate (name : String)
  | vgremove (name : String)
  | pvremove (devices : List String)
  | lvmdevicesDelpvid (uuid : String)
  | lvcreate (vgName lvName : String)
      (sizePercent chunkSizeBytes metadataSizeBytes : Int)
  | lvextend (vgName lvName : String) (sizePercent : Int)
  | lvextendMetadata (vgName lvName : String) (metadataSizeBytes : Int)
  | lvchangeActivate (vgName lvName : String)
  | lvchangeDeactivate (vgName lvName : String)
  | lvremove (vgName lvName : String)
  | wipefs (device : String)
  | dmsetupRemove (device : String)
  | writeFile (config : Lvmd.Config)
  | removeFile
  deriving DecidableEq, Repr

namespace Host

/-- What a query reports. -/
def report (host : Host) : (query : Query) → Except GoError query.Answer
  | .lsblk => .ok host.blockDevices
  | .losetup device => .ok (host.backFiles device)
  | .vgs tagged => .ok [host.volumeGroups.filter fun row =>
      !tagged || row.tags.contains defaultTag]
  | .pvs vgName => .ok [host.physicalVolumes.filter fun pv =>
      vgName == "" || pv.vgName == vgName]
  | .lvs vgName => .ok [host.logicalVolumes.filter (·.vgName == vgName)]
  | .evalSymlinks path =>
      match host.symlinks path with
      | some target => .ok target
      | none => .error (.new ("lstat " ++ path ++ ": no such file or directory"))
  | .openFile => .ok host.lvmdFile.isSome
  | .readFile =>
      match host.lvmdFile with
      | some content => .ok content
      | none => .error (.new "file already closed")

/-- The names of the physical volumes of a volume group. -/
def members (host : Host) (vgName : String) : List String :=
  (host.physicalVolumes.filter (·.vgName == vgName)).map (·.pvName)

/-- Label devices as physical volumes of a volume group. -/
def label (host : Host) (vgName fresh : String) (devices : List String) :
    List PhysicalVolume :=
  host.physicalVolumes.filter (fun pv => !devices.contains pv.pvName) ++
    devices.map fun device =>
      { pvName := device, uuid := fresh ++ device, vgName }

/-- The physical volumes after some of them have left their volume group. -/
def release (host : Host) (leaves : PhysicalVolume → Bool) :
    List PhysicalVolume :=
  host.physicalVolumes.map fun pv =>
    if leaves pv then { pv with vgName := "" } else pv

/-- The physical volumes without those on some devices. -/
def unlabel (host : Host) (devices : List String) : List PhysicalVolume :=
  host.physicalVolumes.filter fun pv => !devices.contains pv.pvName

/-- The logical volumes after a change of one of them. -/
def alterLV
    (host : Host)
    (vgName lvName : String)
    (change : LogicalVolume → LogicalVolume) : List LogicalVolume :=
  host.logicalVolumes.map fun lv =>
    if lv.vgName == vgName && lv.name == lvName then change lv else lv

/-- The effect of a command that the host does not fail for a reason of its own. A wipe
takes the label of a device, and what becomes of the volumes on it is not modelled;
`vgremove` takes the volumes that are left along. -/
def apply (choice : Choice) (host : Host) : Command → Except GoError Unit × Host
  | .vgcreate name _ devices =>
      if host.volumeGroups.any (·.name == name) then
        (.error (.exit 5 ("A volume group called " ++ name ++ " already exists.")),
          host)
      else (.ok (), { host with
        volumeGroups := host.volumeGroups ++
          [{ name, vgSize := choice.fresh, tags := [defaultTag] }]
        physicalVolumes := host.label name choice.fresh devices })
  | .vgextend name devices =>
      (.ok (), { host with
        physicalVolumes := host.label name choice.fresh devices })
  | .vgreduce name device =>
      (.ok (), { host with
        physicalVolumes := host.release fun pv =>
          pv.vgName == name && pv.pvName == device })
  | .vgchangeDeactivate _ => (.ok (), host)
  | .vgremove name =>
      (.ok (), { host with
        volumeGroups := host.volumeGroups.filter (·.name != name)
        physicalVolumes := host.release (·.vgName == name)
        logicalVolumes := host.logicalVolumes.filter (·.vgName != name) })
  | .pvremove devices =>
      (.ok (), { host with physicalVolumes := host.unlabel devices })
  | .lvmdevicesDelpvid _ => (.ok (), host)
  | .lvcreate vgName lvName _ _ _ =>
      (.ok (), { host with
        logicalVolumes := host.logicalVolumes ++ [{
          name := lvName
          vgName
          lvAttr := (choice.columns.get? "lv_attr").getD ""
          lvSize := (choice.columns.get? "lv_size").getD ""
          metadataPercent := (choice.columns.get? "metadata_percent").getD ""
          chunkSize := (choice.columns.get? "chunk_size").getD ""
          metadataSize := (choice.columns.get? "lv_metadata_size").getD "" }] })
  | .lvextend vgName lvName _ =>
      (.ok (), { host with
        logicalVolumes := host.alterLV vgName lvName fun lv =>
          { lv with lvSize := (choice.columns.get? "lv_size").getD lv.lvSize } })
  | .lvextendMetadata vgName lvName _ =>
      (.ok (), { host with
        logicalVolumes := host.alterLV vgName lvName fun lv => { lv with
          metadataSize :=
            (choice.columns.get? "lv_metadata_size").getD lv.metadataSize } })
  | .lvchangeActivate vgName lvName | .lvchangeDeactivate vgName lvName =>
      (.ok (), { host with
        logicalVolumes := host.alterLV vgName lvName fun lv =>
          { lv with lvAttr := (choice.columns.get? "lv_attr").getD lv.lvAttr } })
  | .lvremove vgName lvName =>
      (.ok (), { host with
        logicalVolumes := host.logicalVolumes.filter fun lv =>
          !(lv.vgName == vgName && lv.name == lvName) })
  | .wipefs device =>
      (.ok (), { host with physicalVolumes := host.unlabel [device] })
  | .dmsetupRemove _ => (.ok (), host)
  | .writeFile config => (.ok (), { host with lvmdFile := some (.config config) })
  | .removeFile =>
      match host.lvmdFile with
      | some _ => (.ok (), { host with lvmdFile := none })
      | none => (.error (.new "remove: no such file or directory"), host)

/-- What a failing command leaves behind. -/
def afterFailure (choice : Choice) (host : Host) : Command → Host
  | .pvremove devices =>
      { host with
        physicalVolumes := host.unlabel (devices.filter choice.cleared.contains) }
  | _ => host

/-- Run a command under a choice. -/
def execute (choice : Choice) (host : Host) (command : Command) :
    Except GoError Unit × Host :=
  match choice.failure with
  | some text =>
      (.error (.exit choice.exitCode text), host.afterFailure choice command)
  | none => host.apply choice command

/-- Answer a query under a choice. -/
def answer (choice : Choice) (host : Host) (query : Query) :
    Except GoError query.Answer :=
  match choice.failure with
  | some text => .error (.exit choice.exitCode text)
  | none => host.report query

end Host
end Lvms
