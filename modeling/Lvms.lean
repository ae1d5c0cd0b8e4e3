import Lvms.Interaction.Program
import Lvms.Interaction.Logic
import Lvms.Interaction.Parallel
import Lvms.Interaction.Protocol
import Lvms.Interaction.Concurrent
import Lvms.Interaction.Checks
import Lvms.Interaction.Keyed
import Lvms.Interaction.History
import Lvms.Interaction.Sweep
import Lvms.Interaction.Table
import Lvms.Api.Error
import Lvms.Api.Types
import Lvms.Api.Server
import Lvms.Host.Types
import Lvms.Host.Commands
import Lvms.World
import Lvms.Client
import Lvms.Effects
import Lvms.Api.Changes
import Lvms.Reading
import Lvms.Outcomes
import Lvms.Writing
import Lvms.Steady
import Lvms.VgManager.Lvmd
import Lvms.VgManager.Lvm
import Lvms.VgManager.Raid
import Lvms.VgManager.RaidHealth
import Lvms.VgManager.Devices
import Lvms.VgManager.Wipe
import Lvms.VgManager.Status
import Lvms.VgManager.Controller
import Lvms.VgManager.Footprint
import Lvms.VgManager.Deletion
import Lvms.VgManager.Release
import Lvms.VgManager.Filtering
import Lvms.VgManager.Merging
import Lvms.VgManager.Resolving
import Lvms.VgManager.Removal
import Lvms.VgManager.Wiping
import Lvms.VgManager.Resume
import Lvms.VgManager.LoopDevices
import Lvms.VgManager.StableStatus
import Lvms.VgManager.Evidence
import Lvms.VgManager.Steps
import Lvms.VgManager.Configuring
import Lvms.VgManager.ForceWipe
import Lvms.VgManager.Marking
import Lvms.VgManager.WipeFlag
import Lvms.VgManager.WipeOrder
import Lvms.VgManager.LvmdTable
import Lvms.VgManager.Warnings
import Lvms.VgManager.StatusTable
import Lvms.Operator.Webhook
import Lvms.Operator.Admission
import Lvms.Operator.MetadataSize
import Lvms.Operator.Paths
import Lvms.Operator.ClassOrder
import Lvms.Operator.RaidGeometry
import Lvms.Operator.RaidOptions
import Lvms.VgManager.RaidCounts
import Lvms.Operator.Selector
import Lvms.Operator.Status
import Lvms.Operator.Summary
import Lvms.Operator.NodeSelection
import Lvms.Operator.TaintOrder
import Lvms.Operator.Resources
import Lvms.Operator.DefaultClass
import Lvms.Operator.DaemonSet
import Lvms.Operator.Controller
import Lvms.Operator.Footprint
import Lvms.Operator.Steps
import Lvms.Operator.Rollout
import Lvms.Operator.ForeignMetadata
import Lvms.Operator.Readiness
import Lvms.Operator.Teardown
import Lvms.Operator.Orphans
import Lvms.Operator.VanishedNodes
import Lvms.Operator.Migration
import Lvms.NodeRemoval.Controller
import Lvms.NodeRemoval.Cleanup
import Lvms.VolumeClaims.Controller
import Lvms.VolumeClaims.Capacity
import Lvms.System
import Lvms.System.Settings
import Lvms.System.Defaults
import Lvms.System.PendingCleanup
import Lvms.System.NodeStatuses
import Lvms.System.Teardown
import Lvms.System.Removed
import Lvms.System.Gates
import Lvms.System.RetainedData
import Lvms.System.Volumes
import Lvms.System.WipeMarker
import Lvms.System.Controllers
import Lvms.System.Finalizers
import Lvms.Operator.Watches
import Lvms.Reporting
import Lvms.System.Readiness
