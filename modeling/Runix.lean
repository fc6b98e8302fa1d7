import Runix.Citadel.EvidenceText
import Runix.Citadel.BootLoad
import Runix.Arm.StoreInvariants
import Runix.Arm.Resets
import Runix.Arm.LiveReconcile
import Runix.Capability.FileServer
import Runix.Citadel.WormLog
import Runix.Arm.AuditRuns
import Runix.Arm.Observations
import Runix.Desktop.Denials
import Runix.Desktop.Connections
import Runix.Kernel.SessionHistory
import Runix.Kernel.Ports
import Runix.Kernel.SchedulerRuns
import Runix.NetDriver.RequestBuffers
import Runix.Kernel.SlotRelease
import Runix.Arm.EvaluationRuns
import Runix.Arm.AddressSpaceRuns
import Runix.Arm.NetDeviceAccess
import Runix.Kernel.InstancePages
import Runix.Mobile.PeriodFindings
import Runix.Mobile.RegistryRuns
import Runix.Mobile.Selection
import Runix.Arm.UsageAgreement
import Runix.Arm.DataHistories
import Runix.Arm.ReconcilePasses
import Runix.BlkDriver.Quarantine
import Runix.BlkDriver.FileContents
import Runix.BlkDriver.LongNames
import Runix.Kernel.LoadedMemory
