import EcatMaster.Library.Window
import EcatMaster.Library.Runs
import EcatMaster.Library.Progress
import EcatMaster.Library.Families
import EcatMaster.Library.StopAndWait
import EcatMaster.Library.TokenEcho
import EcatMaster.Library.Registers
import EcatMaster.Library.SharedObjects
import EcatMaster.Library.Layout
import EcatMaster.Library.Packing
import EcatMaster.Library.BitFields
import EcatMaster.Library.Quantisation
import EcatMaster.Library.BinaryFloats
import EcatMaster.Io.LittleEndian
import EcatMaster.Io.Readers
import EcatMaster.Config.Parser
import EcatMaster.Config.Yaml
import EcatMaster.Config.Loading
import EcatMaster.Config.Meaning
import EcatMaster.Tasks.Message
import EcatMaster.Tasks.Handlers
import EcatMaster.Tasks.Task
import EcatMaster.Tasks.InitSdo
import EcatMaster.Tasks.Blocks
import EcatMaster.Tasks.Decoding
import EcatMaster.Tasks.Commands
import EcatMaster.Tasks.MotorSlots
import EcatMaster.Tasks.Report
import EcatMaster.Tasks.Publishers
import EcatMaster.Tasks.Isolation
import EcatMaster.Tasks.RemoteControl
import EcatMaster.Tasks.MitControl
import EcatMaster.Tasks.HalfFloats
import EcatMaster.Tasks.PwmSlots
import EcatMaster.Tasks.Serialisation
import EcatMaster.Slave.Buffer
import EcatMaster.Slave.Device
import EcatMaster.Slave.Init
import EcatMaster.Slave.Step
import EcatMaster.Slave.Equations
import EcatMaster.Slave.Erasure
import EcatMaster.Slave.Regions
import EcatMaster.Slave.StatusByte
import EcatMaster.Slave.ArgTransfer
import EcatMaster.Slave.Provenance
import EcatMaster.Slave.Mailbox
import EcatMaster.Slave.FirstConfiguration
import EcatMaster.Slave.Checker
import EcatMaster.Slave.Refusal
import EcatMaster.Slave.Resend
import EcatMaster.Slave.LostCommands
import EcatMaster.Slave.LostPolicy
import EcatMaster.Slave.Shutdown
import EcatMaster.Slave.Freshness
import EcatMaster.Slave.Stamps
import EcatMaster.Slave.Representation
import EcatMaster.Slave.TaskList
import EcatMaster.Slave.Commands
import EcatMaster.Slave.Cycles
import EcatMaster.Slave.Reset
import EcatMaster.Slave.Startup
import EcatMaster.Slave.Registers
import EcatMaster.Slave.Memory
import EcatMaster.Slave.Recovery
import EcatMaster.Slave.Devices
import EcatMaster.Slave.Identity
import EcatMaster.Node.Setup
import EcatMaster.Node.Threads
import EcatMaster.Node.Wire
import EcatMaster.Node.Shutdown
import EcatMaster.Node.Cleanup
import EcatMaster.Node.Supervision
import EcatMaster.Node.Recovery
import EcatMaster.Node.Termination
import EcatMaster.Node.Delivery
import EcatMaster.Node.Cycles
import EcatMaster.Node.Readiness
import EcatMaster.Node.Startup
