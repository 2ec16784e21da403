import IspDriver.CommandLine.Folder
import IspDriver.Main
import IspDriver.Simulation.Transcript
import IspDriver.Proofs.Bytes
import IspDriver.Proofs.Routine
import IspDriver.Proofs.Register.FlatMemory
import IspDriver.Proofs.Register.Session
import IspDriver.Proofs.Firmware.Download
import IspDriver.Proofs.Register.Traffic
import IspDriver.Proofs.Device.Traffic
import IspDriver.Proofs.Device.Action
import IspDriver.Proofs.Power.Rails
import IspDriver.Proofs.Power.Units
import IspDriver.Proofs.Power.Balance
import IspDriver.Proofs.Simulation.Frame
import IspDriver.Proofs.Device.Boot
import IspDriver.Proofs.Device.Stream
import IspDriver.Proofs.Control
import IspDriver.Proofs.Register.Script
import IspDriver.Proofs.Device.Settings
import IspDriver.Proofs.Device.Start
import IspDriver.Proofs.Device.LiveControls
import IspDriver.Proofs.Device.SensorAccess
import IspDriver.Proofs.Power.Cycles
import IspDriver.Proofs.Device.Attempt
import IspDriver.Proofs.Device.Attach
import IspDriver.Proofs.Format.Grid
import IspDriver.Proofs.Trace
import IspDriver.Proofs.Power.Prepare
import IspDriver.Proofs.Power.Requests
import IspDriver.Proofs.Power.EnableLine
import IspDriver.Proofs.Power.Order
import IspDriver.Proofs.Power.Transaction
import IspDriver.Proofs.Power.AllOrNothing
import IspDriver.Proofs.Device.PageCache
import IspDriver.Proofs.Sequence
import IspDriver.Proofs.Firmware.Window
import IspDriver.Proofs.I2c
import IspDriver.Proofs.Device.Retry
import IspDriver.Proofs.Firmware.Handshake
import IspDriver.Proofs.Power.Schedule
import IspDriver.Proofs.Simulation.Effect
import IspDriver.Proofs.Device.Pending
import IspDriver.Proofs.Firmware.Image
import IspDriver.Proofs.Firmware.Crc
import IspDriver.Proofs.Firmware.Corruption
import IspDriver.Proofs.Sensor.Engine
import IspDriver.Proofs.Device.SensorRead
import IspDriver.Proofs.Control.Rounding
import IspDriver.Proofs.Format.BestSize
import IspDriver.Proofs.Power.Failure
import IspDriver.Proofs.Register.Access
import IspDriver.Proofs.Diagnostics.Lanes
import IspDriver.Proofs.Sensor.ProbeAddress
import IspDriver.Proofs.Device.Probe
import IspDriver.Proofs.Register.Selections
import IspDriver.Proofs.Simulation.Window
import IspDriver.Proofs.Diagnostics.Frame
import IspDriver.Proofs.Simulation.Overwrite
import IspDriver.Proofs.Device.FailedStart
import IspDriver.Proofs.Board.Ports
import IspDriver.Proofs.Power.Flag
import IspDriver.Proofs.Simulation.Bounds
import IspDriver.Proofs.Simulation.Routing
import IspDriver.Proofs.CommandLine.Number
import IspDriver.Proofs.CommandLine.ControlSetting
import IspDriver.Proofs.Diagnostics.Console
