import Bmc.Lib.Loop
import Bmc.Lib.Memory
import Bmc.Lib.Device
import Bmc.Lib.Packer
import Bmc.Lib.Base64
import Bmc.Lib.Bits
import Bmc.Lib.Hex
import Bmc.Lib.Chunks
import Bmc.Lib.Endian
import Bmc.Lib.Run
import Bmc.Lib.Recent
import Bmc.Lib.Records
import Bmc.Asd.Common
import Bmc.Asd.Read
import Bmc.Asd.Reassembly
import Bmc.Asd.JtagHandler
import Bmc.Asd.TargetHandler
import Bmc.Asd.Ixc
import Bmc.Asd.BusFiles
import Bmc.Asd.Msg
import Bmc.Asd.BusSelect
import Bmc.Asd.I2cMessage
import Bmc.Asd.I2cRounds
import Bmc.Asd.I2cResponse
import Bmc.Asd.JtagMessage
import Bmc.Asd.JtagSafety
import Bmc.Asd.JtagResponse
import Bmc.Asd.JtagPadding
import Bmc.Asd.JtagStays
import Bmc.Asd.ShiftPaths
import Bmc.Asd.Tap
import Bmc.Asd.SwXfer
import Bmc.Asd.AuthPam
import Bmc.Asd.Session
import Bmc.Asd.MainLoop
import Bmc.Usb.Device
import Bmc.Usb.Descriptors
import Bmc.Usb.EpSelect
import Bmc.Usb.DescBuild
import Bmc.Usb.DescLookup
import Bmc.Usb.DescLayout
import Bmc.Usb.DescRoundTrip
import Bmc.Usb.DescCalls
import Bmc.Usb.CfgRounds
import Bmc.Usb.CfgEnabled
import Bmc.Usb.Config
import Bmc.Usb.Setup
import Bmc.Usb.Transmit
import Bmc.Usb.Control
import Bmc.Usb.TransmitRun
import Bmc.Usb.TransmitWait
import Bmc.Usb.Ep0Ops
import Bmc.Usb.Ep0Quiet
import Bmc.Usb.Ep0Bounds
import Bmc.Usb.Ep0Reply
import Bmc.Usb.Bot
import Bmc.Usb.BotBounds
import Bmc.Usb.BotStatus
import Bmc.Usb.BotWrapper
import Bmc.Usb.IusbTable
import Bmc.Usb.IusbOwners
import Bmc.Acd.Peci
import Bmc.Acd.CmdProcessor
import Bmc.Acd.Flow
import Bmc.Acd.Reads
import Bmc.Acd.StaleData
import Bmc.Acd.Params
import Bmc.Acd.Variables
import Bmc.Acd.BigCore
import Bmc.Acd.BigCoreReads
import Bmc.Acd.BigCoreLines
import Bmc.Acd.BigCoreHonest
import Bmc.Acd.Crashlog
import Bmc.Acd.Logger
import Bmc.Bafi.Text
import Bmc.Bafi.Tor
import Bmc.Bafi.TorLayouts
import Bmc.Bafi.TorReport
import Bmc.Bafi.MemoryMap
import Bmc.Bafi.ErrorTables
import Bmc.Bafi.ErrorSummary
import Bmc.Bafi.Tsc
import Bmc.Bafi.TscFirst
import Bmc.Lib.Table
import Bmc.Lib.TextSearch
import Bmc.Bafi.RetryLog
import Bmc.Bafi.RetryRegisters
import Bmc.Bafi.RetryDecoded
import Bmc.Bafi.RetryErrors
import Bmc.Bafi.TorMarks
import Bmc.Nvdimm.FisSeen
import Bmc.Vnc.HidReport
import Bmc.Vnc.Master
import Bmc.Vnc.Rects
import Bmc.Helper.DriverHal
import Bmc.Helper.DriverHalSound
import Bmc.Helper.Fmh
import Bmc.Helper.FmhScan
import Bmc.Gpio.Registrations
import Bmc.Gpio.ProcessNodes
import Bmc.Gpio.Book
import Bmc.Gpio.Lists
import Bmc.Gpio.NodeCalls
import Bmc.Gpio.Processes
import Bmc.Gpio.Counts
import Bmc.Gpio.Triggers
import Bmc.Gpio.Pending
import Bmc.Gpio.WakeUps
import Bmc.Lib.LinkedQueue
import Bmc.Gpio.IntrQueues
import Bmc.Gpio.Delivery
import Bmc.Lib.Code
import Bmc.Nvdimm.I3c
import Bmc.Nvdimm.I3cWaits
import Bmc.Nvdimm.I3cData
import Bmc.Nvdimm.I3cOutcome
import Bmc.Nvdimm.I3cHonest
import Bmc.Nvdimm.Dimm
import Bmc.Asd.LookAhead
import Bmc.Asd.ResetWaits
import Bmc.Netmon.LinksTruthful
import Bmc.Netmon.ListenersFaithful
import Bmc.Netmon.Listeners
import Bmc.Netmon.Links
import Bmc.Boot.Kcs
import Bmc.Boot.KcsChannel
import Bmc.Boot.SecureBoot
import Bmc.Boot.KeyBlock
import Bmc.Boot.Coverage
import Bmc.Boot.HashStream
import Bmc.Boot.AutoRecovery
import Bmc.Boot.Yafu
import Bmc.Boot.Ipmi
import Bmc.Boot.FwUpdate
import Bmc.Boot.YafuResponse
import Bmc.Boot.IpmiBounds
import Bmc.Acd.GlobalVars
import Bmc.Acd.Restore
import Bmc.Acd.HexStrings
import Bmc.Acd.VersionMaps
import Bmc.Acd.Discovery
import Bmc.Vnc.LetterCase
import Bmc.Lib.Lines
import Bmc.Vnc.HidResource
import Bmc.Vnc.HidRegistry
import Bmc.Usb.Ethernet
import Bmc.Nvdimm.Update
import Bmc.Lib.ByteBits
import Bmc.Lib.ByteBuffer
import Bmc.Encoding.Base64
import Bmc.Encoding.Base32
import Bmc.Lib.WordBits
import Bmc.Acd.Fields
import Bmc.Vnc.BitReader
import Bmc.Asd.HexDump
import Bmc.Asd.PinBalance
import Bmc.Nvdimm.I3cRestore
import Bmc.Nvdimm.Discovery
import Bmc.Helper.DriverHalFail
import Bmc.Helper.FmhCreate
import Bmc.Boot.RecoveryFlash
import Bmc.Boot.BootImage
import Bmc.Boot.HrotFinish
import Bmc.Helper.FwInfo
import Bmc.Lib.CompareText
import Bmc.Vnc.Tiles
import Bmc.Vnc.Rc4
import Bmc.Asd.BusLocks
import Bmc.Asd.Connection
import Bmc.Helper.Checksum
