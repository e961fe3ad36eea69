import BlackMagic.Proofs.PacketRoundTrip
import BlackMagic.Proofs.MemApTransfer
import BlackMagic.Proofs.FlashRuns
import BlackMagic.Proofs.SysbusFaithful
import BlackMagic.Proofs.BreakpointRuns
import BlackMagic.Proofs.ServerAgreement
import BlackMagic.Proofs.ServerReplies
import BlackMagic.Proofs.RegisterViews
import BlackMagic.Proofs.JtagAccess
import BlackMagic.Proofs.RttDelivery
import BlackMagic.Proofs.HostioReplies
import BlackMagic.Proofs.ExceptionFrames
import BlackMagic.Proofs.PortRuns
import BlackMagic.Proofs.FlashResults
import BlackMagic.Proofs.FlashErase
import BlackMagic.Proofs.FlashPadding
import BlackMagic.Proofs.PacketGrammar
import BlackMagic.Proofs.OutputStream
import BlackMagic.Proofs.JtagBounds
import BlackMagic.Proofs.XferReplies
import BlackMagic.Proofs.MemMapBounds
import BlackMagic.Proofs.RegisterReplies
import BlackMagic.Proofs.CmdlineDecoding
import BlackMagic.Proofs.MemoryWrites
import BlackMagic.Proofs.JtagVariants
import BlackMagic.Proofs.Crc32Values
import BlackMagic.Proofs.RttHash
import BlackMagic.Proofs.ScanBounds
import BlackMagic.Proofs.RttIdent
import BlackMagic.Proofs.RttChannels
import BlackMagic.Proofs.RttDownDelivery
import BlackMagic.Proofs.SwoDecoding
import BlackMagic.Proofs.BreakwatchEncodings
import BlackMagic.Proofs.RiscvDiscovery
import BlackMagic.Proofs.RomTableWalk
import BlackMagic.Proofs.SwdAccessEnds
import BlackMagic.Proofs.Esp32c3Watchdogs
import BlackMagic.Proofs.Stm32DebugRestored
import BlackMagic.Proofs.DmiWrites
import BlackMagic.Proofs.RiscvMemoryExact
import BlackMagic.Proofs.CacheCoverage
import BlackMagic.Proofs.Esp32c3CacheRange
import BlackMagic.Proofs.SemihostingWrites
import BlackMagic.Proofs.SpiFlashProbe
import BlackMagic.Proofs.ArgumentBounds
import BlackMagic.Proofs.RemoteWrites
import BlackMagic.Proofs.KinetisSecurity
import BlackMagic.Proofs.SpiTransactions
import BlackMagic.Proofs.StubResults
import BlackMagic.Proofs.RenesasErrors
import BlackMagic.Proofs.Ch32f1Errors
import BlackMagic.Proofs.Stm32lxMassErase
import BlackMagic.Proofs.Stm32f1Banks
import BlackMagic.Proofs.SectorSelection
import BlackMagic.Proofs.RangeErases
import BlackMagic.Proofs.LpcReserved
import BlackMagic.Proofs.IapFrame
import BlackMagic.Proofs.HexCodecs
import BlackMagic.Proofs.UserPage
import BlackMagic.Proofs.OptionUpdates
import BlackMagic.Imxrt
import BlackMagic.Proofs.SequenceCache
import BlackMagic.Nrf51
import BlackMagic.Proofs.NvmcConfig
import BlackMagic.Proofs.NvmcRuns
import BlackMagic.FlashModes
import BlackMagic.Proofs.FlashModeCalls
import BlackMagic.Proofs.SavedRegisters
import BlackMagic.RemotePacket
import BlackMagic.Proofs.RemoteAccesses
import BlackMagic.Proofs.RemoteScans
import BlackMagic.Proofs.RemotePorts
import BlackMagic.Proofs.RemoteBounds
import BlackMagic.Proofs.SwdWireSessions
import BlackMagic.Proofs.CortexASessions
import BlackMagic.Proofs.JtagMemoryTransfers
import BlackMagic.Proofs.Stm32FlashCrc
import BlackMagic.Proofs.Stm32FlashLaunch
