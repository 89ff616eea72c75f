import QuickAssist.PfVf.Mailbox
import QuickAssist.Transport.Poll
import QuickAssist.SymSession.Progress
import QuickAssist.Cfg.StoreRefines
import QuickAssist.Uio.Reservation
import QuickAssist.Key.Prefixes
import QuickAssist.Usdm.Satisfiable
import QuickAssist.Usdm.SlabRuns
import QuickAssist.Usdm.Ledger
import QuickAssist.UsdmDrv.HugePages
import QuickAssist.UsdmDrv.Exposure
import QuickAssist.Reset.Protocol
import QuickAssist.Asym.Carried
import QuickAssist.UserRing.Coalescing
import QuickAssist.UserRing.FailedPut
import QuickAssist.UserTransport.Handles
import QuickAssist.UserTransport.Unmap
import QuickAssist.Sym.Partial
import QuickAssist.SymSession.Pending
import QuickAssist.MemPool.StackRuns
import QuickAssist.MemPool.FailedCreate
import QuickAssist.Sym.FailedVerify
import QuickAssist.BufferDesc.Descriptors
import QuickAssist.Cfg.Columns
import QuickAssist.Cfg.CoreAffinity
import QuickAssist.PfVf.CompatCheckers
import QuickAssist.PfVf.Matching
import QuickAssist.Dc.ResetFresh
import QuickAssist.Sym.Arc4
import QuickAssist.Sym.Cmac
import QuickAssist.SymSession.Precomputes
import QuickAssist.UserRing.Batch
import QuickAssist.Firmware.BatchInit
import QuickAssist.Firmware.Exec
import QuickAssist.Key.OutputLength
import QuickAssist.Uio.References
import QuickAssist.Uio.Drain
import QuickAssist.KernelCrypto.Instances
import QuickAssist.Transport.Rings
import QuickAssist.KernelCrypto.Registration
import QuickAssist.Transport.EtrData
import QuickAssist.Admin.Heartbeat
import QuickAssist.Cfg.ArbiterTables
import QuickAssist.Firmware.Load
import QuickAssist.Firmware.Suof
