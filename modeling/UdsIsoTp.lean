import UdsIsoTp.Lib.Run
import UdsIsoTp.IsoTp.Reassembly
import UdsIsoTp.IsoTp.Tx
import UdsIsoTp.IsoTp.TxSafety
import UdsIsoTp.IsoTp.Link
import UdsIsoTp.IsoTp.Transfer
import UdsIsoTp.IsoTp.FirstFrame
import UdsIsoTp.IsoTp.Outgoing
import UdsIsoTp.IsoTp.Intruders
import UdsIsoTp.IsoTp.FreshStart
import UdsIsoTp.Uds.Types
import UdsIsoTp.Uds.Privilege
import UdsIsoTp.Uds.BruteForce
import UdsIsoTp.Uds.Suppression
import UdsIsoTp.Uds.MemoryAccess
import UdsIsoTp.Uds.MemoryGrammar
import UdsIsoTp.Uds.LockoutSpan
import UdsIsoTp.Uds.GateState
import UdsIsoTp.Uds.Refusals
import UdsIsoTp.Endpoint.Stranded
import UdsIsoTp.Endpoint.Functional
import UdsIsoTp.Endpoint.ResetOrder
import UdsIsoTp.Endpoint.Order
import UdsIsoTp.Endpoint.Leftovers
import UdsIsoTp.Endpoint.Exchange
import UdsIsoTp.App.RefusedSend
import UdsIsoTp.App.StaleSlots
import UdsIsoTp.App.DidApp
import UdsIsoTp.Lib.SectorRing
import UdsIsoTp.Flash.Lockout
import UdsIsoTp.Flash.FloorClosed
import UdsIsoTp.Flash.Addressed
import UdsIsoTp.Flash.Newest
import UdsIsoTp.Flash.Geometry
import UdsIsoTp.Flash.WriteDiscipline
import UdsIsoTp.Flash.RangeErase
import UdsIsoTp.Flash.WriteSequence
import UdsIsoTp.Flash.Committed
import UdsIsoTp.Flash.SlotCrc
import UdsIsoTp.App.DtcPersistence
import UdsIsoTp.Lib.Checked
import UdsIsoTp.Lib.Sha2
import UdsIsoTp.App.DtcDebounce
import UdsIsoTp.App.RoeApp
import UdsIsoTp.App.AtomicRequests
import UdsIsoTp.App.DtcComplete
import UdsIsoTp.Boot.Sha256Fips
import UdsIsoTp.Boot.HeaderCrc
import UdsIsoTp.Crypto.CmacMemory
import UdsIsoTp.Boot.Confinement
import UdsIsoTp.Boot.BlockCounters
import UdsIsoTp.Boot.Candidate
import UdsIsoTp.Boot.Trial
import UdsIsoTp.Boot.AntiRollback
import UdsIsoTp.App.AuthApp
import UdsIsoTp.App.ResetApp
import UdsIsoTp.App.Unlock
import UdsIsoTp.Flash.Wear
import UdsIsoTp.Flash.Neighbours
import UdsIsoTp.IsoTp.LossyLink
import UdsIsoTp.IsoTp.Timeouts
import UdsIsoTp.Boot.Update
import UdsIsoTp.Boot.ActiveSlot
import UdsIsoTp.Boot.Dialogue
import UdsIsoTp.App.MemoryApp
import UdsIsoTp.Uds.Separate
import UdsIsoTp.Boot.Policy
import UdsIsoTp.App.DidStore
import UdsIsoTp.App.DidDialogue
import UdsIsoTp.Uds.DidRegistry
