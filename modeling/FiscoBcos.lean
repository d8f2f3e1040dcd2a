import FiscoBcos.Basic
import FiscoBcos.Msg
import FiscoBcos.State
import FiscoBcos.Phase
import FiscoBcos.Handler
import FiscoBcos.Node
import FiscoBcos.VoteView
import FiscoBcos.Tally
import FiscoBcos.Roster
import FiscoBcos.Proposal
import FiscoBcos.Cluster
import FiscoBcos.ViewChange
import FiscoBcos.ViewOrder
import FiscoBcos.CommitLock
import FiscoBcos.Reconfig
import FiscoBcos.BlockSign
import FiscoBcos.Certificate
import FiscoBcos.FastPath
import FiscoBcos.PeerMask
import FiscoBcos.Client
import FiscoBcos.Rlp
import FiscoBcos.Backup
import FiscoBcos.MinerCount
import FiscoBcos.Signal
import FiscoBcos.Watch
import FiscoBcos.RpcServer
