import IbcEureka.Lib.Bytes
import IbcEureka.Lib.Txn
import IbcEureka.Lib.Abi
import IbcEureka.Lib.Borsh
import IbcEureka.Lib.Pda
import IbcEureka.Lib.Blocks
import IbcEureka.Packet
import IbcEureka.Solana.Ics24
import IbcEureka.Solana.RouterState
import IbcEureka.Solana.Chunking
import IbcEureka.Solana.Router
import IbcEureka.Solana.RouterLifecycle
import IbcEureka.Solidity.ICS24Host
import IbcEureka.Solidity.IBCStore
import IbcEureka.Solidity.ICS02Client
import IbcEureka.Lifecycle
import IbcEureka.Solidity.ICS26Router
import IbcEureka.Solidity.RouterLifecycle
import IbcEureka.Solidity.Identifiers
import IbcEureka.CrossChain.Ics24
import IbcEureka.Lib.Chain
import IbcEureka.Solidity.RouterTimeouts
import IbcEureka.Solana.RouterTimeouts
import IbcEureka.CrossChain.Exclusivity
import IbcEureka.Solana.Ics07.Program
import IbcEureka.Solana.Ics07.ClientState
import IbcEureka.Solana.Ics07.TrustChain
import IbcEureka.Lib.HeightMap
import IbcEureka.Solidity.SP1ICS07Tendermint
import IbcEureka.Solidity.SP1ICS07Invariants
import IbcEureka.Solidity.SP1ICS07Membership
import IbcEureka.CrossChain.Tendermint
import IbcEureka.Lib.Quorum
import IbcEureka.Solidity.AttestationLightClient
import IbcEureka.Solidity.AttestationInvariants
import IbcEureka.Solana.Attestation
import IbcEureka.Solana.AttestationInvariants
import IbcEureka.CrossChain.Attestation
import IbcEureka.Lib.Fault
import IbcEureka.Ethereum.Types
import IbcEureka.Ethereum.Verify
import IbcEureka.Ethereum.Update
import IbcEureka.Lib.Vec
import IbcEureka.Solana.AccessManager
import IbcEureka.Lib.RateLimit
import IbcEureka.Solidity.Escrow
import IbcEureka.Solana.GmpAccount
import IbcEureka.Solana.Ift
import IbcEureka.Solidity.ICS20Transfer
import IbcEureka.Solana.GmpRecv
import IbcEureka.Ethereum.WasmClient
import IbcEureka.Lib.Fungible
import IbcEureka.Solidity.ICS20Refund
import IbcEureka.Lib.Pending
import IbcEureka.Solidity.IFT
import IbcEureka.Solana.GmpSend
import IbcEureka.Solana.IftTransfer
import IbcEureka.Solidity.ICS27GMP
import IbcEureka.Solana.GmpPayload
import IbcEureka.Solidity.SolanaIFTSendCall
