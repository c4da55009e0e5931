import ContractGateway.Abi.Decoding
import ContractGateway.Abi.Encoding
import ContractGateway.Abi.Parameter
import ContractGateway.Abi.Type
import ContractGateway.Abi.TypeText
import ContractGateway.Abi.Value
import ContractGateway.Auction.Contracts
import ContractGateway.Auction.Scenario
import ContractGateway.Batch
import ContractGateway.Bytes
import ContractGateway.Config
import ContractGateway.Contract
import ContractGateway.Crypto.Keccak
import ContractGateway.Crypto.Secp256k1
import ContractGateway.Error
import ContractGateway.Field
import ContractGateway.Gas
import ContractGateway.HostUnit
import ContractGateway.Json
import ContractGateway.Json.Abi
import ContractGateway.Json.Failures
import ContractGateway.Json.Members
import ContractGateway.Json.Slots
import ContractGateway.Json.Transactions
import ContractGateway.Ledger.Basic
import ContractGateway.Ledger.Memory
import ContractGateway.Ledger.Scripted
import ContractGateway.Number.Binary64
import ContractGateway.Number.FixedPoint
import ContractGateway.Number.Power
import ContractGateway.Number.Shortest
import ContractGateway.Proofs.Abi.Arguments
import ContractGateway.Proofs.Abi.Layout
import ContractGateway.Proofs.Abi.RoundTrip
import ContractGateway.Proofs.Abi.Strict
import ContractGateway.Proofs.Abi.Typed
import ContractGateway.Proofs.Abi.Unique
import ContractGateway.Proofs.Abi.Widths
import ContractGateway.Proofs.Auction.Bids
import ContractGateway.Proofs.Auction.Fates
import ContractGateway.Proofs.Auction.History
import ContractGateway.Proofs.Auction.Predictions
import ContractGateway.Proofs.Batch.Attribution
import ContractGateway.Proofs.Batch.Delivery
import ContractGateway.Proofs.Batch.OneByOne
import ContractGateway.Proofs.Batch.Reverting
import ContractGateway.Proofs.Batch.Runs
import ContractGateway.Proofs.Batch.Served
import ContractGateway.Proofs.Batch.Sharing
import ContractGateway.Proofs.Batch.Traffic
import ContractGateway.Proofs.Field.Calldata
import ContractGateway.Proofs.Field.Inverse
import ContractGateway.Proofs.Field.ReadBack
import ContractGateway.Proofs.Field.StrictReads
import ContractGateway.Proofs.HostUnit.Quantity
import ContractGateway.Proofs.Json.Quoted
import ContractGateway.Proofs.Json.Reading
import ContractGateway.Proofs.Ledger.Growth
import ContractGateway.Proofs.Ledger.Sequences
import ContractGateway.Proofs.Ledger.Treatment
import ContractGateway.Proofs.Ledger.Yields
import ContractGateway.Proofs.Number.DecimalText
import ContractGateway.Proofs.Number.FixedPoint
import ContractGateway.Proofs.Number.Rounding
import ContractGateway.Proofs.Number.Whole
import ContractGateway.Proofs.Registry.Answers
import ContractGateway.Proofs.Registry.Forgetting
import ContractGateway.Proofs.Registry.Interleavings
import ContractGateway.Proofs.Registry.Lookups
import ContractGateway.Proofs.Registry.Moves
import ContractGateway.Proofs.Registry.Separation
import ContractGateway.Proofs.Registry.Terms
import ContractGateway.Proofs.Revert.Reasons
import ContractGateway.Proofs.Revert.Reporting
import ContractGateway.Proofs.Rpc.Aggregation
import ContractGateway.Proofs.Settings.Collecting
import ContractGateway.Proofs.Settings.Proposals
import ContractGateway.Proofs.Settings.Registration
import ContractGateway.Proofs.Settings.Words
import ContractGateway.Proofs.Slot.Correspondence
import ContractGateway.Proofs.Slot.RoundTrip
import ContractGateway.Proofs.Text.Utf8
import ContractGateway.Proofs.Text.Wording
import ContractGateway.Proofs.Transaction.Answers
import ContractGateway.Proofs.Transaction.Deadline
import ContractGateway.Proofs.Transaction.Development
import ContractGateway.Proofs.Transaction.Discipline
import ContractGateway.Proofs.Transaction.DryRun
import ContractGateway.Proofs.Transaction.Ending
import ContractGateway.Proofs.Transaction.Exactness
import ContractGateway.Proofs.Transaction.Finality
import ContractGateway.Proofs.Transaction.Nonces
import ContractGateway.Proofs.Transaction.Numbering
import ContractGateway.Proofs.Transaction.Pauses
import ContractGateway.Proofs.Transaction.Pricing
import ContractGateway.Proofs.Transaction.Reporting
import ContractGateway.Proofs.Transaction.Sending
import ContractGateway.Proofs.Transaction.Settlement
import ContractGateway.Proofs.Transaction.SharedDeadline
import ContractGateway.Proofs.Transaction.Sightings
import ContractGateway.Proofs.Transaction.Submission
import ContractGateway.Proofs.Transaction.Submissions
import ContractGateway.Proofs.Transaction.Unknown
import ContractGateway.Proofs.Transaction.Waiting
import ContractGateway.Proofs.Transport.Reverts
import ContractGateway.Proofs.Transport.Wordings
import ContractGateway.Registry.Basic
import ContractGateway.Registry.Joined
import ContractGateway.Revert.Interfaces
import ContractGateway.Revert.Reason
import ContractGateway.Rpc.Aggregation
import ContractGateway.Rpc.Connection
import ContractGateway.Rpc.FeeHistory
import ContractGateway.Rpc.Ledger
import ContractGateway.Rpc.Quantity
import ContractGateway.Rpc.Receipt
import ContractGateway.Rpc.Url
import ContractGateway.Rpc.Url.Host
import ContractGateway.Rpc.Url.Name
import ContractGateway.Rpc.Url.Name.Barred
import ContractGateway.Rpc.Url.Name.Composition
import ContractGateway.Rpc.Url.Name.Direction
import ContractGateway.Rpc.Url.Name.Joining
import ContractGateway.Rpc.Url.Name.Label
import ContractGateway.Rpc.Url.Name.Mark
import ContractGateway.Rpc.Url.Name.Punycode
import ContractGateway.Rpc.Url.Name.Spelling
import ContractGateway.Session.Auction
import ContractGateway.Session.Basic
import ContractGateway.Session.Lookups
import ContractGateway.Session.Reads
import ContractGateway.Session.Settings
import ContractGateway.Session.State
import ContractGateway.Session.Writes
import ContractGateway.Settings
import ContractGateway.Slot.Value
import ContractGateway.Text.CodePoints
import ContractGateway.Text.Parts
import ContractGateway.Text.Quoted
import ContractGateway.Text.Unprintable
import ContractGateway.Text.Utf8
import ContractGateway.Text.Wording
import ContractGateway.Time
import ContractGateway.Transaction.Confirmation
import ContractGateway.Transaction.Sequence
import ContractGateway.Transaction.Submission
import ContractGateway.Transport.Error
import ContractGateway.Transport.Kind
import ContractGateway.Word
