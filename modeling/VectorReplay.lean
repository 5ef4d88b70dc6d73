import VectorReplay.Account.Basic
import VectorReplay.Account.Document
import VectorReplay.Account.Storage
import VectorReplay.Block.Basic
import VectorReplay.Block.Error
import VectorReplay.Block.Fields
import VectorReplay.Block.Header
import VectorReplay.Block.Transaction
import VectorReplay.Bytes
import VectorReplay.Checksum
import VectorReplay.CommandLine
import VectorReplay.CommandLine.Arguments
import VectorReplay.CommandLine.EnvironmentFile
import VectorReplay.CommandLine.Parameter
import VectorReplay.Corpus
import VectorReplay.Corpus.Files
import VectorReplay.Corpus.Filter
import VectorReplay.Crypto
import VectorReplay.Diagnosis
import VectorReplay.Error
import VectorReplay.Hardfork
import VectorReplay.Hex.Basic
import VectorReplay.Hex.Digit
import VectorReplay.Hex.Integer
import VectorReplay.Hex.Loose
import VectorReplay.Http
import VectorReplay.Json.Decoder
import VectorReplay.Json.Double
import VectorReplay.Json.Error
import VectorReplay.Json.HexText
import VectorReplay.Json.Reader
import VectorReplay.Json.Record
import VectorReplay.Json.Scan
import VectorReplay.Json.Skip
import VectorReplay.Json.Value
import VectorReplay.Json.Write
import VectorReplay.Keccak
import VectorReplay.Ledger.Basic
import VectorReplay.Ledger.Transfer
import VectorReplay.Main
import VectorReplay.Node
import VectorReplay.Node.Endpoint
import VectorReplay.Node.InMemory
import VectorReplay.Node.Network
import VectorReplay.Node.Remote
import VectorReplay.NodeProcess
import VectorReplay.Receipt
import VectorReplay.Replay
import VectorReplay.Report
import VectorReplay.Rlp.Encode
import VectorReplay.Rlp.Extent
import VectorReplay.Rlp.Reader
import VectorReplay.Rlp.Split
import VectorReplay.Secp256k1
import VectorReplay.Seed
import VectorReplay.Session
import VectorReplay.Table
import VectorReplay.TestVector
import VectorReplay.Text.Alphanumeric
import VectorReplay.Text.CodePoints
import VectorReplay.Text.Composition
import VectorReplay.Text.Composition.Table
import VectorReplay.Text.Direction
import VectorReplay.Text.Joining
import VectorReplay.Text.Mark
import VectorReplay.Text.Pieces
import VectorReplay.Text.Printable
import VectorReplay.Text.Quoted
import VectorReplay.Text.Utf8
import VectorReplay.Url
import VectorReplay.Url.Authority
import VectorReplay.Url.Domain
import VectorReplay.Url.Domain.Mapping
import VectorReplay.Url.Domain.Punycode
import VectorReplay.Url.Host
import VectorReplay.Url.Path
import VectorReplay.Url.Percent
import VectorReplay.Verify
import VectorReplay.Word
import VectorReplay.Proofs.Bytes
import VectorReplay.Proofs.Rlp.Item
import VectorReplay.Proofs.Block.Fields
import VectorReplay.Proofs.Block.Reading
import VectorReplay.Proofs.Block.Language
import VectorReplay.Proofs.Rlp.Canonical
import VectorReplay.Proofs.Stage
import VectorReplay.Proofs.Protocol.Conduct
import VectorReplay.Proofs.Replay
import VectorReplay.Proofs.Protocol.Confirmation
import VectorReplay.Proofs.Protocol.Order
import VectorReplay.Proofs.Protocol.Lockstep
import VectorReplay.Proofs.Protocol.Warnings
import VectorReplay.Proofs.Lifetime
import VectorReplay.Proofs.Submissions
import VectorReplay.Proofs.Json.Numbers
import VectorReplay.Proofs.TestVector
import VectorReplay.Proofs.Verify
import VectorReplay.Proofs.Block.Encoding
import VectorReplay.Proofs.Block.Canonical
import VectorReplay.Proofs.Ledger.Transfer
import VectorReplay.Proofs.Ledger.Money
import VectorReplay.Proofs.Ledger.Refusal
import VectorReplay.Proofs.InMemory.Calls
import VectorReplay.Proofs.InMemory.Seeding
import VectorReplay.Proofs.InMemory.Replaying
import VectorReplay.Proofs.Execution
import VectorReplay.Proofs.InMemory.Slots
import VectorReplay.Proofs.Remote.Requests
import VectorReplay.Proofs.Indifference
import VectorReplay.Proofs.InMemory.Readback
import VectorReplay.Proofs.InMemory.Latency
import VectorReplay.Proofs.InMemory.Submission
import VectorReplay.Proofs.NodeProcess
import VectorReplay.Proofs.Account.Members
import VectorReplay.Proofs.Text.Utf8
import VectorReplay.Proofs.Corpus
import VectorReplay.Proofs.Rlp.Reader
import VectorReplay.Proofs.Ledger.Reading
import VectorReplay.Proofs.Ledger.ChainId
import VectorReplay.Proofs.Ledger.Overflow
import VectorReplay.Proofs.InMemory.Safety
import VectorReplay.Proofs.Protocol.Gas
import VectorReplay.Proofs.Protocol.Transcript
import VectorReplay.Proofs.Hex.Numeral
import VectorReplay.Proofs.Block.Cuts
import VectorReplay.Proofs.Account.Order
import VectorReplay.Proofs.InMemory.Numbering
import VectorReplay.Proofs.Rlp.Tiling
import VectorReplay.Proofs.Block.Layout
import VectorReplay.Proofs.Protocol.Reported
import VectorReplay.Proofs.Json.Skipping
import VectorReplay.Proofs.Json.Passing
import VectorReplay.Proofs.Json.Grammar
import VectorReplay.Proofs.Json.Records
import VectorReplay.Proofs.Remote.Answers
import VectorReplay.Proofs.Account.Reordering
import VectorReplay.Proofs.Checksum.Case
