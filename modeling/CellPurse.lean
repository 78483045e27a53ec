import CellPurse.Address.Basic
import CellPurse.Address.Bech32
import CellPurse.Address.Identity
import CellPurse.Address.Regroup
import CellPurse.Assoc
import CellPurse.Balance.Basic
import CellPurse.Bytes.Basic
import CellPurse.Bytes.Hex
import CellPurse.Cells.Index
import CellPurse.Cells.LiveCell
import CellPurse.Cells.Ranking
import CellPurse.Cells.Scan
import CellPurse.Cells.Selection
import CellPurse.Cells.Snapshot
import CellPurse.Cells.Stream
import CellPurse.Cells.Totals
import CellPurse.Cells.Window
import CellPurse.Command.Arguments
import CellPurse.Command.Basic
import CellPurse.Command.Fault
import CellPurse.Command.FileTree
import CellPurse.Command.Host
import CellPurse.Command.Run
import CellPurse.Curve.Field
import CellPurse.Curve.Key
import CellPurse.Curve.Point
import CellPurse.Domain.Allowed
import CellPurse.Domain.Basic
import CellPurse.Domain.Composed
import CellPurse.Domain.Direction
import CellPurse.Domain.Label
import CellPurse.Domain.Marks
import CellPurse.Domain.Punycode
import CellPurse.Epoch.Basic
import CellPurse.Epoch.Maturity
import CellPurse.Epoch.Since
import CellPurse.Fault
import CellPurse.Hash.Blake2b
import CellPurse.Hash.Hmac256
import CellPurse.Hash.Hmac512
import CellPurse.Hash.Sha256
import CellPurse.Hash.Sha512
import CellPurse.Json.Basic
import CellPurse.Json.Document
import CellPurse.Json.Encoding
import CellPurse.Json.Parser
import CellPurse.Json.Printer
import CellPurse.Json.Text
import CellPurse.Keys.Expansion
import CellPurse.Keys.Extended
import CellPurse.Keys.Keyring
import CellPurse.Keys.Path
import CellPurse.Keys.Range
import CellPurse.Keys.Signer
import CellPurse.Ledger.Amount
import CellPurse.Ledger.Cell
import CellPurse.Ledger.Genesis
import CellPurse.Ledger.Multisig
import CellPurse.Ledger.Script
import CellPurse.Ledger.Transaction
import CellPurse.Ledger.Witness
import CellPurse.Main
import CellPurse.Molecule.Basic
import CellPurse.Node.Basic
import CellPurse.Node.Http
import CellPurse.Node.Rpc
import CellPurse.Note
import CellPurse.Number.Binary64
import CellPurse.Number.Bits
import CellPurse.Number.Decimal
import CellPurse.Number.Literal
import CellPurse.Number.Power
import CellPurse.Number.Shortest
import CellPurse.Proofs.Address.Bech32
import CellPurse.Proofs.Address.Checksum
import CellPurse.Proofs.Address.Mistyping
import CellPurse.Proofs.Address.Regroup
import CellPurse.Proofs.Address.RoundTrip
import CellPurse.Proofs.Assoc
import CellPurse.Proofs.Cells.Record
import CellPurse.Proofs.Cells.Selection
import CellPurse.Proofs.Cells.Snapshot
import CellPurse.Proofs.Draft.Commitment
import CellPurse.Proofs.Draft.Groups
import CellPurse.Proofs.Draft.Signing
import CellPurse.Proofs.Draft.Steps
import CellPurse.Proofs.Epoch.Maturity
import CellPurse.Proofs.Hash.KeyBlock
import CellPurse.Proofs.Json.Document
import CellPurse.Proofs.Json.Shape
import CellPurse.Proofs.Keys.Authority
import CellPurse.Proofs.Keys.Derived
import CellPurse.Proofs.Keys.Password
import CellPurse.Proofs.Keys.Route
import CellPurse.Proofs.Ledger.Amount
import CellPurse.Proofs.Ledger.Multisig
import CellPurse.Proofs.Ledger.Preimage
import CellPurse.Proofs.Ledger.Script
import CellPurse.Proofs.Molecule.Table
import CellPurse.Proofs.Molecule.Unambiguous
import CellPurse.Proofs.Node.Reply
import CellPurse.Proofs.Node.Transport
import CellPurse.Proofs.Number.Decimal
import CellPurse.Proofs.Number.Literal
import CellPurse.Proofs.Outcome
import CellPurse.Proofs.Text.Case
import CellPurse.Proofs.Transfer.Balance
import CellPurse.Proofs.Transfer.Conversation
import CellPurse.Proofs.Transfer.Course
import CellPurse.Proofs.Transfer.Dialogue
import CellPurse.Proofs.Transfer.Floor
import CellPurse.Proofs.Transfer.Identities
import CellPurse.Proofs.Transfer.LiveFee
import CellPurse.Proofs.Transfer.Orders
import CellPurse.Proofs.Transfer.Partners
import CellPurse.Proofs.Transfer.Search
import CellPurse.Proofs.Transfer.Sending
import CellPurse.Proofs.Transfer.Session
import CellPurse.Proofs.Transfer.Spending
import CellPurse.Proofs.Transfer.Stages
import CellPurse.Proofs.Transfer.Validation
import CellPurse.Settings.Basic
import CellPurse.Settings.Field
import CellPurse.Settings.Location
import CellPurse.Settings.Numeral
import CellPurse.Settings.Variables
import CellPurse.Text.Blank
import CellPurse.Text.Case
import CellPurse.Text.Digit
import CellPurse.Text.Lines
import CellPurse.Text.Printable
import CellPurse.Text.Quoted
import CellPurse.Text.Ranges
import CellPurse.Text.Sigma
import CellPurse.Text.Split
import CellPurse.Transfer.Draft
import CellPurse.Transfer.Fault
import CellPurse.Transfer.Funding
import CellPurse.Transfer.Limits
import CellPurse.Transfer.LockedSource
import CellPurse.Transfer.Request
import CellPurse.Transfer.Run
import CellPurse.Url.Basic
import CellPurse.Url.Escape
import CellPurse.Url.Host
import CellPurse.Proofs.Keys.Expansion
import CellPurse.Proofs.Keys.Halves
import CellPurse.Proofs.Cells.Ranking
import CellPurse.Proofs.Cells.Page
import CellPurse.Proofs.Epoch.Since
import CellPurse.Proofs.Transfer.TimeLock
import CellPurse.Proofs.Number.Numeral
import CellPurse.Proofs.Draft.Sheet
import CellPurse.Proofs.Ledger.Exact
import CellPurse.Proofs.Draft.History
import CellPurse.Proofs.Keys.Calls
import CellPurse.Proofs.Ledger.Policy
import CellPurse.Proofs.Molecule.RoundTrip
import CellPurse.Proofs.Transfer.Change
import CellPurse.Proofs.Molecule.Canonical
import CellPurse.Proofs.Balance.Totals
import CellPurse.Proofs.Cells.Holdings
import CellPurse.Proofs.Transfer.Independence
import CellPurse.Proofs.Address.Identity
import CellPurse.Proofs.Number.Hexadecimal
import CellPurse.Proofs.Ledger.Document
import CellPurse.Proofs.Cells.Document
import CellPurse.Proofs.Keys.Composition
import CellPurse.Proofs.Cells.Stream
