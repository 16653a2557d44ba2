import Gatehouse.Hash.Hmac
import Gatehouse.Time.Instant
import Gatehouse.Owner
import Gatehouse.Secret
import Gatehouse.Json.Reader
import Gatehouse.Json.Writer
import Gatehouse.Json.Record
import Gatehouse.Access.Codec
import Gatehouse.Refresh.Backend
import Gatehouse.KeyServer.Command
import Gatehouse.Token.Engine
import Gatehouse.Accounts.Remote
import Gatehouse.Watch.Watched
import Gatehouse.Http.Service
import Gatehouse.Bytes.LittleEndian
import Gatehouse.Hash.Blake2b
import Gatehouse.Password.Block
import Gatehouse.Password.Argon2
import Gatehouse.Password.Argon2Hasher
import Gatehouse.CommandLine
import Gatehouse.Log.Level
import Gatehouse.Log.Pattern
import Gatehouse.Log.Filter
import Gatehouse.Text.Blank
import Gatehouse.Text.Alphanumeric
import Gatehouse.Number.Binary64
import Gatehouse.Number.Shortest
import Gatehouse.Number.Written
import Gatehouse.Json.Binary64
import Gatehouse.Json.Sound
import Gatehouse.Fields
import Gatehouse.Toml.Basic
import Gatehouse.Toml.Scalar
import Gatehouse.Toml.Quoted
import Gatehouse.Toml.Tree
import Gatehouse.Toml.Reader
import Gatehouse.Settings.Tree
import Gatehouse.Settings.KeyPath
import Gatehouse.Settings.Misfit
import Gatehouse.Settings.Reading
import Gatehouse.Settings.Basic
import Gatehouse.Settings.Folder
import Gatehouse.Settings.Sources
import Gatehouse.Settings.Load
import Gatehouse.KeyServer.Address
import Gatehouse.Server
import Gatehouse.Main
import Gatehouse.Proofs.Run
import Gatehouse.Proofs.KeyServer.Scripts
import Gatehouse.Proofs.Text.Decimal
import Gatehouse.Proofs.Refresh.Holdings
import Gatehouse.Proofs.Refresh.Contract
import Gatehouse.Proofs.Refresh.History
import Gatehouse.Proofs.Refresh.SingleUse
import Gatehouse.Proofs.Refresh.Leases
import Gatehouse.Proofs.Token.Engine
import Gatehouse.Proofs.Token.Secrets
import Gatehouse.Proofs.Token.Stages
import Gatehouse.Proofs.Token.Preserved
import Gatehouse.Proofs.Watch.Parts
import Gatehouse.Proofs.Token.FailedRotation
import Gatehouse.Proofs.Token.FailedIssue
import Gatehouse.Proofs.Server.Alike
import Gatehouse.Proofs.Server.Interchange
import Gatehouse.Proofs.Server.Beside
import Gatehouse.Proofs.Accounts.Memory
import Gatehouse.Proofs.Hash.Digest
import Gatehouse.Proofs.Bytes.Base64
import Gatehouse.Proofs.Json.Grammar
import Gatehouse.Proofs.Json.Reader
import Gatehouse.Proofs.Access.Verify
import Gatehouse.Proofs.KeyServer.Records
import Gatehouse.Proofs.Refresh.Interfered
import Gatehouse.Proofs.Token.Deadlines
import Gatehouse.Proofs.Token.LostAnswer
import Gatehouse.Proofs.Accounts.History
import Gatehouse.Proofs.Http.Replies
import Gatehouse.Proofs.Server.Refused
import Gatehouse.Proofs.Password.Stored
import Gatehouse.Proofs.Server.InMemory
import Gatehouse.Proofs.Server.ClientErrors
import Gatehouse.Proofs.Server.Texts
import Gatehouse.Proofs.Refresh.AnyLifetime
import Gatehouse.Proofs.Refresh.OwnerCheck
import Gatehouse.Proofs.Server.SameRefusal
import Gatehouse.Proofs.Text.Utf8
import Gatehouse.Proofs.Access.Signed
import Gatehouse.Proofs.Refresh.LazyPurge
import Gatehouse.Proofs.Token.Reached
import Gatehouse.Proofs.Token.Collision
import Gatehouse.Proofs.Token.EarlyLook
import Gatehouse.Proofs.Token.Admission
import Gatehouse.Proofs.Settings.Sections
import Gatehouse.Proofs.Settings.Overrides
import Gatehouse.Proofs.Token.Kept
import Gatehouse.Proofs.Http.Deadline
import Gatehouse.Proofs.Server.Lasting
import Gatehouse.Proofs.Server.Lifetimes
import Gatehouse.Proofs.Secret
