import PracticeClient.Program
import PracticeClient.Table
import PracticeClient.Text.Utf8
import PracticeClient.Text.Excerpt
import PracticeClient.Text.Blank
import PracticeClient.Text.Quoted
import PracticeClient.Number.Notation
import PracticeClient.Json.Decoding
import PracticeClient.Notification
import PracticeClient.Credentials
import PracticeClient.LoginReply
import PracticeClient.Http.Error
import PracticeClient.Cli.Command
import PracticeClient.Url.Parser
import PracticeClient.Http.Transport
import PracticeClient.Http.Server
import PracticeClient.Files.Operation
import PracticeClient.Storage.Store
import PracticeClient.Client.Account
import PracticeClient.Client.Submissions
import PracticeClient.Client.Clients
import PracticeClient.Config.File
import PracticeClient.Environment.File
import PracticeClient.Cli.Host
import PracticeClient.Main
import PracticeClient.Proofs.Client.Ledger
import PracticeClient.Proofs.Client.Course
import PracticeClient.Proofs.Client.History
import PracticeClient.Proofs.Client.Overlaps
import PracticeClient.Proofs.Client.StoreChanges
import PracticeClient.Proofs.Client.Notices
import PracticeClient.Proofs.Client.Happenings
import PracticeClient.Proofs.Client.InFlight
import PracticeClient.Proofs.Client.Passwords
import PracticeClient.Proofs.Text.Utf8
import PracticeClient.Proofs.Json.Grammar
import PracticeClient.Proofs.Json.Quotation
import PracticeClient.Proofs.Json.Numerals
import PracticeClient.Proofs.Json.Acceptance
import PracticeClient.Proofs.Json.Soundness
import PracticeClient.Proofs.Json.Repairs
import PracticeClient.Proofs.Json.Members
import PracticeClient.Proofs.Json.Texts
import PracticeClient.Proofs.Files.Following
import PracticeClient.Proofs.Storage.Machine
import PracticeClient.Proofs.Storage.FileContents
import PracticeClient.Proofs.Storage.Secrets
import PracticeClient.Proofs.Client.Standing
import PracticeClient.Proofs.Client.FailingStores
import PracticeClient.Proofs.Client.Replies
import PracticeClient.Proofs.Storage.Orders
import PracticeClient.Proofs.Storage.Rollback
import PracticeClient.Proofs.Runs
import PracticeClient.Proofs.Text.Order
import PracticeClient.Proofs.Json.ObjectsOfTexts
import PracticeClient.Proofs.Storage.Success
import PracticeClient.Proofs.Storage.PlainMap
import PracticeClient.Proofs.Storage.FileSteps
import PracticeClient.Proofs.Storage.Interruption
import PracticeClient.Proofs.Storage.Leftovers
import PracticeClient.Proofs.Storage.Sharing
import PracticeClient.Proofs.Storage.Presence
import PracticeClient.Proofs.Storage.KeptSession
import PracticeClient.Proofs.Storage.Batches
import PracticeClient.Proofs.Http.Dialogues
import PracticeClient.Proofs.Http.Endpoints
import PracticeClient.Proofs.Cli.Executing
import PracticeClient.Proofs.Cli.Posting
import PracticeClient.Proofs.Cli.Bodies
import PracticeClient.Proofs.Cli.Outcomes
import PracticeClient.Proofs.Cli.Stages
import PracticeClient.Proofs.Cli.SigningIn
import PracticeClient.Proofs.Cli.Launches
import PracticeClient.Proofs.Cli.Statuses
import PracticeClient.Proofs.ConfigurationTexts
import PracticeClient.Proofs.Configurations
import PracticeClient.Proofs.Storage.Additions
import PracticeClient.Proofs.Storage.Resemblance
import PracticeClient.Proofs.Cli.Commands
import PracticeClient.Proofs.Cli.Restraint
import PracticeClient.Proofs.Cli.Conduct
import PracticeClient.Proofs.Cli.Addresses
import PracticeClient.Proofs.Cli.Remembering
import PracticeClient.Proofs.Json.Names
import PracticeClient.Proofs.Http.ErrorBodies
import PracticeClient.Proofs.Client.ResponseTexts
import PracticeClient.Proofs.Client.Messages
