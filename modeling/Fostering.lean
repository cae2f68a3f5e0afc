import Fostering.Bytes
import Fostering.Change
import Fostering.Chat
import Fostering.Codec.Base64
import Fostering.Config
import Fostering.Database.Chats
import Fostering.Database.Favourites
import Fostering.Database.Listing
import Fostering.Database.Moderation
import Fostering.Database.Records
import Fostering.Database.Reviews
import Fostering.Database.Rows
import Fostering.Database.Schema
import Fostering.Database.Sessions
import Fostering.Database.Store
import Fostering.Database.Tables
import Fostering.Decimal.Binary64
import Fostering.Decimal.Notation
import Fostering.Decimal.Read
import Fostering.Decimal.Shortest
import Fostering.Digest.Argon2
import Fostering.Digest.Blake2b
import Fostering.Digest.Hmac
import Fostering.Digest.Row
import Fostering.Digest.Sha256
import Fostering.Entry
import Fostering.Error
import Fostering.Favourite
import Fostering.Grade
import Fostering.Http.App
import Fostering.Http.Body
import Fostering.Http.Caller
import Fostering.Http.Cors
import Fostering.Http.Endpoint
import Fostering.Http.Failure
import Fostering.Http.Handler
import Fostering.Http.Message
import Fostering.Http.Path
import Fostering.Http.Query
import Fostering.Json.Fault
import Fostering.Json.Message
import Fostering.Json.Number
import Fostering.Json.Record
import Fostering.Json.Scalar
import Fostering.Json.Scanner
import Fostering.Json.Shape
import Fostering.Json.Skip
import Fostering.Json.Value
import Fostering.Keeper
import Fostering.Listing.Page
import Fostering.Listing.Sort
import Fostering.Memory.Rows
import Fostering.Memory.Store
import Fostering.Moderation
import Fostering.Password
import Fostering.Post
import Fostering.PostStatus
import Fostering.Proofs.Calls
import Fostering.Proofs.Chats.Activity
import Fostering.Proofs.Chats.Lifecycle
import Fostering.Proofs.Chats.Membership
import Fostering.Proofs.Chats.Opening
import Fostering.Proofs.Chats.Participants
import Fostering.Proofs.Chats.Roster
import Fostering.Proofs.Claims
import Fostering.Proofs.Codec.Base64
import Fostering.Proofs.Codec.Utf8
import Fostering.Proofs.Coupling
import Fostering.Proofs.Database.Constraints
import Fostering.Proofs.Database.Contents
import Fostering.Proofs.Database.Counters
import Fostering.Proofs.Database.Deletion
import Fostering.Proofs.Database.Effects
import Fostering.Proofs.Database.Flaws
import Fostering.Proofs.Database.Frames
import Fostering.Proofs.Database.Integrity
import Fostering.Proofs.Database.Invariants
import Fostering.Proofs.Database.Keys
import Fostering.Proofs.Database.Refusals
import Fostering.Proofs.Database.Retention
import Fostering.Proofs.Database.Rollback
import Fostering.Proofs.Database.Soundness
import Fostering.Proofs.Database.Statements
import Fostering.Proofs.Database.Timestamps
import Fostering.Proofs.Decimal.Average
import Fostering.Proofs.Decimal.Digits
import Fostering.Proofs.Endpoints
import Fostering.Proofs.Json.Grammar
import Fostering.Proofs.Json.Meaning
import Fostering.Proofs.Json.Objects
import Fostering.Proofs.Json.Writing
import Fostering.Proofs.Keepers.Favourites
import Fostering.Proofs.Keepers.Gradebook
import Fostering.Proofs.Keepers.Rating
import Fostering.Proofs.Keepers.Reviewing
import Fostering.Proofs.Listing.Configured
import Fostering.Proofs.Listing.Order
import Fostering.Proofs.Listing.Pages
import Fostering.Proofs.Listing.Partition
import Fostering.Proofs.Listing.Precedence
import Fostering.Proofs.Listing.Requested
import Fostering.Proofs.Memory.Chats
import Fostering.Proofs.Memory.Likeness
import Fostering.Proofs.Memory.Messages
import Fostering.Proofs.Memory.Pairing
import Fostering.Proofs.Memory.Posts
import Fostering.Proofs.Memory.Reports
import Fostering.Proofs.Memory.Simulation
import Fostering.Proofs.Memory.Trials
import Fostering.Proofs.Passwords
import Fostering.Proofs.Posts.Blocked
import Fostering.Proofs.Posts.Board
import Fostering.Proofs.Posts.Filing
import Fostering.Proofs.Posts.Hidden
import Fostering.Proofs.Posts.Integrity
import Fostering.Proofs.Posts.Interleaving
import Fostering.Proofs.Posts.ReportCount
import Fostering.Proofs.Posts.Requests
import Fostering.Proofs.Posts.Threshold
import Fostering.Proofs.Posts.Visibility
import Fostering.Proofs.Profiles.Roles
import Fostering.Proofs.Requests.Answers
import Fostering.Proofs.Requests.Bounds
import Fostering.Proofs.Requests.Clock
import Fostering.Proofs.Requests.Conflicts
import Fostering.Proofs.Requests.Envelope
import Fostering.Proofs.Requests.Failures
import Fostering.Proofs.Requests.Fitting
import Fostering.Proofs.Requests.Overlay
import Fostering.Proofs.Requests.Ownership
import Fostering.Proofs.Requests.Passing
import Fostering.Proofs.Requests.Patches
import Fostering.Proofs.Requests.Readings
import Fostering.Proofs.Requests.Replies
import Fostering.Proofs.Requests.Rollback
import Fostering.Proofs.Requests.Service
import Fostering.Proofs.Requests.Stored
import Fostering.Proofs.Requests.Texts
import Fostering.Proofs.Requests.Writes
import Fostering.Proofs.Runs
import Fostering.Proofs.Secrecy.Mirroring
import Fostering.Proofs.Secrecy.Requests
import Fostering.Proofs.Secrecy.Veil
import Fostering.Proofs.Sessions.AccessTokens
import Fostering.Proofs.Sessions.Credentials
import Fostering.Proofs.Sessions.Devices
import Fostering.Proofs.Sessions.Exchanges
import Fostering.Proofs.Sessions.Lifetimes
import Fostering.Proofs.Sessions.Logins
import Fostering.Proofs.Sessions.Refinement
import Fostering.Proofs.Sessions.Registrations
import Fostering.Proofs.Sessions.Rows
import Fostering.Proofs.Tokens
import Fostering.Request
import Fostering.Review
import Fostering.Role
import Fostering.Seeker
import Fostering.Service.Accounts
import Fostering.Service.Breakdown
import Fostering.Service.Chats
import Fostering.Service.Ownership
import Fostering.Service.Posts
import Fostering.Service.Profiles
import Fostering.Service.Reviews
import Fostering.Service.Sessions
import Fostering.Session
import Fostering.Store.Interface
import Fostering.Store.Op
import Fostering.Text.Blank
import Fostering.Text.Composed
import Fostering.Text.Composed.Marks
import Fostering.Text.Composed.Pairs
import Fostering.Text.Email
import Fostering.Text.Host.Direction
import Fostering.Text.Host.International
import Fostering.Text.Host.Joiner
import Fostering.Text.Host.Mapping
import Fostering.Text.HostName
import Fostering.Text.Integer
import Fostering.Text.IpAddress
import Fostering.Text.Punycode
import Fostering.Text.Quoted
import Fostering.Text.Stretches
import Fostering.Text.Unprintable
import Fostering.Text.Utf8
import Fostering.Time.Calendar
import Fostering.Time.Instant
import Fostering.Time.Lifetime
import Fostering.Time.Rfc3339
import Fostering.Token
import Fostering.Unavailable
import Fostering.User
import Fostering.Uuid
import Fostering.Validation
import Fostering.Vet
