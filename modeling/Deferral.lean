import Deferral.Activity
import Deferral.Cache.Backend
import Deferral.Cache.Basic
import Deferral.Cache.Memory
import Deferral.Cache.Redis
import Deferral.Cache.Registry
import Deferral.Cache.Request
import Deferral.Cache.Scan
import Deferral.Cache.Typed
import Deferral.Decimal.Double
import Deferral.Decimal.Layout
import Deferral.Decimal.Literal
import Deferral.Delay.Grammar
import Deferral.Delay.Input
import Deferral.Digest.Sha256
import Deferral.Dispatch.Action
import Deferral.Dispatch.Config
import Deferral.Dispatch.Host
import Deferral.Dispatch.Policy
import Deferral.Dispatch.Queue
import Deferral.Dispatch.Record
import Deferral.Dispatch.Round
import Deferral.Dispatch.Service
import Deferral.Dispatch.Tick
import Deferral.Json.Decode
import Deferral.Json.Mismatch
import Deferral.Json.Parser
import Deferral.Json.Value
import Deferral.Pattern.Matcher
import Deferral.Proofs.Action.Cancelling
import Deferral.Proofs.Action.Dispatching
import Deferral.Proofs.Action.Operations
import Deferral.Proofs.Action.Simulation
import Deferral.Proofs.Action.Targets
import Deferral.Proofs.Cache.Addressing
import Deferral.Proofs.Cache.Backends
import Deferral.Proofs.Cache.Likeness
import Deferral.Proofs.Cache.Mirror
import Deferral.Proofs.Cache.Paging
import Deferral.Proofs.Cache.Repeats
import Deferral.Proofs.Cache.Reset
import Deferral.Proofs.Cache.Scanning
import Deferral.Proofs.Cache.Sweep
import Deferral.Proofs.Cache.Wrap
import Deferral.Proofs.Decimal.Literals
import Deferral.Proofs.Delay.Acceptance
import Deferral.Proofs.Delay.Alphabet
import Deferral.Proofs.Delay.Iso
import Deferral.Proofs.Delay.Numerals
import Deferral.Proofs.Delay.Patterns
import Deferral.Proofs.Delay.Spellings
import Deferral.Proofs.Delay.Tokens
import Deferral.Proofs.Json.Canonical
import Deferral.Proofs.Json.Legible
import Deferral.Proofs.Json.Members
import Deferral.Proofs.Json.Roundtrip
import Deferral.Proofs.Memory.Entries
import Deferral.Proofs.Memory.Recency
import Deferral.Proofs.Pattern.ClassHeads
import Deferral.Proofs.Pattern.ClassPatterns
import Deferral.Proofs.Pattern.Classes
import Deferral.Proofs.Pattern.Faithful
import Deferral.Proofs.Pattern.Globs
import Deferral.Proofs.Pattern.KeyHeads
import Deferral.Proofs.Queue.Claim
import Deferral.Proofs.Queue.Conservation
import Deferral.Proofs.Queue.Deduplication
import Deferral.Proofs.Queue.Frame
import Deferral.Proofs.Queue.History
import Deferral.Proofs.Queue.Offer
import Deferral.Proofs.Queue.Offers
import Deferral.Proofs.Queue.Selection
import Deferral.Proofs.Queue.Step
import Deferral.Proofs.Record.Due
import Deferral.Proofs.Record.Roundtrip
import Deferral.Proofs.Record.Sources
import Deferral.Proofs.Regex.Language
import Deferral.Proofs.Regex.Texts
import Deferral.Proofs.Registry.Holds
import Deferral.Proofs.Registry.Sharing
import Deferral.Proofs.Registry.Sound
import Deferral.Proofs.Registry.Stale
import Deferral.Proofs.Round.Abandon
import Deferral.Proofs.Round.Account
import Deferral.Proofs.Round.Completion
import Deferral.Proofs.Round.Fetches
import Deferral.Proofs.Round.Progress
import Deferral.Proofs.Round.Release
import Deferral.Proofs.Round.Turn
import Deferral.Proofs.Service.Balance
import Deferral.Proofs.Service.Punctuality
import Deferral.Proofs.Settings.Cache
import Deferral.Proofs.Settings.Overlay
import Deferral.Proofs.Settings.Url
import Deferral.Proofs.Tenancy.Holds
import Deferral.Proofs.Tenancy.Step
import Deferral.Proofs.Text.Basic
import Deferral.Proofs.Time.Calendar
import Deferral.Proofs.Time.Timestamps
import Deferral.Regex.Basic
import Deferral.Regex.Bracket
import Deferral.Regex.CharSet
import Deferral.Regex.Escape
import Deferral.Regex.Parser
import Deferral.Settings.Cache
import Deferral.Settings.Config
import Deferral.Text.Basic
import Deferral.Text.Casing
import Deferral.Text.Category
import Deferral.Time.Instant
import Deferral.Time.Rfc3339
import Deferral.Time.Span
