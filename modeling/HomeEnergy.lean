import HomeEnergy.Account.Directory
import HomeEnergy.Account.Registration
import HomeEnergy.Account.Token
import HomeEnergy.Account.User
import HomeEnergy.Calendar.Date
import HomeEnergy.Calendar.DayId
import HomeEnergy.Calendar.Instant
import HomeEnergy.Calendar.IsoWeek
import HomeEnergy.Data.Keyed
import HomeEnergy.Failure
import HomeEnergy.Json.Numeral
import HomeEnergy.Json.Pretty
import HomeEnergy.Json.Reader
import HomeEnergy.Json.Record
import HomeEnergy.Json.Scalar
import HomeEnergy.Json.Scan
import HomeEnergy.Json.Text
import HomeEnergy.Json.Value
import HomeEnergy.Live.Board
import HomeEnergy.Live.Dashboard
import HomeEnergy.Notify.Note
import HomeEnergy.Notify.Watcher
import HomeEnergy.Number.Binary64
import HomeEnergy.Number.Decimal
import HomeEnergy.Number.Digits
import HomeEnergy.Proofs.Calendar.DayNumber
import HomeEnergy.Proofs.Calendar.IsoWeek
import HomeEnergy.Proofs.Calendar.Timestamp
import HomeEnergy.Proofs.Data.Grouping
import HomeEnergy.Proofs.Data.Keyed
import HomeEnergy.Proofs.Live.Board
import HomeEnergy.Proofs.Live.Echo
import HomeEnergy.Proofs.Live.Following
import HomeEnergy.Proofs.Live.Shared
import HomeEnergy.Proofs.Live.Steps
import HomeEnergy.Proofs.Live.Stored
import HomeEnergy.Proofs.Number.Digits
import HomeEnergy.Proofs.Rehearsal.Feeds
import HomeEnergy.Proofs.Remote.Wire
import HomeEnergy.Proofs.Rollup.Week
import HomeEnergy.Proofs.Store.Listener
import HomeEnergy.Proofs.Store.Listing
import HomeEnergy.Proofs.Store.Path
import HomeEnergy.Proofs.Store.Shelves
import HomeEnergy.Proofs.Store.Value
import HomeEnergy.Proofs.Text.ByteOrder
import HomeEnergy.Query.Devices
import HomeEnergy.Query.History
import HomeEnergy.Query.Insights
import HomeEnergy.Query.Profile
import HomeEnergy.Record.Daily
import HomeEnergy.Record.Device
import HomeEnergy.Record.Exchange
import HomeEnergy.Record.Hourly
import HomeEnergy.Record.Insight
import HomeEnergy.Record.Profile
import HomeEnergy.Rehearsal.Stage
import HomeEnergy.Rehearsal.World
import HomeEnergy.Remote.Address
import HomeEnergy.Remote.Documents
import HomeEnergy.Remote.Exchange
import HomeEnergy.Remote.Identity
import HomeEnergy.Remote.Wire
import HomeEnergy.Rollup.Month
import HomeEnergy.Rollup.Totals
import HomeEnergy.Rollup.Week
import HomeEnergy.Screen.Account
import HomeEnergy.Screen.Appliance
import HomeEnergy.Screen.Dashboard
import HomeEnergy.Screen.Forecast
import HomeEnergy.Screen.Home
import HomeEnergy.Screen.Insights
import HomeEnergy.Screen.Outcome
import HomeEnergy.Screen.Session
import HomeEnergy.Screen.Settings
import HomeEnergy.Screen.Usage
import HomeEnergy.Service
import HomeEnergy.Settings.Configuration
import HomeEnergy.Settings.Placeholder
import HomeEnergy.Settings.Preferences
import HomeEnergy.Settings.Seed
import HomeEnergy.Store.Document
import HomeEnergy.Store.Memory
import HomeEnergy.Store.Path
import HomeEnergy.Store.Value
import HomeEnergy.Text.Base64
import HomeEnergy.Text.Chars
import HomeEnergy.Yaml.Document
import HomeEnergy.Yaml.Lexer
import HomeEnergy.Yaml.Node
import HomeEnergy.Yaml.Scalar
import HomeEnergy.Yaml.Token
import HomeEnergy.Yaml.Typed
import HomeEnergy.Proofs.Store.Watch
import HomeEnergy.Proofs.Account.Directory
import HomeEnergy.Proofs.Remote.Percent
import HomeEnergy.Proofs.Remote.Address
import HomeEnergy.Proofs.Remote.Request
import HomeEnergy.Proofs.Remote.Update
import HomeEnergy.Proofs.Rehearsal.Reads
import HomeEnergy.Proofs.Rollup.Selection
import HomeEnergy.Proofs.Screen.Fetching
import HomeEnergy.Proofs.Screen.History
import HomeEnergy.Proofs.Screen.CalendarEnd
import HomeEnergy.Proofs.Store.Namespace
import HomeEnergy.Proofs.Query.Isolation
import HomeEnergy.Proofs.Calendar.DayId
import HomeEnergy.Proofs.Rehearsal.Later
import HomeEnergy.Proofs.Screen.Following
import HomeEnergy.Proofs.Screen.Sight
import HomeEnergy.Proofs.Notify.Watcher
import HomeEnergy.Proofs.Json.Pretty
import HomeEnergy.Proofs.Screen.SharedSettings
import HomeEnergy.Proofs.Json.Record
import HomeEnergy.Proofs.Account.Token
import HomeEnergy.Proofs.Remote.Identity
import HomeEnergy.Proofs.Screen.SignIn
import HomeEnergy.Proofs.Live.Changes
import HomeEnergy.Proofs.Live.Undo
import HomeEnergy.Proofs.Rollup.Naming
import HomeEnergy.Proofs.Calendar.Spelling
import HomeEnergy.Proofs.Query.Days
import HomeEnergy.Proofs.Calendar.Instant
import HomeEnergy.Proofs.Notify.Newest
import HomeEnergy.Proofs.Screen.NewForecasts
import HomeEnergy.Proofs.Remote.Pages
import HomeEnergy.Proofs.Screen.Suggestions
import HomeEnergy.Proofs.Store.Sameness
import HomeEnergy.Proofs.Remote.Polling
import HomeEnergy.Proofs.Screen.Registering
import HomeEnergy.Proofs.Query.Joined
import HomeEnergy.Proofs.Screen.Flips
import HomeEnergy.Proofs.Settings.Placeholder
import HomeEnergy.Proofs.Live.Messages
import HomeEnergy.Proofs.Screen.AllOrNothing
import HomeEnergy.Proofs.Rehearsal.Held
import HomeEnergy.Proofs.Screen.Listeners
import HomeEnergy.Proofs.Text.Replacing
import HomeEnergy.Proofs.Settings.Seed
import HomeEnergy.Proofs.Query.Profile
import HomeEnergy.Proofs.Rollup.Month
import HomeEnergy.Proofs.Account.Email
import HomeEnergy.Proofs.Remote.Quoting
