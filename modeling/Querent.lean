import Querent.Local
import Querent.Proofs.Database.Fetch
import Querent.Proofs.Database.Binary
import Querent.Proofs.Database.Numbers
import Querent.Proofs.Database.Record
import Querent.Proofs.Text.Utf8
import Querent.Main
import Querent.MySql.Catalog
import Querent.MySql.Value
import Querent.Postgres.Catalog
import Querent.Postgres.Value
import Querent.Proofs.Config.Omission
import Querent.Proofs.Dispatcher.Asking
import Querent.Proofs.Guard.Dialects
import Querent.Proofs.Guard.Keywords
import Querent.Proofs.Session.Expiry
import Querent.Proofs.Session.Farewell
import Querent.Proofs.Session.Keepalive
import Querent.Proofs.Session.Progress
import Querent.Proofs.Session.Roster
import Querent.Proofs.Session.Starting
import Querent.Server.Route
import Querent.Session.Attendance
import Querent.Proofs.Session.Attendance
import Querent.Proofs.Backend.Presentation
import Querent.Proofs.Instant.Calendar
import Querent.Proofs.Instant.Text
import Querent.Proofs.Json.Grammar
import Querent.Proofs.Json.Numbers
import Querent.Proofs.Json.Passing
import Querent.Proofs.Json.Records
import Querent.Proofs.Json.Rendering
import Querent.Proofs.Message.Decoding
import Querent.Proofs.Response.Framing
import Querent.Proofs.Database.Introspection
import Querent.Proofs.Message.Payload
import Querent.Proofs.Schema.Insertion
import Querent.Proofs.Sqlite.Catalog
import Querent.Proofs.Sqlite.Introspection
import Querent.Proofs.Schema.Display
import Querent.Proofs.Schema.Serialization
import Querent.Proofs.Backend.Completion
import Querent.Proofs.Backend.Lookup
