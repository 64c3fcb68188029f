import Ballroom.Documents
import Ballroom.Service
import Ballroom.Settings.Memory
import Ballroom.Store.Memory
import Ballroom.Proofs.Library.Agreement
import Ballroom.Proofs.Filter.Rows
import Ballroom.Proofs.Library.Loading
import Ballroom.Proofs.Library.RecordNumbers
import Ballroom.Proofs.Store.Allocation
import Ballroom.Proofs.Library.Restart
import Ballroom.Proofs.Library.LastWrites
import Ballroom.Proofs.Record.Rereading
import Ballroom.Proofs.Library.FailedWrites
import Ballroom.Proofs.SortKey
import Ballroom.Proofs.Store.Batches
import Ballroom.Proofs.Library.Batches
import Ballroom.Proofs.Filter.Freshness
import Ballroom.Proofs.Library.HeldOpen
import Ballroom.Proofs.Store.CallOrder
import Ballroom.Proofs.Library.Readable
import Ballroom.Proofs.Record.Framing
import Ballroom.Proofs.Library.Temporary
import Ballroom.Proofs.Store.Panics
import Ballroom.Proofs.Store.Sharing
import Ballroom.Proofs.Library.Sharing
import Ballroom.Proofs.Filter.Conditions
import Ballroom.Proofs.Calendar.Date
import Ballroom.Proofs.Calendar.Reading
import Ballroom.Proofs.KeyOrder
import Ballroom.Proofs.AddDate
import Ballroom.Proofs.Filter.Playlists
import Ballroom.Proofs.Library.Refresh
import Ballroom.Proofs.Library.SlotWrites
import Ballroom.Proofs.Record.Grammar
import Ballroom.Proofs.Store.Reopening
import Ballroom.Proofs.Store.SlotSizes
import Ballroom.Proofs.Settings.Saving
import Ballroom.Proofs.Visibility
import Ballroom.Proofs.Json.Escaping
import Ballroom.Proofs.Json.Members
import Ballroom.Proofs.Json.Numbers
import Ballroom.Proofs.Json.Reading
import Ballroom.Proofs.Json.RoundTrip
import Ballroom.Proofs.Settings.Restart
