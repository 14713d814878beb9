import MizanSDK.Library.BoundedRetry
import MizanSDK.Library.Checks
import MizanSDK.Library.Decimal
import MizanSDK.Library.JsonText
import MizanSDK.Library.Tally
import MizanSDK.Library.Bindings
import MizanSDK.Library.Bytes
import MizanSDK.Library.CompactJson
import MizanSDK.Library.Trim
import MizanSDK.Go.Runtime
import MizanSDK.Go.Requests
import MizanSDK.Go.Client
import MizanSDK.Go.Methods
import MizanSDK.Go.AttemptLoop
import MizanSDK.Go.Replay
import MizanSDK.Go.RetryDecision
import MizanSDK.Library.LastWins
import MizanSDK.Library.Slices
import MizanSDK.Go.Webhooks
import MizanSDK.Go.Acknowledgement
import MizanSDK.Go.Backoff
import MizanSDK.Go.FileInbox
import MizanSDK.Go.Usage
import MizanSDK.Go.Binding
import MizanSDK.Python.Runtime
import MizanSDK.Python.Client
import MizanSDK.Python.Methods
import MizanSDK.Python.AttemptLoop
import MizanSDK.Python.Replay
import MizanSDK.Python.Webhooks
import MizanSDK.Python.Acknowledgement
import MizanSDK.Python.SQLiteInbox
import MizanSDK.Python.Builders
import MizanSDK.Python.Binding
import MizanSDK.Agreement.Answers
import MizanSDK.Agreement.Clients
import MizanSDK.Agreement.Amounts
import MizanSDK.Agreement.Members
import MizanSDK.Agreement.Ledger
import MizanSDK.Agreement.Notifications
import MizanSDK.Agreement.Webhooks
import MizanSDK.Agreement.Postings
import MizanSDK.Agreement.Credentials
import MizanSDK.Agreement.Inboxes
import MizanSDK.Agreement.UsageFacts
import MizanSDK.Agreement.Charges
import MizanSDK.Agreement.Metadata
import MizanSDK.Agreement.Usage
import MizanSDK.Go.ServeHTTP
import MizanSDK.Agreement.ExactRequests
import MizanSDK.Agreement.OverLimit
import MizanSDK.Agreement.TextLengths
import MizanSDK.Python.Payloads
import MizanSDK.Library.Routes
import MizanSDK.Agreement.RequestPaths
import MizanSDK.Go.LetterCase
import MizanSDK.Go.SettledBodies
import MizanSDK.Go.ExactReading
import MizanSDK.Go.Merging
import MizanSDK.Python.Merging
import MizanSDK.Agreement.Merging
import MizanSDK.Go.BaseURL
import MizanSDK.Python.BaseURL
import MizanSDK.Agreement.BaseURLs
import MizanSDK.Library.Assignments
import MizanSDK.Go.TypedJson
import MizanSDK.Go.TypedValues
import MizanSDK.Go.Reformatting
import MizanSDK.Go.MapOrder
import MizanSDK.Go.Results
import MizanSDK.Go.Quantities
import MizanSDK.Agreement.CanonicalAmounts
import MizanSDK.Agreement.Numerals
import MizanSDK.Agreement.Destinations
import MizanSDK.Library.Idempotency
import MizanSDK.Library.Deliveries
import MizanSDK.Go.Sessions
import MizanSDK.Python.Sessions
import MizanSDK.Go.InboxServer
import MizanSDK.Python.InboxServer
import MizanSDK.Library.Journal
import MizanSDK.Go.Marshal
import MizanSDK.Go.RequestBodies
import MizanSDK.Go.Lifecycle
import MizanSDK.Python.Lifecycle
import MizanSDK.Agreement.Failures
import MizanSDK.Agreement.Lifecycle
import MizanSDK.Library.FormQuery
import MizanSDK.Agreement.Queries
import MizanSDK.Library.CursorPaging
import MizanSDK.Go.LedgerExport
import MizanSDK.Python.LedgerExport
import MizanSDK.Agreement.LedgerPages
import MizanSDK.Agreement.LedgerExports
import MizanSDK.Library.Workflow
import MizanSDK.Go.EndToEnd
import MizanSDK.Python.EndToEnd
