import Homescreen.Text.Blank
import Homescreen.Text.Literal
import Homescreen.Decimal.Shortest
import Homescreen.Decimal.Layout
import Homescreen.Json.Value
import Homescreen.Json.Problem
import Homescreen.Json.Cursor
import Homescreen.Json.Quoted
import Homescreen.Json.Numeral
import Homescreen.Json.Container
import Homescreen.Json.Read
import Homescreen.Json.Record
import Homescreen.Json.Write
import Homescreen.Fault
import Homescreen.Config.Basic
import Homescreen.Config.Json
import Homescreen.Platform
import Homescreen.Refresh
import Homescreen.Registration
import Homescreen.Install.Choice
import Homescreen.Install.Prompt
import Homescreen.Install.Session
import Homescreen.Controls
import Homescreen.Bootstrap
import Homescreen.Proofs.Json.Reading
import Homescreen.Proofs.Json.RecordRoundTrip
import Homescreen.Proofs.Config.Documents
import Homescreen.Proofs.Config.WorkerScript
import Homescreen.Proofs.Install.History
import Homescreen.Proofs.Install.Sessions
import Homescreen.Proofs.Install.Clicks
import Homescreen.Proofs.Config.Validation
import Homescreen.Proofs.IosAgent
import Homescreen.Proofs.Json.Texts
import Homescreen.Proofs.Json.Tokens
import Homescreen.Proofs.Json.Skipping
import Homescreen.Proofs.Json.Entries
import Homescreen.Proofs.Json.RecordTexts
import Homescreen.Proofs.Json.Drafts
import Homescreen.Proofs.Config.Objects
import Homescreen.Proofs.PageScripts
import Homescreen.Proofs.WorkerRegistration
import Homescreen.Proofs.Install.ChoiceDocuments
