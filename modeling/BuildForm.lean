import BuildForm.Rule.Basic
import BuildForm.Text.Search
import BuildForm.Text.Numeral
import BuildForm.Text.Utf8
import BuildForm.Schedule.Basic
import BuildForm.Record.Scm
import BuildForm.Record.Configuration
import BuildForm.Document.Json.Reader
import BuildForm.Document.Json.Writer
import BuildForm.Document.Format
import BuildForm.Page.Query
import BuildForm.Form.Field
import BuildForm.Form.FieldPath
import BuildForm.Form.HiddenList
import BuildForm.Document.Records
import BuildForm.Form.Selection
import BuildForm.Form.Machines
import BuildForm.Form.Users
import BuildForm.Form.Views
import BuildForm.Form.Gate
import BuildForm.Service.Request
import BuildForm.Service.Tree
import BuildForm.Service.Directory
import BuildForm.Page.Action
import BuildForm.Page.Gesture
import BuildForm.Service.Wire
import BuildForm.Screen.Draw
import BuildForm.Main
import BuildForm.Proofs.Record.Table
import BuildForm.Proofs.Document.JsonText
import BuildForm.Proofs.Document.RecordValues
import BuildForm.Proofs.Document.Writing
import BuildForm.Proofs.Service.TreeWrite
import BuildForm.Proofs.Service.Storing
import BuildForm.Proofs.Service.Ledger
import BuildForm.Proofs.Service.Refinement
import BuildForm.Proofs.Form.Difference
import BuildForm.Proofs.Service.Approval
import BuildForm.Proofs.Form.Step
import BuildForm.Proofs.Form.Check
import BuildForm.Proofs.Form.Content
import BuildForm.Proofs.Page.Triple
import BuildForm.Proofs.Page.Steps
import BuildForm.Proofs.Page.Gestures
import BuildForm.Proofs.Page.Opening
import BuildForm.Proofs.Page.Reopening
import BuildForm.Proofs.Form.Typed
import BuildForm.Proofs.Form.Lasting
import BuildForm.Proofs.Form.Reopen
import BuildForm.Proofs.Form.Settled
import BuildForm.Proofs.Page.Checked
import BuildForm.Proofs.Page.ReadOnly
import BuildForm.Proofs.Page.Comparison
import BuildForm.Proofs.Page.Approving
import BuildForm.Proofs.Form.Schedules
import BuildForm.Proofs.Page.Moves
import BuildForm.Proofs.Page.Dispatching
import BuildForm.Proofs.Page.Loading
import BuildForm.Proofs.Page.Submitted
import BuildForm.Proofs.Form.Identity
import BuildForm.Proofs.Page.ByMode
import BuildForm.Proofs.Page.Judged
import BuildForm.Proofs.Service.Sharing
import BuildForm.Proofs.Page.Overwriting
import BuildForm.Proofs.Form.Marks
import BuildForm.Proofs.Page.Outcomes
import BuildForm.Proofs.Service.Naming
import BuildForm.Proofs.Page.Creating
import BuildForm.Proofs.Form.Filling
import BuildForm.Proofs.Page.HalfLoaded
import BuildForm.Proofs.Page.Retrying
import BuildForm.Proofs.Page.Resending
import BuildForm.Proofs.Form.NeverReused
import BuildForm.Proofs.Command.Flags
import BuildForm.Proofs.Command.Editing
import BuildForm.Proofs.Command.Reporting
import BuildForm.Proofs.Form.Folders
import BuildForm.Proofs.Page.HandedViews
import BuildForm.Proofs.Page.Lineage
import BuildForm.Proofs.Service.Isolation
import BuildForm.Proofs.Page.Script
import BuildForm.Proofs.Page.Notices
import BuildForm.Proofs.Page.Arising
import BuildForm.Proofs.Form.Checking
import BuildForm.Proofs.Page.Objections
import BuildForm.Proofs.Screen.Reading
import BuildForm.Proofs.Screen.Changes
import BuildForm.Proofs.Page.ChangedMachines
import BuildForm.Proofs.Form.Mirroring
import BuildForm.Proofs.Form.HiddenList
import BuildForm.Proofs.Form.Highlight
import BuildForm.Proofs.Form.Checkboxes
import BuildForm.Proofs.Page.Query
import BuildForm.Proofs.Schedule.Items
import BuildForm.Proofs.Schedule.Language
import BuildForm.Proofs.Pattern.CharSet
import BuildForm.Proofs.Pattern.Matching
import BuildForm.Proofs.Pattern.Derived
import BuildForm.Proofs.Text.Numeral
import BuildForm.Proofs.Form.ElementNames
import BuildForm.Proofs.Rule.Remote
import BuildForm.Proofs.Rule.Folders
import BuildForm.Proofs.Rule.AntPaths
import BuildForm.Proofs.Rule.Mail
import BuildForm.Proofs.Rule.MailList
import BuildForm.Proofs.Page.Altering
import BuildForm.Proofs.Page.Closed
import BuildForm.Proofs.Page.SwitchedOff
import BuildForm.Proofs.Form.Honest
import BuildForm.Proofs.Page.Indicators
import BuildForm.Proofs.Form.Independence
import BuildForm.Proofs.Page.Adding
import BuildForm.Proofs.Page.Failing
