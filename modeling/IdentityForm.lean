import IdentityForm.Backend.Request
import IdentityForm.Backend.Response
import IdentityForm.Backend.Token
import IdentityForm.Credentials
import IdentityForm.Date
import IdentityForm.Element
import IdentityForm.Entry
import IdentityForm.Failure
import IdentityForm.Fields
import IdentityForm.File
import IdentityForm.Files
import IdentityForm.Form
import IdentityForm.Image.Preview
import IdentityForm.Json.Parser
import IdentityForm.Json.Printer
import IdentityForm.Json.Reader
import IdentityForm.Kind
import IdentityForm.Link
import IdentityForm.Notice
import IdentityForm.Proofs.Accounting
import IdentityForm.Proofs.Agreement
import IdentityForm.Proofs.Apart
import IdentityForm.Proofs.Arrival
import IdentityForm.Proofs.Background
import IdentityForm.Proofs.Background.Drive
import IdentityForm.Proofs.Buffer
import IdentityForm.Proofs.Carried
import IdentityForm.Proofs.Clock
import IdentityForm.Proofs.Clock.Run
import IdentityForm.Proofs.Clock.Stands
import IdentityForm.Proofs.Closed
import IdentityForm.Proofs.Commit
import IdentityForm.Proofs.Committed
import IdentityForm.Proofs.Contents
import IdentityForm.Proofs.Countdown
import IdentityForm.Proofs.Countdown.Calls
import IdentityForm.Proofs.Credentials
import IdentityForm.Proofs.Credentials.Calls
import IdentityForm.Proofs.Date
import IdentityForm.Proofs.Date.Reread
import IdentityForm.Proofs.Deadlines
import IdentityForm.Proofs.Downloads
import IdentityForm.Proofs.Drafts
import IdentityForm.Proofs.Echo
import IdentityForm.Proofs.Edits
import IdentityForm.Proofs.Elsewhere
import IdentityForm.Proofs.Exclusion
import IdentityForm.Proofs.Gate
import IdentityForm.Proofs.Household
import IdentityForm.Proofs.Inquiry
import IdentityForm.Proofs.Isolation
import IdentityForm.Proofs.Json.Parsing
import IdentityForm.Proofs.Json.Reading
import IdentityForm.Proofs.Json.Spelling
import IdentityForm.Proofs.Ledger
import IdentityForm.Proofs.Link
import IdentityForm.Proofs.Lookup
import IdentityForm.Proofs.Mirror
import IdentityForm.Proofs.Move
import IdentityForm.Proofs.Move.Basic
import IdentityForm.Proofs.Move.Editing
import IdentityForm.Proofs.Move.Step
import IdentityForm.Proofs.Move.Unlock
import IdentityForm.Proofs.Move.Verifying
import IdentityForm.Proofs.Opening
import IdentityForm.Proofs.Outstanding
import IdentityForm.Proofs.Password
import IdentityForm.Proofs.Polling
import IdentityForm.Proofs.Prompting
import IdentityForm.Proofs.Reading
import IdentityForm.Proofs.Received
import IdentityForm.Proofs.Refusals
import IdentityForm.Proofs.Rejections
import IdentityForm.Proofs.Renumbering
import IdentityForm.Proofs.Renumbering.Operations
import IdentityForm.Proofs.Replacement
import IdentityForm.Proofs.Replies
import IdentityForm.Proofs.Requested
import IdentityForm.Proofs.Requirements
import IdentityForm.Proofs.Restart
import IdentityForm.Proofs.Room
import IdentityForm.Proofs.Run
import IdentityForm.Proofs.Scopes
import IdentityForm.Proofs.Sent
import IdentityForm.Proofs.Showing
import IdentityForm.Proofs.Shown
import IdentityForm.Proofs.Shown.Run
import IdentityForm.Proofs.Since
import IdentityForm.Proofs.Slots
import IdentityForm.Proofs.Spots
import IdentityForm.Proofs.Standing
import IdentityForm.Proofs.Standing.Advance
import IdentityForm.Proofs.Submission
import IdentityForm.Proofs.Submitted
import IdentityForm.Proofs.Submitting
import IdentityForm.Proofs.Text.Digits
import IdentityForm.Proofs.Text.Percent
import IdentityForm.Proofs.Text.White
import IdentityForm.Proofs.Transfers
import IdentityForm.Proofs.Unchanged
import IdentityForm.Proofs.Unreported
import IdentityForm.Proofs.Upkeep
import IdentityForm.Proofs.Upkeep.Operations
import IdentityForm.Proofs.Uploads
import IdentityForm.Proofs.Uploads.News
import IdentityForm.Proofs.Uploads.Run
import IdentityForm.Proofs.Verified
import IdentityForm.Proofs.WholeError
import IdentityForm.Proofs.Wire
import IdentityForm.Proofs.Wire.Element
import IdentityForm.Proofs.Wire.Response
import IdentityForm.Role
import IdentityForm.Scope
import IdentityForm.Session.Attachments
import IdentityForm.Session.Basic
import IdentityForm.Session.Clock
import IdentityForm.Session.Closing
import IdentityForm.Session.Editing
import IdentityForm.Session.Pump
import IdentityForm.Session.Step
import IdentityForm.Session.Unlock
import IdentityForm.Session.Verifying
import IdentityForm.Settings
import IdentityForm.Text.White
import IdentityForm.Wire.Element
import IdentityForm.Wire.Notice
import IdentityForm.Wire.Request
import IdentityForm.Wire.Response
