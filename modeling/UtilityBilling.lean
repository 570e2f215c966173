import UtilityBilling.Main
import UtilityBilling.Proofs.Table.LastRequest
import UtilityBilling.Proofs.Table.InStep
import UtilityBilling.Proofs.Api.Confinement
import UtilityBilling.Proofs.Api.SingleLogout
import UtilityBilling.Proofs.Api.SessionLife
import UtilityBilling.Proofs.Api.Overtaken
import UtilityBilling.Proofs.Task.Supersession
import UtilityBilling.Proofs.Json.Records
import UtilityBilling.Proofs.Json.Ink
import UtilityBilling.Proofs.Task.Checks
import UtilityBilling.Proofs.Task.ErrorText
import UtilityBilling.Proofs.Task.Phases
import UtilityBilling.Proofs.Task.Completion
import UtilityBilling.Proofs.Task.Work
import UtilityBilling.Proofs.Task.Tracking
import UtilityBilling.Proofs.Task.InTime
import UtilityBilling.Proofs.Table.InTime
import UtilityBilling.Proofs.Files.Whole
import UtilityBilling.Proofs.Console.Saving
import UtilityBilling.Proofs.Console.ForeignSession
import UtilityBilling.Proofs.Api.Restarts
import UtilityBilling.Proofs.Table.Closing
import UtilityBilling.Proofs.Table.Shown
import UtilityBilling.Proofs.Table.Steering
import UtilityBilling.Proofs.Console.SignIn
import UtilityBilling.Proofs.Table.Paging
import UtilityBilling.Proofs.Table.Stopping
import UtilityBilling.Proofs.Table.DelayedSearch
import UtilityBilling.Proofs.Console.Browsing
import UtilityBilling.Proofs.Table.Tickets
import UtilityBilling.Proofs.Console.FileName
import UtilityBilling.Proofs.Task.Parameters
import UtilityBilling.Proofs.Api.StatusAddress
import UtilityBilling.Proofs.Api.Refusals
import UtilityBilling.Proofs.Table.Parameters
import UtilityBilling.Proofs.Table.Ignored
import UtilityBilling.Proofs.Table.Pager
import UtilityBilling.Proofs.Table.Sorting
import UtilityBilling.Proofs.Api.Endpoint
import UtilityBilling.Proofs.Console.Commands
import UtilityBilling.Proofs.Grid.Frames
