import Workbench.Main
import Workbench.Tree.Deposit
import Workbench.Proofs.Dictionary
import Workbench.Proofs.Path.Segments
import Workbench.Proofs.Path.Lexical
import Workbench.Proofs.Workspace.Containment
import Workbench.Proofs.Tree.Access
import Workbench.Proofs.Tree.Following
import Workbench.Proofs.Tree.Linkless
import Workbench.Proofs.Tree.Scope
import Workbench.Proofs.Tree.Alike
import Workbench.Proofs.Text.Pieces
import Workbench.Proofs.Text.Words
import Workbench.Proofs.Text.Decimal
import Workbench.Proofs.Text.Encoding
import Workbench.Proofs.Splice.Untouched
import Workbench.Proofs.Command.Registration
import Workbench.Proofs.Command.Sorting
import Workbench.Proofs.Command.Allotment
import Workbench.Proofs.Command.Forms
import Workbench.Proofs.Command.Arrangement
import Workbench.Proofs.Command.Scanning
import Workbench.Proofs.Command.Spelling
import Workbench.Proofs.Tool.Reach
import Workbench.Proofs.Tool.Edit
import Workbench.Proofs.Session.Turns
import Workbench.Proofs.Session.WriteConfinement
import Workbench.Proofs.Session.ReadConfinement
import Workbench.Proofs.Session.Typing
import Workbench.Proofs.Command.Completion
import Workbench.Proofs.Command.Block
import Workbench.Proofs.Command.Requirements
import Workbench.Proofs.Command.Naming
import Workbench.Proofs.Command.Awaiting
import Workbench.Proofs.Session.Segments
import Workbench.Proofs.Session.Feeding
import Workbench.Proofs.Session.Transcript
import Workbench.Proofs.Command.History
import Workbench.Proofs.Session.Ending
import Workbench.Proofs.Session.Routing
import Workbench.Proofs.Session.Dispatch
import Workbench.Proofs.Memory.Sharing
import Workbench.Proofs.Memory.Histories
import Workbench.Proofs.Session.Calls
import Workbench.Proofs.Session.View
import Workbench.Proofs.Session.Keeping
import Workbench.Proofs.Guarded.Registry
import Workbench.Proofs.Command.Sizes
import Workbench.Proofs.Guarded.Reader
import Workbench.Proofs.Guarded.Lines
import Workbench.Proofs.Guarded.Viewer
import Workbench.Proofs.Guarded.Calls
import Workbench.Proofs.Workspace.Resolution
import Workbench.Proofs.Command.Acceptance
import Workbench.Proofs.Command.Documentation
import Workbench.Proofs.Search.Hits
import Workbench.Proofs.Tool.Finding
import Workbench.Proofs.Session.Finding
import Workbench.Proofs.Workspace.Display
import Workbench.Proofs.Command.Quoting
import Workbench.Proofs.Splice.Renumbering
import Workbench.Proofs.Tool.Editing
import Workbench.Proofs.Window.Listing
import Workbench.Proofs.Window.Showing
import Workbench.Proofs.Window.Request
import Workbench.Proofs.Window.Scrolling
import Workbench.Proofs.Window.Sweeping
import Workbench.Proofs.Window.Leaving
import Workbench.Proofs.Search.BreakingOff
import Workbench.Proofs.Tree.Passing
import Workbench.Proofs.Tree.Leading
import Workbench.Proofs.Tree.Making
import Workbench.Proofs.Tree.Gaining
import Workbench.Proofs.Tool.Creating
import Workbench.Proofs.Tree.Walking
import Workbench.Proofs.Search.Agreement
import Workbench.Proofs.Command.Cutting
import Workbench.Proofs.Search.Order
import Workbench.Proofs.Search.Narrowing
