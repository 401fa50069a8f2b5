import AtoService.Lib.KeyedList
import AtoService.Lib.Runs
import AtoService.Lib.Results
import AtoService.Lib.Sessions
import AtoService.Lib.Rows
import AtoService.Lib.LeaseQueue
import AtoService.Lib.PyText
import AtoService.Lib.Sha
import AtoService.Lib.JsonRoundTrip
import AtoService.Lib.JsonHook
import AtoService.Lib.JsonPointer
import AtoService.Lib.HashChain
import AtoService.Lib.FirstWins
import AtoService.Lib.KeyedMerge
import AtoService.Lib.TrimmedText
import AtoService.Lib.KeysetPages
import AtoService.Lib.Binary64
import AtoService.Lib.JsonAlike
import AtoService.Lib.Base64
import AtoService.Lib.JsonAscii
import AtoService.Lib.Windows
import AtoService.Lib.StrictPointer
import AtoService.Audit.Event
import AtoService.Audit.Verify
import AtoService.Audit.Encoding
import AtoService.Audit.Chain
import AtoService.Audit.Streaming
import AtoService.Listing.Pages
import AtoService.Listing.SharedCursors
import AtoService.Chat.Usage
import AtoService.Chat.History
import AtoService.Drafts.Provenance
import AtoService.Intake.MapLifecycle
import AtoService.Intake.ReduceFrame
import AtoService.Intake.MapResponse
import AtoService.Chat.CleanFailures
import AtoService.Drafts.ContextLoss
import AtoService.Writers.Payload
import AtoService.Export.Decisions
import AtoService.Intake.Contract
import AtoService.Jobs.Contract
import AtoService.Matrix.Completeness
import AtoService.Matrix.EvidenceCitations
import AtoService.Review.Etags
import AtoService.Review.Routing
import AtoService.Sealed.Sources
import AtoService.Search.Coverage
import AtoService.Search.Chunks
import AtoService.Workspace.Document
import AtoService.Workspace.Profiles
import AtoService.Workspace.SystemDefinition
import AtoService.Workspace.InformationTypes
import AtoService.Workspace.Policy
import AtoService.Workspace.Editing
import AtoService.Workspace.Diagram
import AtoService.Workspace.Migration
import AtoService.Workspace.Metrics
import AtoService.Workspace.Completion
import AtoService.Workspace.Evidence
import AtoService.Workspace.Persistence
import AtoService.Workspace.Service
import AtoService.Workspace.Routes
import AtoService.Workspace.Facts
import AtoService.Workspace.Edits
import AtoService.Workspace.Content
import AtoService.Workspace.Effects
import AtoService.Workspace.Requests
import AtoService.Workspace.System
import AtoService.Workspace.Safety
import AtoService.Workspace.Reproposal
import AtoService.Workspace.PatchFrame
import AtoService.Workspace.ModelOutput
import AtoService.Workspace.AgencyDocx
import AtoService.Workspace.AgencyTemplate
import AtoService.Workspace.AgencyPlan
import AtoService.Workspace.AgencyRender
import AtoService.Extraction.Rebuild
import AtoService.Storage.Finalize
import AtoService.Workspace.CarryOver
import AtoService.Workspace.Registers
import AtoService.Workspace.StoredPatch
import AtoService.Workspace.StoredProfiles
import AtoService.Workspace.OscalExport
import AtoService.Workspace.Generation
import AtoService.Workspace.Replay
import AtoService.Chat.PackageUsage
import AtoService.Matrix.CarriedAnswers
import AtoService.Analyzer.Drain
import AtoService.Search.Paging
import AtoService.Extraction.BoundedXml
import AtoService.Extraction.Relationships
import AtoService.Chat.Grounding
import AtoService.Extraction.Outcomes
import AtoService.Extraction.Bitmaps
import AtoService.Writers.MatrixTables
import AtoService.Auth.LoginStates
import AtoService.Review.ChangeAnalysis
import AtoService.Extraction.XmlText
import AtoService.Extraction.DocxBody
import AtoService.Lib.EventLogs
import AtoService.Auth.PortalSessions
import AtoService.Auth.Revocations
import AtoService.Storage.Blobs
import AtoService.Drafts.SegmentEvidence
import AtoService.Drafts.NormalizeProposals
import AtoService.Lib.IgnoreCase
import AtoService.Storage.Idempotency
import AtoService.Storage.ReplaySafe
import AtoService.Storage.Systems
