import CloudCanvas.Canvas.Reader
import CloudCanvas.Canvas.Snapshot
import CloudCanvas.Catalog.Integrity
import CloudCanvas.Catalog.Intent
import CloudCanvas.Catalog.VisualType
import CloudCanvas.Compilation
import CloudCanvas.Configuration
import CloudCanvas.Document.Reader
import CloudCanvas.Naming
import CloudCanvas.Payload.Draft
import CloudCanvas.Payload.Reader
import CloudCanvas.Plan.Build
import CloudCanvas.Plan.Prompt
import CloudCanvas.Service.Handler
import CloudCanvas.Service.Startup
import CloudCanvas.Settings.Normalize
import CloudCanvas.Transport.Autosave
import CloudCanvas.Transport.Client
import CloudCanvas.Transport.Sequencer
import CloudCanvas.Validation.Validate
import CloudCanvas.Proofs.Canvas.Reader
import CloudCanvas.Proofs.Compilation.BucketEvents
import CloudCanvas.Proofs.Compilation.BucketName
import CloudCanvas.Proofs.Compilation.Edges
import CloudCanvas.Proofs.Compilation.Gate
import CloudCanvas.Proofs.Compilation.Names
import CloudCanvas.Proofs.Compilation.NodeRegion
import CloudCanvas.Proofs.Compilation.PhysicalName
import CloudCanvas.Proofs.Compilation.Rearranged
import CloudCanvas.Proofs.Compilation.Region
import CloudCanvas.Proofs.Compilation.WireEdges
import CloudCanvas.Proofs.Number.Rounding
import CloudCanvas.Proofs.Number.Text
import CloudCanvas.Proofs.Payload.CanonicalText
import CloudCanvas.Proofs.Payload.Nodes
import CloudCanvas.Proofs.Payload.Reader
import CloudCanvas.Proofs.Plan.Lookup
import CloudCanvas.Proofs.Settings.Normalize
import CloudCanvas.Proofs.Settings.Projection
import CloudCanvas.Proofs.Transport.Autosave
import CloudCanvas.Proofs.Transport.AutosaveDecision
import CloudCanvas.Proofs.Transport.CurrentToken
import CloudCanvas.Proofs.Transport.Sequencer
import CloudCanvas.Proofs.Compilation.NodeOrder
import CloudCanvas.Proofs.Text.Split
import CloudCanvas.Proofs.Document.Lines
import CloudCanvas.Proofs.Plan.Prompt
import CloudCanvas.Proofs.Payload.Writable
import CloudCanvas.Proofs.Service.Agreement
import CloudCanvas.Proofs.Compilation.Snapshot
import CloudCanvas.Proofs.Service.Delivery
import CloudCanvas.Proofs.Service.Log
import CloudCanvas.Proofs.Transport.Client
import CloudCanvas.Proofs.Plan.Refusal
import CloudCanvas.Proofs.Settings.Origin
import CloudCanvas.Proofs.Validation.BucketLabel
import CloudCanvas.Proofs.Plan.VariableTable
import CloudCanvas.Proofs.Compilation.VariableNames
import CloudCanvas.Proofs.Document.Room
import CloudCanvas.Proofs.Transport.Reply
import CloudCanvas.Proofs.Transport.ReplyMessage
import CloudCanvas.Proofs.Transport.ErrorMessage
import CloudCanvas.Proofs.Validation.Complete
import CloudCanvas.Proofs.Compilation.Unmodelled
import CloudCanvas.Proofs.Plan.EdgeProps
import CloudCanvas.Proofs.Catalog.Integrity
import CloudCanvas.Proofs.Naming.Sequence
import CloudCanvas.Proofs.Settings.Number
import CloudCanvas.Proofs.Compilation.Retyped
