import OnecRuntime.Library.Bisect
import OnecRuntime.Library.Tiling
import OnecRuntime.Library.Fallible
import OnecRuntime.Library.Dictionary
import OnecRuntime.Library.Transitions
import OnecRuntime.SourceMaps.Segments
import OnecRuntime.SourceMaps.Lookup
import OnecRuntime.SourceMaps.Coalesce
import OnecRuntime.SourceMaps.Compose
import OnecRuntime.SourceMaps.Provenance
import OnecRuntime.SourceMaps.Composition
import OnecRuntime.SourceMaps.Reused
import OnecRuntime.SourceMaps.Retained
import OnecRuntime.SourceMaps.Transform
import OnecRuntime.SourceMaps.Pipeline
import OnecRuntime.Reload.LineEndings
import OnecRuntime.Reload.Compact
import OnecRuntime.Reload.Oracle
import OnecRuntime.Reload.Placement
import OnecRuntime.Reload.Evaluation
import OnecRuntime.Reload.Projector
import OnecRuntime.Reload.Layout
import OnecRuntime.Reload.Agreement
import OnecRuntime.Reload.Materialization
import OnecRuntime.Reload.Section
import OnecRuntime.Registry.Manifest
import OnecRuntime.Registry.State
import OnecRuntime.Registry.Lifecycle
import OnecRuntime.Registry.Invariant
import OnecRuntime.Registry.Preservation
import OnecRuntime.Registry.Releases
import OnecRuntime.Registry.Runs
import OnecRuntime.Publication.Target
import OnecRuntime.Publication.Server
import OnecRuntime.Publication.Steps
import OnecRuntime.Publication.Effects
import OnecRuntime.Publication.Coherence
import OnecRuntime.Publication.Agreement
import OnecRuntime.Publication.RootLaw
import OnecRuntime.Publication.Tokens
import OnecRuntime.Publication.Settlement
import OnecRuntime.Library.Numerals
import OnecRuntime.Library.Utf16
import OnecRuntime.Library.Base64
import OnecRuntime.Library.Json
import OnecRuntime.Library.Lines
import OnecRuntime.Container.Codec
import OnecRuntime.Container.Layout
import OnecRuntime.Container.RoundTrip
import OnecRuntime.Tables.Cells
import OnecRuntime.Tables.Serializer
import OnecRuntime.Tables.Decoder
import OnecRuntime.Tables.Rows
import OnecRuntime.Tables.Schema
import OnecRuntime.Tables.RoundTrip
import OnecRuntime.Operations.RunLaw
import OnecRuntime.Settlement.RunLaw
import OnecRuntime.Main.RunLaw
import OnecRuntime.Proxies.RunLaw
import OnecRuntime.Delta.Hunks
import OnecRuntime.Universe.Construction
import OnecRuntime.Arbiter.OrderLaw
import OnecRuntime.WorkerStage.OutcomeLaw
import OnecRuntime.Tables.Numbers
import OnecRuntime.Bsl.Lexer
import OnecRuntime.Bsl.Syntax
import OnecRuntime.Projection.Exactness
import OnecRuntime.Materialization.DebtLaw
import OnecRuntime.Transfer.Reassembly
import OnecRuntime.Breakpoints.ResolutionLaw
import OnecRuntime.Inspection.PagingLaw
import OnecRuntime.Files.NetLaw
import OnecRuntime.Transport.BoundedInput
import OnecRuntime.Transport.FrameLaw
import OnecRuntime.Editor.Completion
import OnecRuntime.Contexts.Fencing
import OnecRuntime.Privacy.Disclosure
import OnecRuntime.Preprocessor.LineEnds
import OnecRuntime.Diagnostics.Coverage
import OnecRuntime.Capture.PlainModules
import OnecRuntime.Correlation.RunLaw
import OnecRuntime.Writeback.Law
