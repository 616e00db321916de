import DecoratorGraph.Script.Reader
import DecoratorGraph.Extraction
import DecoratorGraph.Pattern.Reader
import DecoratorGraph.Drawing.Dot
import DecoratorGraph.Drawing.Html
import DecoratorGraph.Json.Basic
import DecoratorGraph.Decimal.Shortest
import DecoratorGraph.Json.Record
import DecoratorGraph.Drawing.Options
import DecoratorGraph.Analysis
import DecoratorGraph.ParseStore.Encoding
import DecoratorGraph.Drawing.Artifacts
import DecoratorGraph.Shell.Run
import DecoratorGraph.CommandLine.Run
import DecoratorGraph.Main
import DecoratorGraph.Proofs.FileTree.Walk
import DecoratorGraph.Proofs.FileTree.Listing
import DecoratorGraph.Proofs.Extraction.Relocation
import DecoratorGraph.Proofs.Extraction.Outcome
import DecoratorGraph.Proofs.FileTree.Writing
import DecoratorGraph.Proofs.FileTree.Directories
import DecoratorGraph.Proofs.ParseStore.RoundTrip
import DecoratorGraph.Proofs.ParseStore.Slots
import DecoratorGraph.Proofs.ParseStore.Ledger
import DecoratorGraph.Proofs.ParseStore.Answers
import DecoratorGraph.Proofs.Analysis.Alike
import DecoratorGraph.Proofs.Analysis.Runs
import DecoratorGraph.Proofs.Analysis.Loading
import DecoratorGraph.Proofs.Analysis.Transparency
import DecoratorGraph.Proofs.Analysis.Interleaving
import DecoratorGraph.Proofs.Graph.Ids
import DecoratorGraph.Proofs.Graph.Construction
import DecoratorGraph.Proofs.Graph.Identification
import DecoratorGraph.Proofs.Graph.ReadBack
import DecoratorGraph.Proofs.Text.Pieces
import DecoratorGraph.Proofs.Json.Lexemes
import DecoratorGraph.Proofs.Json.Value
import DecoratorGraph.Proofs.Json.Document
import DecoratorGraph.Proofs.Drawing.Reading
import DecoratorGraph.Proofs.Drawing.Splicing
import DecoratorGraph.Proofs.Analysis.Strictness
import DecoratorGraph.Proofs.ParseStore.Detection
import DecoratorGraph.Proofs.Text.Substitution
import DecoratorGraph.Proofs.Drawing.Filling
import DecoratorGraph.Proofs.Script.Classes
import DecoratorGraph.Proofs.Analysis.Independence
import DecoratorGraph.Proofs.Text.ByteOrder
import DecoratorGraph.Proofs.FileTree.SourceNames
import DecoratorGraph.Proofs.FileTree.DepthFirst
import DecoratorGraph.Proofs.FileTree.Sources
import DecoratorGraph.Proofs.FileTree.Changes
import DecoratorGraph.Proofs.Drawing.Stages
import DecoratorGraph.Proofs.Analysis.Footprint
import DecoratorGraph.Proofs.Analysis.RecordedPaths
import DecoratorGraph.Proofs.CommandLine.Output
import DecoratorGraph.Proofs.Script.Escapes
import DecoratorGraph.Proofs.Script.MalformedEscapes
import DecoratorGraph.Proofs.Script.SurrogateHalves
import DecoratorGraph.Proofs.Script.LineEnds
import DecoratorGraph.Proofs.Extraction.Categories
import DecoratorGraph.Proofs.Extraction.CallEntries
import DecoratorGraph.Proofs.FileTree.Spellings
import DecoratorGraph.Proofs.ParseStore.Memory
import DecoratorGraph.Proofs.Analysis.Repetition
import DecoratorGraph.Proofs.Drawing.Colors
import DecoratorGraph.Proofs.Drawing.Layers
import DecoratorGraph.Proofs.Text.Occurrences
import DecoratorGraph.Proofs.Drawing.Markup
import DecoratorGraph.Proofs.FileTree.Confinement
import DecoratorGraph.Proofs.Drawing.Destinations
import DecoratorGraph.Proofs.Json.Strings
import DecoratorGraph.Proofs.Json.Grammar
import DecoratorGraph.Proofs.Json.AnyLayout
import DecoratorGraph.Proofs.Drawing.OptionsText
