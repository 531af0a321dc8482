import DartTriggers.Main
import DartTriggers.Proofs.Check.Count
import DartTriggers.Proofs.Check.Errors
import DartTriggers.Proofs.Check.Modes
import DartTriggers.Proofs.Check.ReadBack
import DartTriggers.Proofs.Check.Reordered
import DartTriggers.Proofs.Check.Repeated
import DartTriggers.Proofs.Check.Reports
import DartTriggers.Proofs.Check.Text
import DartTriggers.Proofs.Command.Collision
import DartTriggers.Proofs.Command.Effect
import DartTriggers.Proofs.Command.Formatted
import DartTriggers.Proofs.Command.Generate
import DartTriggers.Proofs.Command.Init
import DartTriggers.Proofs.Command.Plan
import DartTriggers.Proofs.Command.Refusal
import DartTriggers.Proofs.Command.Settled
import DartTriggers.Proofs.Command.Stdout
import DartTriggers.Proofs.Command.Sum
import DartTriggers.Proofs.Command.Targets
import DartTriggers.Proofs.Config
import DartTriggers.Proofs.Dart.Accessors
import DartTriggers.Proofs.Dart.Composition
import DartTriggers.Proofs.Dart.Conflicts
import DartTriggers.Proofs.Dart.Keys
import DartTriggers.Proofs.Dart.Lines
import DartTriggers.Proofs.Dart.Printed
import DartTriggers.Proofs.Dart.Quoting
import DartTriggers.Proofs.Dart.Reloaded
import DartTriggers.Proofs.Dart.Shift
import DartTriggers.Proofs.Dart.SourceLines
import DartTriggers.Proofs.Dart.Spacing
import DartTriggers.Proofs.Dart.Unambiguous
import DartTriggers.Proofs.Descriptor.Collected
import DartTriggers.Proofs.Descriptor.Normal
import DartTriggers.Proofs.Descriptor.RoundTrip
import DartTriggers.Proofs.Descriptor.Shape
import DartTriggers.Proofs.FileTree.Access
import DartTriggers.Proofs.FileTree.Change
import DartTriggers.Proofs.FileTree.Creation
import DartTriggers.Proofs.FileTree.Directories
import DartTriggers.Proofs.FileTree.Kept
import DartTriggers.Proofs.FileTree.Kind
import DartTriggers.Proofs.FileTree.Route
import DartTriggers.Proofs.FileTree.Same
import DartTriggers.Proofs.FileTree.Spelled
import DartTriggers.Proofs.FileTree.Walk
import DartTriggers.Proofs.Json.Alternatives
import DartTriggers.Proofs.Json.Fields
import DartTriggers.Proofs.Json.Grammar
import DartTriggers.Proofs.Json.Integers
import DartTriggers.Proofs.Json.Invariants
import DartTriggers.Proofs.Json.Numbers
import DartTriggers.Proofs.Json.Objects
import DartTriggers.Proofs.Json.Reading
import DartTriggers.Proofs.Json.Records
import DartTriggers.Proofs.Json.Skipping
import DartTriggers.Proofs.Json.Spelling
import DartTriggers.Proofs.Json.Values
import DartTriggers.Proofs.Json.Written
import DartTriggers.Proofs.Log.Outputs
import DartTriggers.Proofs.Toolbox.Process
import DartTriggers.Proofs.Toolbox.Readers
import DartTriggers.Proofs.Toolbox.Runner
import DartTriggers.Proofs.UnitName
import DartTriggers.Proofs.WriteUnit
