import CppModel.Command.Run
import CppModel.Main
import CppModel.Proofs.Sink.Locality
import CppModel.Proofs.Sink.Paragraphs
import CppModel.Proofs.Rendering.Shape
import CppModel.Proofs.Rendering.Forms
import CppModel.Proofs.Procedure.Basic
import CppModel.Proofs.Procedure.Elements
import CppModel.Proofs.Procedure.Classes
import CppModel.Proofs.Procedure.Units
import CppModel.Proofs.Procedure.AllOrNothing
import CppModel.Proofs.Validation.Elements
import CppModel.Proofs.Validation.Classes
import CppModel.Proofs.Validation.Definables
import CppModel.Proofs.Config.Building
import CppModel.Proofs.Validation.Models
import CppModel.Proofs.Scope.Forest
import CppModel.Proofs.Scope.Walk
import CppModel.Proofs.Scope.Workspace
import CppModel.Proofs.Scope.Circles
import CppModel.Proofs.Scope.Names
import CppModel.Proofs.Validation.Outcomes
import CppModel.Proofs.Class.Tree
import CppModel.Proofs.Pieces.Trace
import CppModel.Proofs.Pieces.Script
import CppModel.Proofs.Pieces.Shares
import CppModel.Proofs.Pieces.Classes
import CppModel.Proofs.Pieces.Units
import CppModel.Proofs.Class.Program
import CppModel.Proofs.Class.Settled
import CppModel.Proofs.Scope.Resolution
import CppModel.Proofs.Class.Lineage
import CppModel.Proofs.Class.Spelling
import CppModel.Proofs.Class.Adding
import CppModel.Proofs.Source.Entries
import CppModel.Proofs.Source.Definitions
import CppModel.Proofs.Layout.Classes
import CppModel.Proofs.Layout.Blocks
import CppModel.Proofs.Text.Lines
import CppModel.Proofs.Documentation.Canonical
import CppModel.Proofs.Braces.Balance
import CppModel.Proofs.Material.Texts
import CppModel.Proofs.Layout.Content
import CppModel.Proofs.Braces.Documentation
import CppModel.Proofs.Braces.Scripts
import CppModel.Proofs.Material.Scripts
import CppModel.Proofs.Material.Elements
import CppModel.Proofs.Material.Classes
import CppModel.Proofs.Braces.Units
import CppModel.Proofs.Layout.Shifting
import CppModel.Proofs.Calls.Interleaving
import CppModel.Proofs.Scope.Outlook
import CppModel.Proofs.Scope.Reordering
import CppModel.Proofs.Class.Likeness
import CppModel.Proofs.Calls.Additions
import CppModel.Proofs.Calls.Builders
import CppModel.Proofs.Calls.Benches
import CppModel.Proofs.Class.Twins
import CppModel.Proofs.Calls.Configured
import CppModel.Proofs.Config.Spelling
import CppModel.Proofs.Config.Reading
import CppModel.Proofs.Config.Decoding
import CppModel.Proofs.Config.Strays
import CppModel.Proofs.Config.Omission
import CppModel.Proofs.Validation.Constructors
import CppModel.Proofs.Command.Writing
import CppModel.Proofs.Command.Effects
import CppModel.Proofs.Command.Delivery
import CppModel.Proofs.Documentation.Apart
import CppModel.Proofs.Documentation.Fragments
import CppModel.Proofs.Documentation.Splitting
import CppModel.Proofs.Documentation.Transparency
import CppModel.Proofs.Calls.Replay
import CppModel.Proofs.Layout.Enumerators
