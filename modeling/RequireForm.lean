import RequireForm.Import.Require
import RequireForm.Export.Assignment
import RequireForm.Unicode.Script
import RequireForm.Unicode.Property
import RequireForm.Unicode.CaseOrbit
import RequireForm.Pattern.Draft
import RequireForm.Pattern.Meaning
import RequireForm.Pattern.Size
import RequireForm.Pattern.Compiled
import RequireForm.Rule.Basic
import RequireForm.Transform.Events
import RequireForm.Decimal.Shortest
import RequireForm.Json.Value
import RequireForm.OptionsFile.Reader
import RequireForm.Files.Access
import RequireForm.Files.Transform
import RequireForm.Command.Run
import RequireForm.Main
import RequireForm.Proofs.Source.Reading
import RequireForm.Proofs.Source.PathLiteral
import RequireForm.Proofs.Source.Listing
import RequireForm.Proofs.Source.Cut
import RequireForm.Proofs.Source.Visit
import RequireForm.Proofs.Source.Names
import RequireForm.Proofs.Import.Grammar
import RequireForm.Proofs.Export.Grammar
import RequireForm.Proofs.Import.Fence
import RequireForm.Proofs.Export.Fence
import RequireForm.Proofs.Transform.Lines
import RequireForm.Proofs.Transform.Supported
import RequireForm.Proofs.Transform.Sketch
import RequireForm.Proofs.Transform.PathText
import RequireForm.Proofs.Source.Splice
import RequireForm.Proofs.Transform.Frame
import RequireForm.Proofs.Transform.Boundary
import RequireForm.Proofs.Transform.NewText
import RequireForm.Proofs.Transform.LeadingWords
import RequireForm.Proofs.Transform.Rejected
import RequireForm.Proofs.Transform.FixedPoint
import RequireForm.Proofs.Transform.LineEndings
import RequireForm.Proofs.Rule.Literal
import RequireForm.Proofs.Rule.Expansion
import RequireForm.Proofs.Rule.Checked
import RequireForm.Proofs.Transform.KeptPaths
import RequireForm.Proofs.Import.Meaning
import RequireForm.Proofs.Files.Tree
import RequireForm.Proofs.Command.Routes
import RequireForm.Proofs.Command.Failures
import RequireForm.Proofs.OptionsFile.RoundTrip
import RequireForm.Proofs.Command.Overlay
import RequireForm.Proofs.Transform.Slices
import RequireForm.Proofs.Import.Comments
import RequireForm.Proofs.Export.DeclaredNames
import RequireForm.Proofs.Transform.AbsentNames
import RequireForm.Proofs.Transform.Temporaries
