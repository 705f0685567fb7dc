import TestSpec.Check.Declaration
import TestSpec.Check.Template
import TestSpec.Codec
import TestSpec.CommandLine
import TestSpec.Constraint.Clash
import TestSpec.Document.Run
import TestSpec.Kind.Acceptance
import TestSpec.Main
import TestSpec.Matching
import TestSpec.Proofs.Check.Alias
import TestSpec.Proofs.Check.Depth
import TestSpec.Proofs.Check.Dimension
import TestSpec.Proofs.Check.FieldWise
import TestSpec.Proofs.Check.Length
import TestSpec.Proofs.Codec.Integer
import TestSpec.Proofs.Codec.Inverse
import TestSpec.Proofs.Constraint.Element
import TestSpec.Proofs.Constraint.Intersection
import TestSpec.Proofs.Document.Complaints
import TestSpec.Proofs.Document.Independence
import TestSpec.Proofs.Document.SelfMatch
import TestSpec.Proofs.Document.TemplateOrder
import TestSpec.Proofs.Matching.Duality
import TestSpec.Proofs.Matching.Legacy
import TestSpec.Proofs.Matching.Length
import TestSpec.Proofs.Matching.Range
import TestSpec.Proofs.Matching.Safety
import TestSpec.Proofs.Matching.ValueOf
import TestSpec.Proofs.Relation.Absorption
import TestSpec.Proofs.Relation.Evaluation
import TestSpec.Proofs.Relation.History
import TestSpec.Proofs.Relation.Memo
import TestSpec.Proofs.Relation.Rules
import TestSpec.Proofs.Relation.Values
import TestSpec.Proofs.Report.Colour
import TestSpec.Proofs.Session.Redirect
import TestSpec.Proofs.Session.Requests
import TestSpec.Proofs.Template.Bounds
import TestSpec.Proofs.Text.Placeholder
import TestSpec.Proofs.Value.Digits
import TestSpec.Proofs.Value.Equivalence
import TestSpec.Relation.Resolver
import TestSpec.Report.Text
import TestSpec.Session.Redirect
import TestSpec.Template.Print
import TestSpec.Value.Access
import TestSpec.Walk
