import WikiDoc.OrderedMap
import WikiDoc.Log
import WikiDoc.Text.Blank
import WikiDoc.Text.LowerCase
import WikiDoc.Text.Quoted
import WikiDoc.Attribute.Map
import WikiDoc.Attribute.Spelling
import WikiDoc.Attribute.Form
import WikiDoc.Attribute.Rule
import WikiDoc.Document.Shape
import WikiDoc.Document.Path
import WikiDoc.Document.Media
import WikiDoc.Document.Equality
import WikiDoc.Document.Recorder
import WikiDoc.Document.Table
import WikiDoc.Kind.Baseline
import WikiDoc.Kind.Extension
import WikiDoc.Registry.Lookup
import WikiDoc.Registry.Membership
import WikiDoc.Registry.Mutation
import WikiDoc.Registry.Rebuild
import WikiDoc.Validation.Finding
import WikiDoc.Validation.Progress
import WikiDoc.Validation.Options
import WikiDoc.Validation.CrossReference
import WikiDoc.Validation.Run
import WikiDoc.Proofs.Document.Site
import WikiDoc.Proofs.Registry.Growth
import WikiDoc.Proofs.Registry.Closure
import WikiDoc.Proofs.Document.Walk
import WikiDoc.Proofs.Validation.References
import WikiDoc.Proofs.Registry.Lookup
import WikiDoc.Proofs.Validation.Trace
import WikiDoc.Proofs.Validation.Exactness
import WikiDoc.Proofs.Validation.Acceptance
import WikiDoc.Proofs.Registry.Baseline
import WikiDoc.Proofs.Validation.Strata
import WikiDoc.Proofs.Validation.Links
import WikiDoc.Proofs.Document.Reading
import WikiDoc.Proofs.Kind.RoundTrip
import WikiDoc.Proofs.Document.PostOrder
import WikiDoc.Proofs.Registry.Rebuild
import WikiDoc.Proofs.Registry.Members
import WikiDoc.Proofs.Registry.Consistency
import WikiDoc.Proofs.Validation.Resolution
import WikiDoc.Proofs.Kind.Sameness
import WikiDoc.Proofs.Registry.Contribution
import WikiDoc.Proofs.Validation.Commutation
import WikiDoc.Proofs.Registry.Effect
import WikiDoc.Proofs.Validation.Extension
import WikiDoc.Proofs.Registry.Permanence
import WikiDoc.Proofs.Registry.Refusal
import WikiDoc.Proofs.Document.Insertion
import WikiDoc.Proofs.Validation.Insertion
import WikiDoc.Proofs.Attribute.Obedience
import WikiDoc.Proofs.Kind.Construction
import WikiDoc.Proofs.Validation.Construction
import WikiDoc.Proofs.Attribute.Conformance
import WikiDoc.Proofs.Attribute.Form
import WikiDoc.Proofs.Attribute.Display
import WikiDoc.Proofs.Attribute.Nesting
import WikiDoc.Proofs.Document.Calls
import WikiDoc.Proofs.Document.Table
import WikiDoc.Proofs.Kind.Conformance
import WikiDoc.Proofs.Registry.Construction
import WikiDoc.Proofs.Attribute.Sameness
import WikiDoc.Proofs.Attribute.History
import WikiDoc.Proofs.Document.Sameness
import WikiDoc.Proofs.Validation.Conformance
import WikiDoc.Proofs.Validation.Table
import WikiDoc.Proofs.Validation.Sameness
import WikiDoc.Proofs.Text.Words
import WikiDoc.Proofs.Text.LowerCase
import WikiDoc.Proofs.Text.Normalization
import WikiDoc.Proofs.Text.Quoted
import WikiDoc.Proofs.Validation.Channels
import WikiDoc.Proofs.Validation.Matching
import WikiDoc.Proofs.Validation.Redefinition
