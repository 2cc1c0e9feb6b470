import SchemaOutline.Annotations.Basic
import SchemaOutline.Annotations.Key
import SchemaOutline.Context.Basic
import SchemaOutline.Context.Standard
import SchemaOutline.Description.Basic
import SchemaOutline.Description.Content
import SchemaOutline.Description.Reading
import SchemaOutline.Entity.Fingerprint
import SchemaOutline.Entity.Identity
import SchemaOutline.Entity.Signature
import SchemaOutline.Entity.SignatureSet
import SchemaOutline.Entity.Stamp
import SchemaOutline.Json.Basic
import SchemaOutline.Json.Brief
import SchemaOutline.Json.Nesting
import SchemaOutline.Json.Numeral
import SchemaOutline.Json.Reader
import SchemaOutline.Json.Token
import SchemaOutline.Json.Writer
import SchemaOutline.Logging.Settings
import SchemaOutline.Numeric.Binary64
import SchemaOutline.Numeric.Decimal
import SchemaOutline.Numeric.Hex
import SchemaOutline.Outline.Basic
import SchemaOutline.Outline.Build
import SchemaOutline.Outline.Fold
import SchemaOutline.Outline.Lookup
import SchemaOutline.Outline.Node
import SchemaOutline.Outline.Prompt
import SchemaOutline.Outline.Query
import SchemaOutline.Outline.Walk
import SchemaOutline.Path.Basic
import SchemaOutline.Path.Hashing
import SchemaOutline.Path.Linked
import SchemaOutline.Path.Segment
import SchemaOutline.Proofs.Annotations.Collecting
import SchemaOutline.Proofs.Annotations.Merging
import SchemaOutline.Proofs.Annotations.Writing
import SchemaOutline.Proofs.Description.Absence
import SchemaOutline.Proofs.Description.Alike
import SchemaOutline.Proofs.Description.EditAgreement
import SchemaOutline.Proofs.Description.Edits
import SchemaOutline.Proofs.Description.Faults
import SchemaOutline.Proofs.Description.Grammar
import SchemaOutline.Proofs.Description.Measure
import SchemaOutline.Proofs.Description.Nodes
import SchemaOutline.Proofs.Description.Reading
import SchemaOutline.Proofs.Description.Respelling
import SchemaOutline.Proofs.Description.View
import SchemaOutline.Proofs.Entity.Counterparts
import SchemaOutline.Proofs.Entity.Identities
import SchemaOutline.Proofs.Entity.Recursion
import SchemaOutline.Proofs.Entity.Restamping
import SchemaOutline.Proofs.Entity.Retouching
import SchemaOutline.Proofs.Entity.SignatureOrder
import SchemaOutline.Proofs.Entity.Signatures
import SchemaOutline.Proofs.Entity.Spine
import SchemaOutline.Proofs.Json.Limit
import SchemaOutline.Proofs.Outline.Ancestry
import SchemaOutline.Proofs.Outline.Building
import SchemaOutline.Proofs.Outline.Folding
import SchemaOutline.Proofs.Outline.Kinship
import SchemaOutline.Proofs.Outline.Locality
import SchemaOutline.Proofs.Outline.Lookup
import SchemaOutline.Proofs.Outline.Opacity
import SchemaOutline.Proofs.Outline.Preorder
import SchemaOutline.Proofs.Outline.Prompts
import SchemaOutline.Proofs.Outline.Refinements
import SchemaOutline.Proofs.Outline.SemanticTypes
import SchemaOutline.Proofs.Outline.Traversals
import SchemaOutline.Proofs.Outline.Unfolding
import SchemaOutline.Proofs.Path.Formatting
import SchemaOutline.Proofs.Path.Sharing
import SchemaOutline.Proofs.Schema.Bounds
import SchemaOutline.Proofs.Schema.Conversion
import SchemaOutline.Proofs.Schema.Decoding
import SchemaOutline.Proofs.Schema.Describing
import SchemaOutline.Proofs.Schema.Edits
import SchemaOutline.Proofs.Schema.Nesting
import SchemaOutline.Proofs.Schema.References
import SchemaOutline.Proofs.Schema.Refilling
import SchemaOutline.Proofs.Schema.Respelling
import SchemaOutline.Proofs.Schema.RoundTrip
import SchemaOutline.Proofs.Schema.Sameness
import SchemaOutline.Proofs.Schema.Suspensions
import SchemaOutline.Proofs.Text.Paragraphs
import SchemaOutline.Schema.Basic
import SchemaOutline.Schema.Conversion
import SchemaOutline.Schema.Decode
import SchemaOutline.Schema.DecodeError
import SchemaOutline.Schema.Describe
import SchemaOutline.Schema.Kind
import SchemaOutline.Schema.Link
import SchemaOutline.Schema.Mismatch
import SchemaOutline.Schema.Shape
import SchemaOutline.Text.Blank
import SchemaOutline.Text.Printable
import SchemaOutline.Text.Quoted
import SchemaOutline.Traversal.Ascent
import SchemaOutline.Traversal.Descent
