import ApiMock.Text.Words
import ApiMock.Json.Reader
import ApiMock.Schema.Decode
import ApiMock.Options.Filter
import ApiMock.Options.RegistryImport
import ApiMock.Options.Decode
import ApiMock.Logging
import ApiMock.Generator.Compile
import ApiMock.Generator.Expression
import ApiMock.Document.Expand
import ApiMock.Schema.BooleanForm
import ApiMock.Document.Operation
import ApiMock.Document.Server
import ApiMock.Document.Load
import ApiMock.Mock.Source
import ApiMock.Random.ChaCha
import ApiMock.Sample.Value
import ApiMock.Output.FileTree
import ApiMock.Proofs.Sample.Conformance
import ApiMock.Proofs.Schema.Composition
import ApiMock.Proofs.Json.Position
import ApiMock.Proofs.Document.Substitution
import ApiMock.Proofs.Document.Following
import ApiMock.Proofs.Document.Recursion
import ApiMock.Proofs.Document.Dangling
import ApiMock.Proofs.Mock.Turns
import ApiMock.Proofs.Document.Reduction
import ApiMock.Proofs.Mock.Answers
import ApiMock.Proofs.Mock.Naming
import ApiMock.Proofs.Sample.Safety
import ApiMock.Proofs.Document.Components
import ApiMock.Proofs.Document.Delegation
import ApiMock.Proofs.Schema.Keywords
import ApiMock.Proofs.Schema.Documented
import ApiMock.Proofs.Document.Examples
import ApiMock.Proofs.Recursion
import ApiMock.Proofs.Generator.Parts
import ApiMock.Proofs.Document.Chain
import ApiMock.Proofs.Schema.Compiling
import ApiMock.Proofs.Document.Accounting
import ApiMock.Proofs.Sample.Lookup
import ApiMock.Proofs.Document.Paths
import ApiMock.Proofs.Document.Filtering
import ApiMock.Proofs.Document.Loading
import ApiMock.Proofs.Schema.Names
import ApiMock.Proofs.Generator.WellFormed
import ApiMock.Proofs.Document.Route
import ApiMock.Proofs.Document.Uniqueness
import ApiMock.Proofs.Text.Brackets
import ApiMock.Proofs.Json.Brackets
import ApiMock.Proofs.Generator.Closed
import ApiMock.Proofs.Schema.Origin
import ApiMock.Proofs.Mock.LengthConstant
import ApiMock.Proofs.Sample.Ranges
import ApiMock.Proofs.Overlay
import ApiMock.Proofs.Json.Merge
import ApiMock.Proofs.Schema.Merge
import ApiMock.Proofs.Schema.BooleanForm
import ApiMock.Proofs.Document.Locality
import ApiMock.Proofs.Document.ResponseReference
import ApiMock.Proofs.Layers
import ApiMock.Proofs.Schema.Folding
import ApiMock.Proofs.Generator.KeyHint
import ApiMock.Proofs.Text.Segments
import ApiMock.Proofs.Text.Place
import ApiMock.Proofs.Options.RegistryImport
import ApiMock.Proofs.Document.Template
import ApiMock.Proofs.Mock.Matching
import ApiMock.Proofs.Text.Words
import ApiMock.Proofs.Text.WordShapes
import ApiMock.Proofs.Text.LetterCase
import ApiMock.Proofs.Text.CamelCase
import ApiMock.Proofs.Mock.AccessorName
import ApiMock.Proofs.Text.Literal
import ApiMock.Proofs.Mock.Embedding
import ApiMock.Proofs.Schema.Reference
import ApiMock.Proofs.Text.Identifier
import ApiMock.Proofs.Document.RegistryCall
