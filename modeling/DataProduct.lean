import DataProduct.SemVer
import DataProduct.Kind
import DataProduct.Digest.Sha1
import DataProduct.Identity.Uuid
import DataProduct.Identity.Name
import DataProduct.Number.Binary64
import DataProduct.Number.Shortest
import DataProduct.Json.Value
import DataProduct.Json.Print
import DataProduct.Text.Quoted
import DataProduct.Json.Error
import DataProduct.Json.Token
import DataProduct.Json.Reader
import DataProduct.Json.Decoder
import DataProduct.Descriptor.Basic
import DataProduct.Descriptor.Decode
import DataProduct.Descriptor.Encode
import DataProduct.Validation.Report
import DataProduct.Validation.Identity
import DataProduct.Validation.Walk
import DataProduct.Lifecycle
import DataProduct.Registry
import DataProduct.Text.Space
import DataProduct.Template
import DataProduct.Publish
import DataProduct.Cli
import DataProduct.Main
import DataProduct.Proofs.PathText
import DataProduct.Proofs.Walk.Step
import DataProduct.Proofs.Walk.Fill
import DataProduct.Proofs.Walk.Modes
import DataProduct.Proofs.Walk.Valid
import DataProduct.Proofs.Walk.Idempotent
import DataProduct.Proofs.Walk.Blank
import DataProduct.Proofs.Walk.Paths
import DataProduct.Proofs.Walk.Names
import DataProduct.Proofs.Lifecycle
import DataProduct.Proofs.Publish
import DataProduct.Proofs.Walk.Duplicates
import DataProduct.Proofs.Json.Layout
import DataProduct.Proofs.Json.Reading
import DataProduct.Proofs.Json.ReadBack
import DataProduct.Proofs.Json.Typed
import DataProduct.Proofs.Descriptor.ReadBack
import DataProduct.Proofs.Json.Sound
import DataProduct.Proofs.Json.Decoded
import DataProduct.Proofs.Descriptor.Parsed
import DataProduct.Proofs.Descriptor.RoundTrip
import DataProduct.Proofs.Ascii
import DataProduct.Proofs.SemVerGrammar
import DataProduct.Proofs.Placeholders
import DataProduct.Proofs.Walk.Keys
import DataProduct.Proofs.Walk.Extraction
import DataProduct.Proofs.Variables
import DataProduct.Proofs.Json.Forward
import DataProduct.Proofs.Json.Clean
import DataProduct.Proofs.Descriptor.Clean
import DataProduct.Proofs.Strict
import DataProduct.Proofs.Identifier
import DataProduct.Proofs.Namespace
import DataProduct.Proofs.Bindings
