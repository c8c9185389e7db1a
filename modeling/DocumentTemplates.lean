import DocumentTemplates.Text.Blank
import DocumentTemplates.Text.SnakeCase
import DocumentTemplates.Text.Hexadecimal
import DocumentTemplates.Text.Quoted
import DocumentTemplates.Inflection
import DocumentTemplates.Decimal.Layout
import DocumentTemplates.Decimal.Reader
import DocumentTemplates.Value.Order
import DocumentTemplates.Value.Text
import DocumentTemplates.NilPolicy
import DocumentTemplates.Json.Writer
import DocumentTemplates.Json.Reader
import DocumentTemplates.Filter.Parser
import DocumentTemplates.Filter.Apply
import DocumentTemplates.Digest
import DocumentTemplates.Data
import DocumentTemplates.Yaml.Tree.Typed
import DocumentTemplates.Template.Fingerprint
import DocumentTemplates.Template.Reader
import DocumentTemplates.Template.Bases
import DocumentTemplates.Config
import DocumentTemplates.Cache.Recorder
import DocumentTemplates.Registry
import DocumentTemplates.Build.Plain
import DocumentTemplates.Build.Cached
import DocumentTemplates.Codec
import DocumentTemplates.Renderer
import DocumentTemplates.Proofs.Build.Simulation
import DocumentTemplates.Proofs.Build.Refinement
import DocumentTemplates.Proofs.Build.Store
import DocumentTemplates.Proofs.Template.BaseWalk
import DocumentTemplates.Proofs.Digest
import DocumentTemplates.Proofs.Template.Loading
import DocumentTemplates.Proofs.Build.Uncached
import DocumentTemplates.Proofs.Build.FullDigest
import DocumentTemplates.Proofs.Build.BaseCoverage
import DocumentTemplates.Proofs.Cache.ConfigKeys
import DocumentTemplates.Proofs.Build.Levels
import DocumentTemplates.Proofs.Cache.Keys
import DocumentTemplates.Proofs.Cache.Memory
import DocumentTemplates.Proofs.Cache.CachedBuild
import DocumentTemplates.Proofs.Cache.Runs
import DocumentTemplates.Proofs.Cache.Transparency
import DocumentTemplates.Proofs.Build.FingerprintResults
import DocumentTemplates.Proofs.Filter.Calls
import DocumentTemplates.Proofs.Filter.Spelling
import DocumentTemplates.Proofs.Filter.CanonicalQuery
import DocumentTemplates.Proofs.Build.Contributions
import DocumentTemplates.Proofs.Build.PhaseOrder
import DocumentTemplates.Proofs.Build.SelectedKeys
import DocumentTemplates.Proofs.Build.PrunedBuild
import DocumentTemplates.Proofs.Filter.Progress
import DocumentTemplates.Proofs.Filter.Groups
import DocumentTemplates.Proofs.Decimal.Rounding
import DocumentTemplates.Proofs.Decimal.Wholes
import DocumentTemplates.Proofs.Value.Order
import DocumentTemplates.Proofs.Build.DepthLimit
import DocumentTemplates.Proofs.Cache.Reading
import DocumentTemplates.Proofs.Cache.Recall
import DocumentTemplates.Proofs.Cache.BulkReads
import DocumentTemplates.Proofs.Value.Parts
import DocumentTemplates.Proofs.Json.RoundTrip
import DocumentTemplates.Proofs.Inflection
import DocumentTemplates.Proofs.Xml.Reading
import DocumentTemplates.Proofs.Xml.Structure
import DocumentTemplates.Proofs.Xml.Names
import DocumentTemplates.Proofs.Build.Childless
import DocumentTemplates.Proofs.Cache.Batch
import DocumentTemplates.Proofs.OrderedMap.History
import DocumentTemplates.Proofs.Template.EntryFields
import DocumentTemplates.Proofs.Template.Entries
import DocumentTemplates.Proofs.Build.NilPolicy
import DocumentTemplates.Proofs.Build.Memoisation
import DocumentTemplates.Proofs.Build.Requests
import DocumentTemplates.Proofs.Sorting
import DocumentTemplates.Proofs.Filter.Sequences
import DocumentTemplates.Proofs.Cache.KeyParts
import DocumentTemplates.Proofs.Build.FilteredKeys
import DocumentTemplates.Proofs.Value.Nulls
import DocumentTemplates.Proofs.Build.Failures
import DocumentTemplates.Proofs.OrderedMap.Merge
import DocumentTemplates.Proofs.Build.Delegation
import DocumentTemplates.Proofs.Build.Strictness
import DocumentTemplates.Proofs.OrderedMap.Reordering
import DocumentTemplates.Proofs.Build.AttributeOrder
import DocumentTemplates.Proofs.Build.Elementwise
import DocumentTemplates.Proofs.Filter.Rounds
import DocumentTemplates.Proofs.Filter.Fragments
import DocumentTemplates.Proofs.Filter.Unbounded
import DocumentTemplates.Proofs.Inflection.Recovery
import DocumentTemplates.Proofs.Build.ElementNames
import DocumentTemplates.Proofs.OrderedMap.MergeLaws
import DocumentTemplates.Proofs.Filter.Projection
import DocumentTemplates.Proofs.Build.RootScoping
import DocumentTemplates.Proofs.Path
import DocumentTemplates.Proofs.Source.Candidates
