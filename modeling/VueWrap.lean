import VueWrap.Main
import VueWrap.Proofs.Generation.ImportPath
import VueWrap.Proofs.Generation.Prefix
import VueWrap.Proofs.Metadata.Form
import VueWrap.Proofs.Metadata.Grammar
import VueWrap.Proofs.Metadata.Valid
import VueWrap.Proofs.Resolver.Tokens
import VueWrap.Proofs.Mapping.Total
import VueWrap.Proofs.Module.Renders
import VueWrap.Proofs.Generation.Refusal
import VueWrap.Proofs.Source.Contract
import VueWrap.Proofs.Mapping.Correspondence
import VueWrap.Proofs.Generation.Overwrite
import VueWrap.Proofs.Assoc
import VueWrap.Proofs.FileTree.ReadBack
import VueWrap.Proofs.Json.Scalars
import VueWrap.Proofs.Json.ReadBack
import VueWrap.Proofs.Json.Same
import VueWrap.Proofs.Settings.Fields
import VueWrap.Proofs.Settings.SaveLoad
import VueWrap.Proofs.Code.Reading
import VueWrap.Proofs.Code.Values
import VueWrap.Proofs.Mapping.Parts
import VueWrap.Proofs.Module.WellFormed
import VueWrap.Proofs.FileTree.Edits
import VueWrap.Proofs.Generation.Again
import VueWrap.Proofs.Registry
import VueWrap.Proofs.Resolver.Reach
import VueWrap.Proofs.Mapping.Locality
import VueWrap.Proofs.Module.Outline
import VueWrap.Proofs.Module.Once
import VueWrap.Proofs.Settings.Merge
import VueWrap.Proofs.Command.Flags
import VueWrap.Proofs.Command.Settings
import VueWrap.Proofs.Settings.Contract
import VueWrap.Proofs.Module.SharedFile
import VueWrap.Proofs.FileTree.Below
import VueWrap.Proofs.Generation.Shared
import VueWrap.Proofs.Command.Inspect
import VueWrap.Proofs.Decimal.Size
import VueWrap.Proofs.Resolver.Meaning
import VueWrap.Proofs.Resolver.Spelling
import VueWrap.Proofs.Resolver.Coverage
import VueWrap.Proofs.Command.Effects
import VueWrap.Proofs.Generation.Footprint
import VueWrap.Proofs.Command.Footprint
import VueWrap.Proofs.Source.Requests
import VueWrap.Proofs.Text.Small
import VueWrap.Proofs.Naming.Words
import VueWrap.Proofs.Naming.Normal
import VueWrap.Proofs.Mapping.Unrestricted
import VueWrap.Proofs.Text.Apart
import VueWrap.Proofs.Json.Apart
import VueWrap.Proofs.Module.Apart
import VueWrap.Proofs.Text.Indent
import VueWrap.Proofs.Mapping.Repeated
import VueWrap.Proofs.Resolver.Overrides
import VueWrap.Proofs.Resolver.Course
