import TapeLang.FileTree
import TapeLang.Main
import TapeLang.Proofs.Bracket.Depth
import TapeLang.Proofs.Jump
import TapeLang.Proofs.RustCode
import TapeLang.Proofs.Reading.Legend
import TapeLang.Proofs.Batch
import TapeLang.Proofs.Bracket.Placement
import TapeLang.Proofs.Generation
import TapeLang.Proofs.Name.Canonical
import TapeLang.Proofs.Name.Declared
import TapeLang.Proofs.FileSystem
import TapeLang.Proofs.Session
import TapeLang.Proofs.ExitCode
import TapeLang.Proofs.Reflow.Layout
import TapeLang.Proofs.Reflow.RustModule
import TapeLang.Proofs.Reflow.Skeleton
import TapeLang.Proofs.SourceNames
import TapeLang.Proofs.Nesting
import TapeLang.Proofs.Bracket.Matching
import TapeLang.Proofs.Comments
import TapeLang.Proofs.Name.Container
import TapeLang.Proofs.InputStream
import TapeLang.Proofs.Places
import TapeLang.Proofs.Name.Derived
import TapeLang.Proofs.Name.Clash
import TapeLang.Proofs.Thinning
import TapeLang.Proofs.Operations
import TapeLang.Proofs.NarrowPointers
import TapeLang.Proofs.Name.Members
import TapeLang.Proofs.SourceFiles
import TapeLang.Proofs.BaseName
import TapeLang.Proofs.Provenance
import TapeLang.Proofs.Discovery
import TapeLang.Proofs.Yaml.Cursor
import TapeLang.Proofs.Yaml.NoContent
import TapeLang.Proofs.Yaml.PlainScalar
import TapeLang.Proofs.Yaml.Lines
import TapeLang.Proofs.Yaml.Mapping
import TapeLang.Proofs.Yaml.Values
import TapeLang.Proofs.PartialSettings
import TapeLang.Proofs.Name.RoundTrip
import TapeLang.Proofs.Guards
