import SqlModels.Main
import SqlModels.Proofs.Region.Marker
import SqlModels.Proofs.Region.Locate
import SqlModels.Proofs.Region.Survey
import SqlModels.Proofs.Region.Layout
import SqlModels.Proofs.Region.Merge
import SqlModels.Proofs.Text.Sealed
import SqlModels.Proofs.Model.File
import SqlModels.Proofs.Model.Mapping
import SqlModels.Proofs.Schema.Parts
import SqlModels.Proofs.Schema.Keyed
import SqlModels.Proofs.Schema.KeyedReplay
import SqlModels.Proofs.Text.Split
import SqlModels.Proofs.Files.Path
import SqlModels.Proofs.Files.Store
import SqlModels.Proofs.Files.Target
import SqlModels.Proofs.Files.Generation
import SqlModels.Proofs.Files.History
import SqlModels.Proofs.Files.Relative
import SqlModels.Proofs.Files.Frame
import SqlModels.Proofs.Files.Apart
import SqlModels.Proofs.Text.Blocks
import SqlModels.Proofs.Model.Recovery
import SqlModels.Proofs.Schema.Replay
import SqlModels.Proofs.Schema.KeyColumns
import SqlModels.Proofs.Schema.Names
import SqlModels.Proofs.Files.Directories
import SqlModels.Proofs.CommandLine
import SqlModels.Proofs.Files.Order
import SqlModels.Proofs.Model.Decimals
import SqlModels.Proofs.Model.Default
import SqlModels.Proofs.Schema.Retype
import SqlModels.Proofs.Schema.Unsigned
import SqlModels.Proofs.Schema.Written
import SqlModels.Proofs.Schema.Commuting
import SqlModels.Proofs.Schema.Guards
import SqlModels.Proofs.Model.Required
import SqlModels.Proofs.Model.Identifiers
import SqlModels.Proofs.Sql.Edits
import SqlModels.Proofs.Schema.Sizes
import SqlModels.Proofs.Schema.Additions
import SqlModels.Proofs.Schema.Defaults
import SqlModels.Proofs.Sql.Layout
import SqlModels.Proofs.Schema.Options
