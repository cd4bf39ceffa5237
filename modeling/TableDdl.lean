import TableDdl.CommandLine.Directory
import TableDdl.Database.Scripted
import TableDdl.Main
import TableDdl.Proofs.Build
import TableDdl.Proofs.Accumulation
import TableDdl.Proofs.Preview
import TableDdl.Proofs.Marker
import TableDdl.Proofs.TableReference
import TableDdl.Proofs.Definition
import TableDdl.Proofs.PreviewError
import TableDdl.Proofs.TableDiff
import TableDdl.Proofs.Introspection
import TableDdl.Proofs.InlineKey
import TableDdl.Proofs.KeyName
import TableDdl.Proofs.Independence
import TableDdl.Proofs.AddedColumns
import TableDdl.Proofs.Json
import TableDdl.Proofs.Config
import TableDdl.Proofs.SchemaPreview
import TableDdl.Proofs.Profile
import TableDdl.Proofs.DryRun
import TableDdl.Proofs.Backslash
import TableDdl.Proofs.Cut
import TableDdl.Proofs.DefaultClause
import TableDdl.Proofs.Sequence
import TableDdl.Proofs.Skipped
import TableDdl.Proofs.KeyOrder
import TableDdl.Proofs.Retraction
import TableDdl.Proofs.Split
import TableDdl.Proofs.Interleaving
import TableDdl.Proofs.NameCollision
import TableDdl.Proofs.DialectName
import TableDdl.Proofs.ProfileOrder
import TableDdl.Proofs.Journal
import TableDdl.Proofs.Offset
