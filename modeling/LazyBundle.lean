import LazyBundle.Build.Journal
import LazyBundle.Build.Timed
import LazyBundle.Disk
import LazyBundle.Main
import LazyBundle.Proofs.Agreement
import LazyBundle.Proofs.BuildLog
import LazyBundle.Proofs.CoresLast
import LazyBundle.Proofs.Destinations
import LazyBundle.Proofs.EncodedComponents
import LazyBundle.Proofs.EntryFiles
import LazyBundle.Proofs.LiteralCharacters
import LazyBundle.Proofs.LiteralForms
import LazyBundle.Proofs.Placeholders
import LazyBundle.Proofs.ReadBack
import LazyBundle.Proofs.Rebuilding
import LazyBundle.Proofs.Reordering
import LazyBundle.Proofs.ReportedCode
import LazyBundle.Proofs.ResolvedManifests
import LazyBundle.Proofs.Siblings
import LazyBundle.Proofs.StoredWrites
import LazyBundle.Proofs.ToldDiagnostics
import LazyBundle.Proofs.WrittenBundles
import LazyBundle.Proofs.CommandStages
import LazyBundle.Proofs.Interleaving
import LazyBundle.Proofs.ExitCodes
import LazyBundle.Proofs.Arguments
import LazyBundle.Proofs.DryRuns
import LazyBundle.Proofs.ReadableModes
