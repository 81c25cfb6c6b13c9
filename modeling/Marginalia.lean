import Marginalia.Main
import Marginalia.Proofs.Command.Acceptance
import Marginalia.Proofs.Command.Diagnostics
import Marginalia.Proofs.Command.FileLists
import Marginalia.Proofs.Command.Locations
import Marginalia.Proofs.Config.Search
import Marginalia.Proofs.Document.Conversion
import Marginalia.Proofs.Extraction.LineEnds
import Marginalia.Proofs.Extraction.Skipping
import Marginalia.Proofs.Findings.Filtering
import Marginalia.Proofs.Findings.LanguageOrder
import Marginalia.Proofs.Fragment.Settled
import Marginalia.Proofs.Fragment.Spelling
import Marginalia.Proofs.Language.CFamily
import Marginalia.Proofs.Registry.Restating
import Marginalia.Proofs.Sink.Recording
import Marginalia.Proofs.Style.Dropping
import Marginalia.Proofs.Workspace.Consistency
