import Disposition.Context.Raw
import Disposition.Database.Standard
import Disposition.Decision
import Disposition.Journal
import Disposition.Json.Printer
import Disposition.Json.Reader
import Disposition.Proofs.Access
import Disposition.Proofs.Atomicity
import Disposition.Proofs.Coherence
import Disposition.Proofs.Edit
import Disposition.Proofs.Environment
import Disposition.Proofs.Facts
import Disposition.Proofs.Isolation
import Disposition.Proofs.Journal
import Disposition.Proofs.Listed
import Disposition.Proofs.Listing
import Disposition.Proofs.LowerCase
import Disposition.Proofs.MemoryUrl
import Disposition.Proofs.Notation
import Disposition.Proofs.Origins
import Disposition.Proofs.PartialWrite
import Disposition.Proofs.StableOrder
import Disposition.Proofs.Substring
import Disposition.Proofs.Threshold
import Disposition.Proofs.Verdict
import Disposition.Proofs.WellFormed
import Disposition.Report
import Disposition.Server
import Disposition.Settings.Environment
import Disposition.Store.Session
