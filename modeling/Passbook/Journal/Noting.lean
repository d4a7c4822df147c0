import Passbook.Error
import Passbook.Journal.Record

/-!
# Runs that note what happens

A run of several steps notes what happens between them. It stops at the first step that fails, and
what was noted until then stays noted.
-/

namespace Passbook

/-- A run that may fail and keeps a journal in either case. -/
abbrev Noting (α : Type) := ExceptT Error (StateM Journal) α

namespace Noting

/-- Adds notes to the journal. -/
def note (notes : Journal) : Noting Unit := modify (· ++ notes)

/-- The outcome of a run and what it noted. -/
def outcome {α : Type} (run : Noting α) : Except Error α × Journal := run.run {}

end Noting

end Passbook
