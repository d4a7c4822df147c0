import Passbook.Error
import Passbook.Journal.Record

/-!
# The logger

Records are written once logging has been set up, and then only those at or above the chosen
level. Before that nothing is written.
-/

namespace Passbook

/-- The state of logging: the chosen level, and whether records have anywhere to go. -/
structure Logger where
  level : Journal.Level := .warning
  handlers : Nat := 0
  deriving DecidableEq, Repr, Inhabited

namespace Logger

/-- The name of the level that a setup asks for: the given one, or the configured one where none
or an empty one is given. -/
def requestedLevel (configured : String) : Option String → String
  | none => configured
  | some name => if name.isEmpty then configured else name

/-- Sets logging up at a level, with one handler in place of those before. An unknown level
changes nothing. -/
def setup (logger : Logger) (configured : String) (level : Option String) :
    Except Error Unit × Logger :=
  let name := requestedLevel configured level
  match Journal.Level.ofName? name with
  | none => (.error (.unknownLevel name), logger)
  | some level => (.ok (), { level, handlers := 1 })

/-- Whether a record is written. A record without a level never is. -/
def writes (logger : Logger) (record : Journal.Record) : Bool :=
  0 < logger.handlers && record.level != .unset && logger.level.rank ≤ record.level.rank

/-- The records of a journal that are written. -/
def written (logger : Logger) (journal : Journal) : List Journal.Record :=
  journal.records.filter logger.writes

end Logger

end Passbook
