import Mathlib
/-!
# The writers of the production database

What an authority finds of the writers: their identities, whether they run, and the class
that says what has to become of them after a quiescence.

* `beforeClass`: `A` runs, `B` is scheduled, `C` and `D` stay as they are.
-/
namespace Adcp.L2

/-- Of an entry, what the controllers read. `stableIdentity` is the tuple of the same name,
which no run state is part of; `recordedClass` is the field `before_class`.
mirrors src/adcp/production_dcs_v8_adoption.py:323-380 -/
structure WriterEntry where
  writerId : String
  launchdLabel : String
  state : String
  loadState : String
  enabledState : String
  recordedClass : String
  stableIdentity : List String
  deriving DecidableEq, Repr

/-- mirrors src/adcp/production_dcs_v8_adoption.py:932-935 (`_entry_before_class`) -/
def WriterEntry.beforeClass (e : WriterEntry) : String :=
  if e.recordedClass ∈ ["A", "B", "C", "D"] then e.recordedClass
  else if e.state = "ACTIVE" then "A" else "C"

/-- mirrors src/adcp/production_dcs_v8_adoption.py:382-390 (`DcsWriterInventory`) -/
structure WriterInventory where
  entries : List WriterEntry
  fingerprint : String
  deriving DecidableEq, Repr

/-- mirrors src/adcp/production_dcs_v8_adoption.py:421-425 -/
structure QuiescenceToken where
  before : WriterInventory
  quiescedStableIdentities : List (List String)
  beforeClasses : List (String × String)
  deriving DecidableEq, Repr

end Adcp.L2
