import DocViewer.Log.Record

/-!
# Filters of the log

A filter is a list of rules. A rule sets the least severe level for some records: those from sources whose names start
with a given text, those that have given fields, or both. Of the rules that cover a record the closest one decides
(`Filter.closest?`), and a record that no rule covers is not written.
-/

namespace DocViewer.Log

/-- The names of the fields of a record, of which the message is one. -/
def Record.names (r : Record) : List Text := "message".toList :: r.fields.map (·.1.toList)

structure Rule where
  /-- How the names of the sources start. -/
  source : Option Text := none
  /-- The fields that a record has to have. -/
  fields : List Text := []
  /-- The least severe level that is written, or none at all. -/
  level : Option Level
  deriving DecidableEq

abbrev Filter := List Rule

/-- Writes a level and all that are more severe, from all sources. -/
def Filter.upTo (level : Level) : Filter := [{ level := some level }]

namespace Rule

/-- Whether a rule is about a record. -/
def covers (rule : Rule) (r : Record) : Bool :=
  rule.source.all (·.isPrefixOf r.source.toList) && rule.fields.all r.names.contains

def permits (rule : Rule) (r : Record) : Bool := rule.level.any fun level => r.level.rank ≤ level.rank

/-- How much a rule says about the source: its length, or zero if it says nothing. -/
def sourceWeight (rule : Rule) : Nat := rule.source.elim 0 (·.length + 1)

/-- Whether a rule is at least as close as another: it says more about the source, or as much about it and more about
the fields, or names later fields. -/
def closer (rule other : Rule) : Bool :=
  if rule.sourceWeight ≠ other.sourceWeight then other.sourceWeight < rule.sourceWeight
  else if rule.fields.length ≠ other.fields.length then other.fields.length < rule.fields.length
  else !decide (rule.fields < other.fields)

end Rule

/-- The rule that decides about a record; of several alike the last one. -/
def Filter.closest? (f : Filter) (r : Record) : Option Rule :=
  (f.filter (·.covers r)).foldl
    (fun best rule => if best.all fun other => rule.closer other then some rule else best)
    none

/-- Whether a record is written. -/
def Filter.permits (f : Filter) (r : Record) : Bool := (f.closest? r).any (·.permits r)

end DocViewer.Log
