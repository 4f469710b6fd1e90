import HeaderBidding.Log
import HeaderBidding.Text.Segments

/-!
# Which events are kept

A setting names the origins whose events are kept, each with the least severe level: rules with
commas between them, like `pulsepoint_adapter=info`. A rule may leave out the origin, and then
covers all, or the level, and then keeps everything. Of the rules that cover an event the one with
the longest origin decides. Without any rule, errors alone are kept.
-/

namespace HeaderBidding

/-- What is kept of the events of some origins. -/
structure LogRule where
  /-- How the names of the origins begin. -/
  origin : List Char
  /-- The least severe level that is kept; without one, nothing is. -/
  limit : Option Level
  deriving DecidableEq

namespace LogRule

/-- The limits by their names and numbers. -/
def limits : List (String × Option Level) :=
  [("off", none), ("error", some .error), ("warn", some .warn), ("info", some .info),
   ("debug", some .debug), ("trace", some .trace), ("0", none), ("1", some .error),
   ("2", some .warn), ("3", some .info), ("4", some .debug), ("5", some .trace)]

/-- The limit that a text names, in any case. -/
def limit? (s : List Char) : Option (Option Level) :=
  limits.lookup (String.ofList (s.map Char.toLower))

/-- Reads a rule. -/
def ofText? (s : List Char) : Option LogRule :=
  match s.takeWhile (· != '='), s.dropWhile (· != '=') with
  | origin, ['='] => some { origin, limit := some .trace }
  | origin, _ :: name => (limit? name).map fun limit => { origin, limit }
  | [], [] => none
  | word, [] =>
    match limit? word with
    | some limit => some { origin := [], limit }
    | none => some { origin := word, limit := some .trace }

/-- Whether a rule covers the events of an origin. -/
def covers (rule : LogRule) (origin : List Char) : Bool :=
  rule.origin.isPrefixOf origin

/-- Whether a rule keeps events of a level. -/
def keeps (rule : LogRule) (level : Level) : Bool :=
  rule.limit.any fun limit => level.rank ≤ limit.rank

end LogRule

/-- Which events are kept. -/
structure LogFilter where
  rules : List LogRule

namespace LogFilter

/-- The filter that keeps everything down to a level. -/
def ofLevel (level : Level) : LogFilter where
  rules := [{ origin := [], limit := some level }]

/-- The filter that a setting describes. Rules that cannot be read count for nothing. -/
def ofText (setting : String) : LogFilter :=
  match (Text.segments ',' setting.toList).filterMap LogRule.ofText? with
  | [] => ofLevel .error
  | rules => { rules }

/-- The more particular of two rules; of two equally particular ones the later. -/
def moreParticular (found : Option LogRule) (rule : LogRule) : Option LogRule :=
  match found with
  | some earlier => if rule.origin.length < earlier.origin.length then some earlier else some rule
  | none => some rule

/-- The rule that decides on the events of an origin. -/
def decisive (filter : LogFilter) (origin : List Char) : Option LogRule :=
  (filter.rules.filter (·.covers origin)).foldl moreParticular none

/-- Whether an event is kept. -/
def keeps (filter : LogFilter) (event : Event) : Bool :=
  (filter.decisive event.origin.toList).any (·.keeps event.level)

end LogFilter

end HeaderBidding
