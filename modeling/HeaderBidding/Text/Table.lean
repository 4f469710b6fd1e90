import HeaderBidding.Decimal.Integer
import HeaderBidding.Text.Ranges

/-!
# Tables as text

A large table is written as a text: entries stand between spaces or on lines of their own, the
hexadecimal numbers of an entry between commas.
-/

namespace HeaderBidding.Text

/-- What has been read of a table: the entries, the entry and the number that are being read, with
the latest first. -/
structure TableState where
  entries : List (List Nat) := []
  entry : List Nat := []
  number : Option Nat := none

namespace TableState

/-- Ends the number that is being read. -/
def endNumber (state : TableState) : TableState :=
  { state with entry := state.number.toList ++ state.entry, number := none }

/-- Ends the entry that is being read. -/
def endEntry (state : TableState) : TableState :=
  match state.endNumber.entry with
  | [] => state
  | entry => { entries := entry.reverse :: state.entries }

/-- Reads a character of a table. -/
def read (state : TableState) (c : Char) : TableState :=
  if c = ' ' ∨ c = '\n' then state.endEntry
  else if c = ',' then state.endNumber
  else { state with number := some (16 * state.number.getD 0 + (Decimal.hexValue? c).getD 0) }

end TableState

/-- The entries of a table. -/
def tableEntries (table : String) : List (List Nat) :=
  (table.foldl TableState.read {}).endEntry.entries.reverse

/-- The ranges of a table; an entry with a single number is a range of its own. -/
def Ranges.ofTable (table : String) : Ranges :=
  (tableEntries table).filterMap fun
    | [first] => some (first, first)
    | [first, last] => some (first, last)
    | _ => none

end HeaderBidding.Text
