import DataModel.Value
import DataModel.Text.Segment

/-! A path such as `addresses.0.location` names a value inside a record: the first segment a key of the record,
each further segment a key of a map or the position of an item in a list. -/

namespace DataModel

/-- The value one segment further inside. -/
def Value.descend (v : Value) (segment : String) : Option Value :=
  match v with
  | .map entries => Assoc.get? entries segment
  | .list items => do items[← Numeral.unsigned? (twoTo 64) segment.toList]?
  | _ => none

/-- The value some segments further inside. -/
def Value.descendAll (v : Value) : List String → Option Value
  | [] => some v
  | s :: ss => do (← v.descend s).descendAll ss

/-- The value a dotted path leads to. -/
def Record.path? (r : Record) (path : String) : Option Value :=
  match Segment.pieces '.' path with
  | [] => none
  | s :: ss => do (← r.get? s).descendAll ss

end DataModel
