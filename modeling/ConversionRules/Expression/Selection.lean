import ConversionRules.Expression.Error
import ConversionRules.Value.Reading

/-!
Selection from a collection: the item at an index of a list, or the number of
items, the first, the last, the largest or the smallest one of a list or text.
-/
namespace ConversionRules.Lookup

/-- The best item so far replaced by every later one that compares to it as
wanted; of equal items the first is kept. -/
def extreme (wanted : Ordering) (best : Value) : List Value → Except Cause Value
  | [] => .ok best
  | item :: rest =>
    match item.compare? best with
    | none => .error (.incomparableItems item.type? best.type?)
    | some o => extreme wanted (if o = wanted then item else best) rest

/-- An operation on the items of a collection. Only counting needs no item. -/
def select : LookupOperation → List Value → Except Cause Value
  | .count, items => .ok (.int (Int64.ofNat (min items.length Int64.maxValue.toInt.toNat)))
  | operation, [] => .error (.emptySource operation)
  | .first, item :: _ => .ok item
  | .last, item :: rest => .ok (rest.getLastD item)
  | .max, item :: rest => extreme .gt item rest
  | .min, item :: rest => extreme .lt item rest

def evaluate (l : Lookup) (v : Value) : Except Cause Value :=
  match l.index with
  | some index =>
    match v with
    | .list items =>
      match items[index.toNat]? with
      | some item => .ok item
      | none => .error (.indexOutOfRange index.toNat items.length)
    | _ => .error (.typeMismatch .indexableList v.type?)
  | none =>
    match v.elements? with
    | none => .error (.typeMismatch .collection v.type?)
    | some items => select l.operation items

end ConversionRules.Lookup
