import SchemaDelta.Value.Basic

/-!
# Order of values

Numbers are ordered by value, texts by their letters and lists by the first items in which they
differ.  No other values have an order, and none of different kinds do.
-/

namespace SchemaDelta.Value

/-- Whether a value without parts is less than another, if the two have an order. -/
def lessScalar?
    (left right : Value) : Option Bool :=
  match left, right with
  | float left, float right => some (left.below right)
  | float left, right => right.asInt?.map left.belowInt
  | left, float right => left.asInt?.map right.exceedsInt
  | left, right =>
    match left.asInt?, right.asInt? with
    | some left, some right => some (decide (left < right))
    | _, _ =>
      match left.asText?, right.asText? with
      | some left, some right => some (decide (left < right))
      | _, _ => none

mutual

/-- Whether a value is less than another, if the two have an order. -/
def less? : Value → Value → Option Bool
  | list left, list right => lessItems? left right
  | left, right => lessScalar? left right
termination_by structural left => left

/-- Whether a list is less than another; a list is less than one that goes on behind it. -/
def lessItems? : List Value → List Value → Option Bool
  | _, [] => some false
  | [], _ :: _ => some true
  | left :: lefts, right :: rights =>
    if left == right then lessItems? lefts rights else less? left right

end

/-- The two values have an order. -/
def isComparable
    (left right : Value) : Bool :=
  (less? left right).isSome

/-- Every value has an order with the one behind it. -/
def areComparable : List Value → Bool
  | first :: second :: rest => first.isComparable second && areComparable (second :: rest)
  | _ => true

/-- A value does not come after another. -/
def precedes
    (left right : Value) : Bool :=
  less? right left != some true

end SchemaDelta.Value
