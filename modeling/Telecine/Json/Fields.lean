import Telecine.Json.Basic

/-! Reading a value as something in particular. A structure may be a record of its fields in any order,
each at most once and others ignored, or a list of them in their own order. -/
namespace Telecine.Json

def toBool? : Json → Option Bool
  | .bool value => some value
  | _ => none

def toText? : Json → Option String
  | .text value => value
  | _ => none

def toInt64? : Json → Option Int
  | .number n => n.toInt?.filter (· < 9223372036854775808)
  | _ => none

def toNat? (limit : Nat) : Json → Option Nat
  | .number n => do
    let value ← n.toInt?
    if 0 ≤ value ∧ value < limit then some value.toNat else none
  | _ => none

def toFloat? : Json → Option Float
  | .number n => n.toFloat?
  | _ => none

def optional {α : Type} (as : Json → Option α) : Json → Option (Option α)
  | .null => some none
  | value => (as value).map some

def lookUp (name : String) (members : List (Option String × Json)) : Option (Option Json) :=
  match members.filter (·.1 = some name) with
  | [] => some none
  | [(_, value)] => some (some value)
  | _ => none

def fields (names : List String) (least : Nat) : Json → Option (List (Option Json))
  | .record members =>
    if members.all (·.1.isSome) then names.mapM (lookUp · members) else none
  | .list items =>
    if least ≤ items.length ∧ items.length ≤ names.length then
      some (items.map some ++ List.replicate (names.length - items.length) none)
    else none
  | _ => none

def required {α : Type} (as : Json → Option α) (field : Option Json) : Option α := field.bind as

def orElse {α : Type} (as : Json → Option α) (default : α) : Option Json → Option α
  | some value => as value
  | none => some default

def holds : (depth : Nat) → Json → Bool
  | 0, .list _ => false
  | 0, .record _ => false
  | depth + 1, .list items => items.all (holds depth)
  | depth + 1, .record members => members.all fun (key, value) => key.isSome && holds depth value
  | _, .text value => value.isSome
  | _, .number n => n.toInt?.isSome || n.toFloat?.isSome
  | _, _ => true

end Telecine.Json
