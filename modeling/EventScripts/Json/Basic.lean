/-!
# JSON values

The value a JSON text denotes. Numbers keep the distinction between whole numbers that fit 64
bits and doubles, because a field of a whole-number type takes only the former. Object members
stay in the order of the text, repeats included.
-/

set_option autoImplicit false

namespace EventScripts

/-- A JSON value. -/
inductive Json where
  | null
  | bool (b : Bool)
  /-- A whole number from `0` up to below `2 ^ 64`. -/
  | natural (n : Nat)
  /-- The whole number `-n`, for `n` from `1` up to `2 ^ 63`. -/
  | negative (n : Nat)
  /-- Any other number. -/
  | double (x : Float)
  | string (text : String)
  | array (items : List Json)
  | object (members : List (String × Json))
  /-- A value of correct form that denotes nothing: a number too large for a double, a text with
  half a surrogate pair, or an object with such a text as a name. -/
  | meaningless

namespace Json

mutual

/-- Whether nothing in the value is meaningless. -/
def meaningful : Json → Bool
  | .meaningless => false
  | .array items => allMeaningful items
  | .object members => membersMeaningful members
  | _ => true

/-- Whether nothing in the values is meaningless. -/
def allMeaningful : List Json → Bool
  | [] => true
  | j :: js => meaningful j && allMeaningful js

/-- Whether nothing in the members is meaningless. -/
def membersMeaningful : List (String × Json) → Bool
  | [] => true
  | (_, j) :: ms => meaningful j && membersMeaningful ms

end

end Json

end EventScripts
