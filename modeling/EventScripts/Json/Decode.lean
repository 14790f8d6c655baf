import EventScripts.Json.Basic

/-!
# Reading values out of JSON

Readers for the shapes that records and lists take in JSON. A record is an object of its fields,
in which unknown names are passed over and a known name may come once, or an array of its fields
in order. A constant is its name, or an object of its name with `null`.
-/

set_option autoImplicit false

namespace EventScripts

namespace Json

/-- A text. -/
def asText? : Json → Option String
  | .string s => some s
  | _ => none

/-- A truth value. -/
def asBool? : Json → Option Bool
  | .bool b => some b
  | _ => none

/-- A natural number below a bound. -/
def asNatural? (bound : Nat) : Json → Option Nat
  | .natural n => if n < bound then some n else none
  | _ => none

/-- A whole number of 64 bits with sign. -/
def asInteger? : Json → Option Int
  | .natural n => if n ≤ Int64.maxValue.toInt then some n else none
  | .negative n => some (-(n : Int))
  | _ => none

/-- Any number, as a double. -/
def asDouble? : Json → Option Float
  | .natural n => some (Float.ofNat n)
  | .negative n => some (-Float.ofNat n)
  | .double x => some x
  | _ => none

/-- `null`, or a value that `read` takes. -/
def asOptional? {α : Type} (read : Json → Option α) : Json → Option (Option α)
  | .null => some none
  | j => (read j).map some

/-- An array whose items `read` takes. -/
def asList? {α : Type} (read : Json → Option α) : Json → Option (List α)
  | .array items => items.mapM read
  | _ => none

/-- The values of a name among members: `none` when it comes more than once. -/
def memberOnce? (members : List (String × Json)) (name : String) : Option (Option Json) :=
  match members.filter (·.1 == name) with
  | [] => some none
  | [(_, j)] => some (some j)
  | _ => none

/-- The fields of a record, in the order of `names`; inside, `none` for one that is missing. -/
def asFields? (names : List String) : Json → Option (List (Option Json))
  | .object members => names.mapM (memberOnce? members)
  | .array items =>
    if items.length > names.length then none
    else some (items.map some ++ List.replicate (names.length - items.length) none)
  | _ => none

/-- The name of a constant. -/
def asConstant? : Json → Option String
  | .string s => some s
  | .object [(s, .null)] => some s
  | _ => none

/-- What has been seen of a tagged value while its members are read in order. -/
structure Tagged where
  tag : Option Json
  content : Option Json
  /-- The content came before the tag. -/
  early : Bool

/-- Reads on through the members of a tagged value; the tag and the content may come once. -/
def taggedMembers? (tagName contentName : String) :
    Tagged → List (String × Json) → Option Tagged
  | seen, [] => some seen
  | seen, (name, j) :: rest =>
    if name == tagName then
      if seen.tag.isSome then none
      else taggedMembers? tagName contentName { seen with tag := some j } rest
    else if name == contentName then
      if seen.content.isSome then none
      else taggedMembers? tagName contentName
        { seen with content := some j, early := seen.tag.isNone } rest
    else taggedMembers? tagName contentName seen rest

/-- A value that carries the name of its kind beside its content: an object of the two, or an
array of the two. Content that stands before its tag has to be meaningful throughout. -/
def asTagged? (tagName contentName : String) : Json → Option (String × Json)
  | .object members => do
    let seen ← taggedMembers? tagName contentName ⟨none, none, false⟩ members
    let tag ← seen.tag
    let content ← seen.content
    if seen.early && !content.meaningful then none
    let tag ← asConstant? tag
    some (tag, content)
  | .array [tag, content] => (asConstant? tag).map fun tag => (tag, content)
  | _ => none

end Json

end EventScripts
