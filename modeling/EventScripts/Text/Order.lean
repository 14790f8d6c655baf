/-!
# Order of texts

Texts are ordered by their characters, a proper beginning first. The UTF-8 bytes of two texts are
in the same order.
-/

set_option autoImplicit false

namespace EventScripts

/-- Whether a list of characters comes before another one or is equal to it. -/
def charsLe : List Char → List Char → Bool
  | [], _ => true
  | _ :: _, [] => false
  | a :: as, b :: bs => a < b || (a == b && charsLe as bs)

/-- Whether a text comes before another one or is equal to it. -/
def textLe (s t : String) : Bool := charsLe s.toList t.toList

end EventScripts
