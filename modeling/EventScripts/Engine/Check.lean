import EventScripts.Script.Syntax

/-!
# The function that checks return codes

Every machine gets a function `check`, which turns a return code of the host other than
`error_code.eOK` into an error at the line of its caller: the text in `error_desc`, or else a
text with the code itself.
-/

set_option autoImplicit false

namespace EventScripts

namespace Check

open Script

/-- The label under which the function is loaded. -/
def label : String := "Check function"

/-- The field `name` of the value of a global variable. -/
def globalField (table name : String) : Expr :=
  .field (.global (textBytes table)) (.string (textBytes name))

/-- The text for a code without a description. -/
def unknownCode : Expr :=
  .first (.call (globalField "string" "format")
    [.string (textBytes "Unknown error code: %i"), .parameter 0])

/-- The call that raises the error at the caller's line. -/
def raise : Step :=
  .run (.call (.global (textBytes "error"))
    [.orElse (.field (.global (textBytes "error_desc")) (.parameter 0)) (.nextLine unknownCode),
      .number (.integer 2)])

/-- The source that defines the function, from its second line on. -/
def source : List Step :=
  [.blank 1,
    .setGlobal (textBytes "check") (.function
      [.when (.differ (.parameter 0) (globalField "error_code" "eOK")) [raise]])]

end Check

end EventScripts
