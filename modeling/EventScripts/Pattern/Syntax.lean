import EventScripts.Pattern.CharSet

/-!
# Patterns

A pattern as a tree, what can be wrong with the text of one, and how an error is shown.
-/

set_option autoImplicit false

namespace EventScripts

namespace Pattern

/-- A condition on a place in the subject. The flag says whether word characters are those of
the Unicode standard or ASCII only. -/
inductive Look where
  | start | finish
  | lineStart | lineFinish
  /-- Line ends may be written as carriage return and line feed. -/
  | wideLineStart | wideLineFinish
  | wordBoundary (unicode : Bool) | notWordBoundary (unicode : Bool)
  | wordStart (unicode : Bool) | wordFinish (unicode : Bool)
  | wordStartHalf (unicode : Bool) | wordFinishHalf (unicode : Bool)
  deriving DecidableEq

/-- A pattern. -/
inductive Node where
  | empty
  /-- One character of a set. -/
  | one (s : CharSet)
  | look (l : Look)
  /-- The numbered group `index`. -/
  | group (index : Nat) (body : Node)
  | concat (parts : List Node)
  /-- The first alternative that leads to a match. -/
  | alternate (parts : List Node)
  /-- From `least` repetitions up to `most`, many rather than few if `greedy`. -/
  | repeated (least : Nat) (most : Option Nat) (greedy : Bool) (body : Node)

/-- What can be wrong with the text of a pattern. -/
inductive Complaint where
  | groupUnclosed | groupUnopened
  | groupNameDuplicate | groupNameEmpty | groupNameInvalid | groupNameUnfinished
  | flagDanglingNegation | flagDuplicate | flagRepeatedNegation | flagUnfinished
  | flagUnrecognized
  | repetitionMissing | repetitionUnclosed | repetitionInvalid | repetitionEmpty
  | decimalInvalid
  | escapeUnfinished | escapeUnrecognized | backreference | lookAround
  | hexEmpty | hexInvalid | hexInvalidDigit
  | classUnclosed | classEscapeInvalid | classRangeInvalid | classRangeLiteral
  | propertyInvalid | propertyNotFound | propertyValueNotFound
  | boundaryUnclosed | boundaryUnrecognized | boundaryUnfinished
  | unicodeNotAllowed | invalidText
  deriving DecidableEq

/-- The sentence for a complaint. -/
def Complaint.message : Complaint → String
  | .groupUnclosed => "unclosed group"
  | .groupUnopened => "unopened group"
  | .groupNameDuplicate => "duplicate capture group name"
  | .groupNameEmpty => "empty capture group name"
  | .groupNameInvalid => "invalid capture group character"
  | .groupNameUnfinished => "unclosed capture group name"
  | .flagDanglingNegation => "dangling flag negation operator"
  | .flagDuplicate => "duplicate flag"
  | .flagRepeatedNegation => "flag negation operator repeated"
  | .flagUnfinished => "expected flag but got end of regex"
  | .flagUnrecognized => "unrecognized flag"
  | .repetitionMissing => "repetition operator missing expression"
  | .repetitionUnclosed => "unclosed counted repetition"
  | .repetitionInvalid =>
    "invalid repetition count range, the start must be <= the end"
  | .repetitionEmpty => "repetition quantifier expects a valid decimal"
  | .decimalInvalid => "decimal literal invalid"
  | .escapeUnfinished => "incomplete escape sequence, reached end of pattern prematurely"
  | .escapeUnrecognized => "unrecognized escape sequence"
  | .backreference => "backreferences are not supported"
  | .lookAround => "look-around, including look-ahead and look-behind, is not supported"
  | .hexEmpty => "hexadecimal literal empty"
  | .hexInvalid => "hexadecimal literal is not a Unicode scalar value"
  | .hexInvalidDigit => "invalid hexadecimal digit"
  | .classUnclosed => "unclosed character class"
  | .classEscapeInvalid => "invalid escape sequence found in character class"
  | .classRangeInvalid => "invalid character class range, the start must be <= the end"
  | .classRangeLiteral => "invalid range boundary, must be a literal"
  | .propertyInvalid => "invalid Unicode character class"
  | .propertyNotFound => "Unicode property not found"
  | .propertyValueNotFound => "Unicode property value not found"
  | .boundaryUnclosed =>
    "special word boundary assertion is either unclosed or contains an invalid character"
  | .boundaryUnrecognized => "unrecognized special word boundary assertion, valid choices are: "
    ++ "start, end, start-half or end-half"
  | .boundaryUnfinished => "found either the beginning of a special word boundary or a bounded "
    ++ "repetition on a \\b with an opening brace, but no closing brace"
  | .unicodeNotAllowed => "Unicode not allowed here"
  | .invalidText => "pattern can match invalid UTF-8"

/-- An error in the text of a pattern, with the part it is about. -/
structure PatternError where
  complaint : Complaint
  first : Nat
  size : Nat

/-- The error as it is shown: the pattern, a mark under the part in question, and the sentence. -/
def PatternError.message (text : String) (e : PatternError) : String :=
  "regex parse error:\n    " ++ text ++ "\n    "
    ++ String.ofList (List.replicate e.first ' ' ++ List.replicate (max 1 e.size) '^')
    ++ "\nerror: " ++ e.complaint.message

end Pattern

end EventScripts
