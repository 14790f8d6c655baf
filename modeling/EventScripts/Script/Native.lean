import EventScripts.Script.Native.Files
import EventScripts.Script.Native.Libraries
import EventScripts.Script.Native.Standard

/-!
# Calling native functions

`Native.run` calls any function that is not written in the script language.
-/

set_option autoImplicit false

namespace EventScripts

namespace Script

/-- Calls a native function. -/
def Native.run (call : Caller) (site : Site) (f : Native) (args : List Value) :
    Machine (List Value) := do
  match f with
  | .basic f => f.run call site args
  | .standard name => site.fail (textBytes ("'" ++ name ++ "' is not available"))
  | .bit f => f.run site args
  | .patternNew =>
    let text ← converted site args 1 Value.toText?
    match Pattern.compile text with
    | .ok p =>
      let o ← Machine.newObject (.pattern p)
      pure [o]
    | .error e => site.fault (.runtime ("rex.new: " ++ e.message text))
  | .patternEscape =>
    let text ← converted site args 1 Value.toText?
    pure [.text (Pattern.escapeText text)]
  | .patternMethod m => m.run call site args
  | .compress =>
    let data ← converted site args 1 Machine.rawText?
    discard (converted site args 2 (Value.toOptional? (Value.toNat? UInt32.size)))
    pure [.string (Deflate.compress data)]
  | .decompress =>
    let stream ← converted site args 1 Machine.rawText?
    match Deflate.decompress stream with
    | .ok data => pure [.string data]
    | .error e => site.fault (.runtime (streamComplaint e))
  | .progressNew =>
    let title ← converted site args 1 (Value.toOptional? Value.toText?)
    let o ← Machine.newObject (.progress (.fresh title))
    pure [o]
  | .progressMethod m => m.run site args
  | .file f => f.run site args
  | .host r => r.run site args
  | .loader name opener => runLoader call site name opener
  | .routine r => runRoutine call site r args

end Script

end EventScripts
