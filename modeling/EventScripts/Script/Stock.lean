import EventScripts.Script.Native.Require

/-!
# New machines

What a new machine holds: the tables of the standard library, all reachable from the global
variables. `Vm.fresh` builds it from the names and functions of each library.
-/

set_option autoImplicit false

namespace EventScripts

namespace Script

namespace Stock

/-- Functions of which only the presence matters. -/
def present (names : List String) : List (String × Native) :=
  names.map fun name => (name, .standard name)

/-- Functions that are global variables. -/
def globalFunctions : List (String × Native) :=
  [("collectgarbage", .basic .collect), ("error", .basic .error),
    ("getmetatable", .basic .getMetatable), ("pcall", .basic .pcall), ("print", .basic .print),
    ("rawequal", .basic .rawEqual), ("rawget", .basic .rawGet), ("rawlen", .basic .rawLength),
    ("rawset", .basic .rawSet), ("require", .basic .require), ("select", .basic .select),
    ("setmetatable", .basic .setMetatable), ("tostring", .basic .toString),
    ("type", .basic .type), ("xpcall", .basic .xpcall)]
  ++ present ["assert", "dofile", "ipairs", "load", "loadfile", "next", "pairs", "tonumber", "warn"]

/-- Functions of `string`. -/
def stringFunctions : List (String × Native) :=
  [("format", .basic .format), ("len", .basic .length), ("lower", .basic .lower),
    ("rep", .basic .rep), ("reverse", .basic .reverse), ("upper", .basic .upper)]
  ++ present ["byte", "char", "dump", "find", "gmatch", "gsub", "match", "pack", "packsize",
    "sub", "unpack"]

/-- Functions of `coroutine`. -/
def coroutineFunctions : List (String × Native) :=
  [("create", .basic .coroutineCreate), ("isyieldable", .basic .isYieldable)]
  ++ present ["close", "resume", "running", "status", "wrap", "yield"]

/-- Functions of `debug`. -/
def debugFunctions : List (String × Native) :=
  [("traceback", .basic .traceback)]
  ++ present ["debug", "gethook", "getinfo", "getlocal", "getmetatable", "getregistry",
    "getupvalue", "getuservalue", "setcstacklimit", "sethook", "setlocal", "setmetatable",
    "setupvalue", "setuservalue", "upvalueid", "upvaluejoin"]

/-- Functions of `table`. -/
def tableFunctions : List (String × Native) :=
  present ["concat", "insert", "move", "pack", "remove", "sort", "unpack"]

/-- Functions of `io`. -/
def ioFunctions : List (String × Native) :=
  [("close", .file .close), ("open", .file .open_), ("type", .file .kind)]
  ++ present ["flush", "input", "lines", "output", "popen", "read", "tmpfile", "write"]

/-- Functions of `os`. -/
def osFunctions : List (String × Native) :=
  [("remove", .file .remove), ("rename", .file .rename)]
  ++ present ["clock", "date", "difftime", "execute", "exit", "getenv", "setlocale", "time",
    "tmpname"]

/-- Functions of `math`. -/
def mathFunctions : List (String × Native) :=
  present ["abs", "acos", "asin", "atan", "atan2", "ceil", "cos", "cosh", "deg", "exp", "floor",
    "fmod", "frexp", "ldexp", "log", "log10", "max", "min", "modf", "pow", "rad", "random",
    "randomseed", "sin", "sinh", "sqrt", "tan", "tanh", "tointeger", "type", "ult"]

/-- Functions of `utf8`. -/
def utf8Functions : List (String × Native) :=
  present ["char", "codepoint", "codes", "len", "offset"]

/-- Functions of `package`. -/
def packageFunctions : List (String × Native) := present ["loadlib", "searchpath"]

/-- What `require` asks, in order: preloaded modules, script files, and two for native modules. -/
def searchers : List Native :=
  [.basic .searchPreload, .basic .searchScripts, .basic .searchNative, .basic .searchNativeRoot]

/-- Entries of functions under their names, numbered from `base` on. -/
def entries (base : Nat) (fs : List (String × Native)) : List (Key × Value) :=
  fs.mapIdx fun i (name, f) => (.text name, .function ⟨base + i, .native f⟩)

/-- The table with the list of searchers. -/
def searchersRef : Nat := 5

/-- The libraries that are tables, with their numbers. -/
def libraries : List (String × Nat) :=
  [("package", Vm.package), ("string", 6), ("coroutine", 7), ("debug", 8), ("table", 9), ("io", 10),
    ("os", 11), ("math", 12), ("utf8", 13)]

/-- Entries of the libraries under their names. -/
def libraryEntries : List (Key × Value) :=
  libraries.map fun (name, ref) => (.text name, .table ref)

/-- Entries of the global variables. -/
def globalEntries : List (Key × Value) :=
  entries 100 globalFunctions ++ libraryEntries
    ++ [(.text "_G", .table Vm.globals), (.text "_VERSION", .text "Lua 5.4")]

/-- Entries of `package`. -/
def packageEntries : List (Key × Value) :=
  entries 200 packageFunctions
    ++ [(.text "config", .text "/\n;\n?\n!\n-\n"), (.text "cpath", .text nativePath),
      (.text "path", .text scriptPath), (.text "loaded", .table Vm.loaded),
      (.text "preload", .table Vm.preload), (.text "searchers", .table searchersRef)]

/-- The list of the searchers. -/
def searcherTable : Table :=
  { Table.empty with
    entries := searchers.mapIdx fun i f =>
      (.integer (Int64.ofNat (i + 1)), .function ⟨300 + i, .native f⟩)
    slots := searchers.length }

/-- Constants of `math`. -/
def mathConstants : List (Key × Value) :=
  [(.text "pi", .double 3.141592653589793), (.text "huge", .double (1 / 0)),
    (.text "maxinteger", .integer Int64.maxValue), (.text "mininteger", .integer Int64.minValue)]

/-- The pattern of a character in UTF-8. -/
def characterPattern : Bytes :=
  textBytes "[" ++ [0x00] ++ textBytes "-\x7f" ++ [0xC2] ++ textBytes "-" ++ [0xFD]
    ++ textBytes "][" ++ [0x80] ++ textBytes "-" ++ [0xBF] ++ textBytes "]*"

/-- Constants of `io`: the standard streams. -/
def ioFiles : List (Key × Value) :=
  [(.text "stdin", .object 0), (.text "stdout", .object 1), (.text "stderr", .object 2)]

end Stock

open Stock in
/-- A new machine. -/
def Vm.fresh : Vm where
  tables := #[.ofEntries globalEntries,
    .ofEntries (libraryEntries ++ [(.text "_G", .table Vm.globals)]),
    .empty,
    .ofEntries packageEntries,
    .ofEntries [(.text "__index", .table 6)],
    searcherTable,
    .ofEntries (entries 400 stringFunctions),
    .ofEntries (entries 500 coroutineFunctions),
    .ofEntries (entries 600 debugFunctions),
    .ofEntries (entries 700 tableFunctions),
    .ofEntries (entries 800 ioFunctions ++ ioFiles),
    .ofEntries (entries 900 osFunctions),
    .ofEntries (entries 1000 mathFunctions ++ mathConstants),
    .ofEntries (entries 1100 utf8Functions ++ [(.text "charpattern", .string characterPattern)])]
  objects := #[.stream, .stream, .stream]
  nextId := 2000
  journal := []
  files := .fresh
  asked := []

end Script

end EventScripts
