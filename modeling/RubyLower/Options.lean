import RubyLower.Json.Read

/-!
# Translation options

The options of a translation, read from JSON text. An object gives options by name
(`logDynamicConstantLookup`, `backtracesOmitUnused`, `coverage`, `corePath`,
`frozenStringLiterals`); an array gives them by position in that order. Options left out keep
their defaults, other names are ignored, and a name given twice, a value of the wrong type, an
array that is too long or any other value is refused.
-/

namespace RubyLower

/-- The options of a translation. -/
structure Options where
  /-- Report each dynamic constant lookup (a log only; the output does not change). -/
  logDynamicConstantLookup : Bool := false
  /-- A rescue that cannot observe the backtrace may skip building it. -/
  backtracesOmitUnused : Bool := true
  /-- Register the line of each line start for coverage. -/
  coverage : Bool := false
  /-- Files whose name starts with this prefix are core library sources. -/
  corePath : Option String := none
  /-- String literals are frozen. -/
  frozenStringLiterals : Bool := false
  deriving DecidableEq

/-- Why options could not be had. -/
inductive OptionsError where
  /-- The text is not JSON of the options' shape. -/
  | malformed
  /-- The options file at this path could not be read. -/
  | unreadable (path : String)
  deriving DecidableEq

namespace Options

/-- Whether `file` is a core library source: the core path is set, not empty, and a prefix of
the file's name. -/
def isCoreSource (o : Options) (file : String) : Bool :=
  match o.corePath with
  | some path => !path.isEmpty && file.startsWith path
  | none => false

/-- The option names, in positional order. -/
def fieldNames : List String :=
  ["logDynamicConstantLookup", "backtracesOmitUnused", "coverage", "corePath",
    "frozenStringLiterals"]

/-- Set the option at position `i` from a JSON value of its type. -/
def setField (o : Options) (i : Nat) (v : Json) : Except OptionsError Options :=
  match i, v with
  | 0, .bool b => .ok { o with logDynamicConstantLookup := b }
  | 1, .bool b => .ok { o with backtracesOmitUnused := b }
  | 2, .bool b => .ok { o with coverage := b }
  | 3, .null => .ok { o with corePath := none }
  | 3, .string s => .ok { o with corePath := some s }
  | 4, .bool b => .ok { o with frozenStringLiterals := b }
  | _, _ => .error .malformed

/-- Options from the members of an object: a known name sets its option once, other names are
ignored. `seen` holds the positions already set. -/
def ofMembers (o : Options) (seen : List Nat) : List (String × Json) → Except OptionsError Options
  | [] => .ok o
  | (k, v) :: rest =>
    match fieldNames.idxOf? k with
    | some i =>
      if seen.contains i then .error .malformed
      else do ofMembers (← o.setField i v) (i :: seen) rest
    | none => ofMembers o seen rest

/-- Options from the items of an array, by position. -/
def ofItems (o : Options) (i : Nat) : List Json → Except OptionsError Options
  | [] => .ok o
  | v :: rest =>
    if i < fieldNames.length then do ofItems (← o.setField i v) (i + 1) rest
    else .error .malformed

/-- Options from a JSON value: an object by name, an array by position. -/
def ofJson : Json → Except OptionsError Options
  | .object members => ofMembers {} [] members
  | .array items => ofItems {} 0 items
  | _ => .error .malformed

/-- Options from JSON text. The value of an ignored name is only skipped, so it is read
leniently. -/
def parse (text : String) : Except OptionsError Options :=
  match Json.readSkipping (fun k => !fieldNames.contains k) text with
  | some v => ofJson v
  | none => .error .malformed

/-- Options from a file: its text, or `none` when it cannot be read. -/
def ofFile (path : String) (contents : Option String) : Except OptionsError Options :=
  match contents with
  | some text => parse text
  | none => .error (.unreadable path)

end Options

end RubyLower
