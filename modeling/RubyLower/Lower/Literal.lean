import RubyLower.Lower.Monad
import RubyLower.Text.Integer
import RubyLower.Syntax.NamedGroups

/-!
# Lowering literals

Numbers, strings and their interpolations, symbols, regular expressions, hashes, ranges and
flip-flops.

* A fixnum that fits in 32 bits is an integer, else a long; a bignum's digits are read as an
  integer, a long when it fits in 64 bits and a big integer constant otherwise.
* A frozen string (or any string when string literals are frozen) is a frozen string constant
  that `defined?` reports as an expression.
* A hash literal is split at each `**splat` into parts merged from left to right.
* Matching a regular expression literal with named groups against a value also assigns each
  group to the local of its name.
-/

namespace RubyLower

namespace Lower

/-- A read of a top-level constant. -/
def topConst (name : String) : Op :=
  Op.ofForm (.readConst (Op.object .objectClass) name)

/-- A fixnum: an integer when it fits in 32 bits, else a long. -/
def fixnum (v : Int) (span : Span) : Lower Op :=
  if -2147483648 ≤ v ∧ v ≤ 2147483647 then atSpan (Op.ofForm (.integer v)) span
  else atSpan (Op.ofForm (.long v)) span

/-- A bignum: a long when it fits in 64 bits, a big integer constant otherwise. -/
def bignum (digits : String) (span : Span) : Lower Op :=
  match Text.readInteger digits with
  | none => fail .unsupportedShape .unsupportedNode ["Bignum"] span
  | some v =>
    if -9223372036854775808 ≤ v ∧ v ≤ 9223372036854775807 then
      atSpan (Op.ofForm (.long v)) span
    else atSpan (Op.object (.bignum v)) span

/-- `a/br` converts through the top-level `Rational`. -/
def rational (r : Recur) (numerator denominator : Node) (span : Span) : Lower Op := do
  let n ← r.expr numerator
  let d ← r.expr denominator
  atSpan (Op.call (topConst "Rational") "convert" [n, d] privateCall) span

/-- `bi` converts through the top-level `Complex` with real part zero. -/
def complex (r : Recur) (number : Node) (span : Span) : Lower Op := do
  let n ← r.expr number
  atSpan (Op.call (topConst "Complex") "convert" [Op.ofForm (.integer 0), n] privateCall) span

/-- A string literal; frozen ones are frozen string constants. -/
def str (value : String) (frozen : Bool) (span : Span) : Lower Op := do
  if frozen || (← options).frozenStringLiterals then
    atSpan (Op.ofForm (.definedAs .expression (Op.object (.frozenString value)))) span
  else atSpan (Op.ofForm (.string value)) span

/-- A command: the backtick method called on self. -/
def command (text : Op) (span : Span) : Lower Op :=
  atSpan (Op.call Op.selfValue "`" [text] privateCall) span

/-- An interpolated string. -/
def dstr (r : Recur) (parts : List Node) (span : Span) : Lower Op := do
  atSpan (Op.ofForm (.interpolated (← exprs r parts))) span

/-- An interpolated symbol. -/
def dsymbol (r : Recur) (parts : List Node) (span : Span) : Lower Op := do
  atSpan (Op.ofForm (.toSymbol (Op.ofForm (.interpolated (← exprs r parts))))) span

/-- An interpolated command. -/
def dxstr (r : Recur) (parts : List Node) (span : Span) : Lower Op := do
  command (Op.ofForm (.interpolated (← exprs r parts))) span

/-- One `#{...}` segment, converted with `to_s`; an empty one is the empty string. -/
def evstr (r : Recur) (body : Option Node) (span : Span) : Lower Op :=
  match body with
  | none => atSpan (Op.ofForm (.string "")) span
  | some b => do atSpan (Op.ofForm (.toS (← r.expr b))) span

/-- A regular expression constant; "interpolate once" means nothing for it. -/
def regexp (source : String) (flags : RegexpFlags) (span : Span) : Lower Op :=
  atSpan (Op.object (.regexp source flags.withoutOnce)) span

/-- An interpolated regular expression, built once when the flag says so. -/
def dregexp (r : Recur) (parts : List Node) (flags : RegexpFlags) (span : Span) : Lower Op := do
  let re := Op.ofForm (.interpolatedRegexp (← exprs r parts) flags.withoutOnce)
  if flags.once then atSpan (Op.ofForm (.once re)) span
  else atSpan re span

/-- A bare regular expression as a condition matches the last line read, `$_`. -/
def matchLastLine (r : Recur) (regexp : Node) (span : Span) : Lower Op := do
  let re ← r.expr regexp
  atSpan (Op.call re "=~" [Op.ofForm (.readGlobal "$_")]) span

/-- The assignments of one named group: from the match data, and nil when the match fails. -/
def captureSetters (matchData : Slot) (declareIn : Nat) (name : String) : Lower (Op × Op) := do
  let _ ← declare declareIn name
  let slot ← resolveOrDeclare name
  return (Op.writeLocal slot (Op.call (Op.readLocal matchData) "[]" [Op.symbol name]),
    Op.writeLocal slot Op.nil)

/-- `regexp =~ value`; with a regular expression literal that has named groups, the match also
assigns each group to the local of its name, or nil when it fails. -/
def match2 (r : Recur) (receiver value : Node) (span : Span) : Lower Op := do
  let re ← r.expr receiver
  let v ← r.expr value
  let matchCall ← atSpan (Op.call re "=~" [v]) span
  match receiver.kind with
  | .regexp source _ =>
    let names := namedGroups source
    if names.isEmpty then return matchCall
    else
      let matchData ← temp "match_data"
      let declareIn := (← env).nearestOwnScope (← frame)
      let setters ← names.mapM (captureSetters matchData declareIn)
      let readMatchData := Op.writeLocal matchData (Op.ofForm (.readGlobal "$~"))
      return Op.ofForm (.namedCaptures matchCall readMatchData (setters.map Prod.fst)
        (setters.map Prod.snd))
  | _ => return matchCall

/-- Lower one pair of a hash literal into the finished parts and the pairs pending. -/
def hashStep (r : Recur) (acc : List Op × List (Op × Op)) (pair : Option Node × Node) :
    Lower (List Op × List (Op × Op)) :=
  match pair with
  | (some key, value) => do
    let k ← r.expr key
    let v ← r.expr value
    return (acc.1, acc.2 ++ [(k, v)])
  | (none, value) => do
    let parts := if acc.2.isEmpty then acc.1 else acc.1 ++ [Op.ofForm (.hashLit acc.2)]
    let v ← r.expr value
    return (parts ++ [Op.ofForm (.hashCast v)], [])

/-- A hash literal: one hash, or the parts between double splats merged in order. -/
def hash (r : Recur) (pairs : List (Option Node × Node)) (span : Span) : Lower Op := do
  let (parts, pending) ← pairs.foldlM (hashStep r) ([], [])
  let parts :=
    if !pending.isEmpty || parts.isEmpty then parts ++ [Op.ofForm (.hashLit pending)] else parts
  match parts with
  | [single] => atSpan single span
  | _ => atSpan (Op.ofForm (.concatHash parts)) span

/-- A range; a missing end is nil. -/
def range (r : Recur) (low high : Option Node) (exclusive : Bool) (span : Span) : Lower Op := do
  let lo ← match low with
    | some n => r.expr n
    | none => pure Op.nil
  let hi ← match high with
    | some n => r.expr n
    | none => pure Op.nil
  atSpan (Op.ofForm (.range lo hi exclusive)) span

/-- A flip-flop keeps its state in a hidden local of the current frame, set up when the frame's
unit starts. -/
def flipFlop (r : Recur) (low high : Node) (exclusive : Bool) (span : Span) : Lower Op := do
  let lo ← r.expr low
  let hi ← r.expr high
  let f ← frame
  let state ← onEnv (·.allocFlipFlop f)
  atSpan (Op.ofForm (.flipFlop lo hi exclusive state)) span

end Lower

end RubyLower
