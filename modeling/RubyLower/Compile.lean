import RubyLower.Lower.Program

/-!
# Compiling units

A unit is a file's name, its source text (for line numbers) and its parse tree, absent for an
empty file. `compileUnit` lowers one unit in a fresh scope environment and gives its top-level
unit and the lines registered for coverage; `compileAll` lowers several, each on its own; and
`compileReporting` keeps the units that compile and turns their faults into diagnostics sorted
by file and position, while any other failure of a unit stops it as a whole.
-/

namespace RubyLower

/-- A parsed source file. -/
structure SourceUnit where
  file : String
  source : String := ""
  root : Option Node

/-- A compiled unit: its file, its top-level unit and its coverage lines, in first-registration
order (none unless coverage is on). -/
structure Compiled where
  file : String
  root : ExecUnit
  coverage : List Nat

/-- Lower one unit. -/
def compileUnit (options : Options) (u : SourceUnit) : Except LowerError Compiled :=
  let place : Place := { source := SourceInfo.ofUnit options u.file u.source, frame := 0 }
  match ((Lower.program u.root).run place).run.run { env := Env.initial } with
  | (.ok root, s) => .ok { file := u.file, root, coverage := s.coverage.toList }
  | (.error e, _) => .error e

/-- The coverage reports of a compiled unit: its file and lines, once, when coverage is on. -/
def Compiled.coverageReports (options : Options) (c : Compiled) : List (String × List Nat) :=
  if options.coverage then [(c.file, c.coverage)] else []

/-- Lower each unit on its own, in order. -/
def compileAll (options : Options) (units : List SourceUnit) : List (Except LowerError Compiled) :=
  units.map (compileUnit options)

/-- What a unit's lowering gives a report: the compiled unit, or the diagnostic of its fault;
any other failure stops the whole compilation. -/
def reportOf (u : SourceUnit) : Except LowerError Compiled → Except LowerError (Compiled ⊕ Diagnostic)
  | .ok c => .ok (.inl c)
  | .error (.fault f) => .ok (.inr (f.toDiagnostic u.file))
  | .error e => .error e

/-- The units that compile, in order, and the diagnostics of those that fail with a fault,
sorted; a failure that is not a fault stops the whole compilation. -/
def compileReporting (options : Options) (units : List SourceUnit) :
    Except LowerError (List Compiled × List Diagnostic) := do
  let reports ← (units.zip (compileAll options units)).mapM fun (u, r) => reportOf u r
  return (reports.filterMap Sum.getLeft?, Diagnostic.sort (reports.filterMap Sum.getRight?))

end RubyLower
