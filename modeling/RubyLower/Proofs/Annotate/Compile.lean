import RubyLower.Proofs.Annotate.Lowering

/-!
# Options that only annotate do not change a compilation

Coverage, skipping unused backtraces and logging dynamic lookups only annotate a compilation.
Compiling a unit under two option sets that agree on everything else, both fail with the same
error or both give the same unit up to its annotations (`compileUnit_annotationsOnly`): the same
head, bodies equal once the coverage and backtrace flags are erased, each flagged for coverage
exactly where it starts a line when its coverage is on, and coverage lines that are one list of
registered lines without repeats, in the order first registered (`registerAll_toList`), when
coverage is on and none when it is off.
-/

namespace RubyLower

/-! ## Coverage lines -/

/-- Registering lines one by one after `acc` appends, in order, the first occurrence of each line
that is not there yet. -/
theorem foldl_addCoverageLine (lines : List Nat) (acc : Array Nat) :
    (lines.foldl addCoverageLine acc).toList =
      acc.toList ++ (lines.filter fun l => !acc.contains l).eraseDups := by
  induction lines generalizing acc with
  | nil => simp
  | cons l lines ih =>
    rw [List.foldl_cons, ih]
    unfold addCoverageLine
    by_cases hl : acc.contains l
    · rw [if_pos hl, List.filter_cons_of_neg (by simpa using hl)]
    · -- a new line goes at the end, and the lines after it drop its repeats
      rw [if_neg hl, List.filter_cons_of_pos (by simpa using hl), List.eraseDups_cons,
        Array.toList_push, List.append_assoc, List.singleton_append, List.filter_filter]
      simp only [Array.contains_push, Bool.not_or, Bool.and_comm]

/-- The lines registered from none, as a list: without repeats and in the order first registered
when coverage is on, and none when it is off. -/
theorem registerAll_toList (on : Bool) (lines : List Nat) :
    (registerAll on lines #[]).toList = if on then lines.eraseDups else [] := by
  cases on
  · rfl
  · simpa [registerAll] using foldl_addCoverageLine lines #[]

/-- The coverage lines never repeat a line. -/
theorem nodup_registerAll (on : Bool) (lines : List Nat) : (registerAll on lines #[]).toList.Nodup := by
  rw [registerAll_toList]
  split
  · exact Env.nodup_eraseDups lines
  · exact List.nodup_nil

/-! ## Compiled units -/

/-- A unit's source under option sets that agree on the core path and frozen string literals. -/
theorem SourceInfo.alike_ofUnit {o o' : Options} (h : o.Alike o') (file source : String) :
    (SourceInfo.ofUnit o file source).Alike (SourceInfo.ofUnit o' file source) :=
  ⟨h, rfl, rfl, by simp only [SourceInfo.ofUnit, Options.isCoreSource, h.corePath]⟩

/-- A compilation is the unit's file with the top-level unit and the coverage lines of the run of
`program` over a fresh environment, or the run's error. -/
theorem compileUnit_of_exec {options : Options} {u : SourceUnit} {r : Except LowerError ExecUnit}
    {s : Progress}
    (h : (Lower.program u.root).exec { source := SourceInfo.ofUnit options u.file u.source, frame := 0 }
      { env := Env.initial } = (r, s)) :
    compileUnit options u = r.map fun root => { file := u.file, root, coverage := s.coverage.toList } := by
  unfold compileUnit
  dsimp only
  rw [show ((Lower.program u.root).run _).run.run _ = (r, s) from h]
  cases r <;> rfl

/-- Two compilations of a unit from `file`, under `o` and `o'`, that differ only in their
annotations, `lines` being the lines their lowerings registered. -/
structure Compiled.Alike (o o' : Options) (file : String) (lines : List Nat) (cu cu' : Compiled) :
    Prop where
  /-- The same head, and bodies equal once the coverage and backtrace flags are erased. -/
  head : cu'.root.head = cu.root.head
  plain : cu.root.body.plain = cu'.root.body.plain
  /-- Each body flags a node for coverage exactly when its coverage is on and the node starts a
  line. -/
  marks : cu.root.body.CoverageMarks o.coverage
  marks' : cu'.root.body.CoverageMarks o'.coverage
  /-- The coverage lines: the lines registered, without repeats and in the order first registered,
  when coverage is on, and none when it is off. -/
  coverage : cu.coverage = if o.coverage then lines.eraseDups else []
  coverage' : cu'.coverage = if o'.coverage then lines.eraseDups else []
  nodup : cu.coverage.Nodup
  nodup' : cu'.coverage.Nodup
  /-- The file and its coverage lines are reported once when coverage is on, and nothing when it
  is off. -/
  reports : cu.coverageReports o = if o.coverage then [(file, lines.eraseDups)] else []
  reports' : cu'.coverageReports o' = if o'.coverage then [(file, lines.eraseDups)] else []

/-- **Options that only annotate do not change a compilation.** Two option sets that agree on
the core path and on frozen string literals may still differ in coverage, in skipping unused
backtraces and in logging dynamic lookups. Compiling any unit under both, either both fail with
the same error, or both give compiled units that differ only in their annotations, with coverage
lines from one list of registered lines. -/
theorem compileUnit_annotationsOnly (o o' : Options) (hcore : o'.corePath = o.corePath)
    (hfrozen : o'.frozenStringLiterals = o.frozenStringLiterals) (u : SourceUnit) :
    ∃ lines, ResultsAlike (Compiled.Alike o o' u.file lines) (compileUnit o u) (compileUnit o' u) := by
  have hp : Place.Alike { source := SourceInfo.ofUnit o u.file u.source, frame := 0 }
      { source := SourceInfo.ofUnit o' u.file u.source, frame := 0 } :=
    ⟨SourceInfo.alike_ofUnit ⟨hcore, hfrozen⟩ _ _, rfl, rfl, rfl⟩
  obtain ⟨-, ⟨lines, hcov, hcov'⟩, hres⟩ :=
    Lower.program_alike u.root _ _ { env := Env.initial } { env := Env.initial } hp rfl rfl rfl
  refine ⟨lines, ?_⟩
  generalize hx : (Lower.program u.root).exec
    { source := SourceInfo.ofUnit o u.file u.source, frame := 0 } { env := Env.initial } = x at hcov hres
  generalize hy : (Lower.program u.root).exec
    { source := SourceInfo.ofUnit o' u.file u.source, frame := 0 } { env := Env.initial } = y at hcov' hres
  obtain ⟨r, s⟩ := x
  obtain ⟨r', s'⟩ := y
  rw [compileUnit_of_exec hx, compileUnit_of_exec hy]
  -- the coverage lines of each run, from the lines both registered
  have hs : s.coverage = registerAll o.coverage lines #[] := hcov
  have hs' : s'.coverage = registerAll o'.coverage lines #[] := hcov'
  have hlines : s.coverage.toList = if o.coverage then lines.eraseDups else [] := by
    rw [hs, registerAll_toList]
  have hlines' : s'.coverage.toList = if o'.coverage then lines.eraseDups else [] := by
    rw [hs', registerAll_toList]
  -- one run failing and the other not is ruled out by the runs being alike
  cases r <;> cases r' <;> simp only [ResultsAlike, Except.map] at hres ⊢
  · exact hres
  · refine ⟨hres.head, hres.body.plain, hres.body.left, hres.body.right, hlines, hlines', ?_, ?_, ?_, ?_⟩
    · rw [hs]
      exact nodup_registerAll _ _
    · rw [hs']
      exact nodup_registerAll _ _
    · simp only [Compiled.coverageReports, hlines]
      split_ifs <;> rfl
    · simp only [Compiled.coverageReports, hlines']
      split_ifs <;> rfl

/-- Compiling one line with coverage on and off. -/
theorem annotationsOnly_lineCoverage :
    ∃ lines, ResultsAlike (Compiled.Alike {} { coverage := true } "t.rb" lines)
      (compileUnit {} { file := "t.rb", root := some (.mk ⟨0, 1⟩ true (.fixnum 1)) })
      (compileUnit { coverage := true } { file := "t.rb", root := some (.mk ⟨0, 1⟩ true (.fixnum 1)) }) :=
  compileUnit_annotationsOnly {} { coverage := true } rfl rfl _

end RubyLower
