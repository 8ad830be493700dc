import RubyLower.Proofs.OperandCopies

/-!
# Trees that differ only in their annotations

Two options of a lowering only annotate what it gives: with coverage on a line start is also
flagged as a registered coverage line, and the backtrace option lets a try skip building the
backtrace. `Op.plain` forgets both, the coverage flag of every node and the backtrace flag of
every try; two trees differ only in their annotations when their plain trees are equal.

A lowering flags for coverage exactly its line starts when coverage is on, and nothing when it is
off (`Op.CoverageMarks`). Two trees are alike for coverage `c` and `c'` (`Op.Alike c c'`) when
they have the same plain tree and carry the coverage flags that `c` and `c'` give. Whatever the
lowering reads off a node it has lowered (its span, the span it covers, its form, whether it is a
sequence to splice or a value to drop) is the same for alike nodes, so the sequence of alike
lists is alike (`Op.Alike.sequence`).
-/

namespace RubyLower

/-- The guard with its nodes mapped. -/
def RescueGuard.map {α β : Type} (g : α → β) : RescueGuard α → RescueGuard β
  | .any => .any
  | .classes cs => .classes (cs.map g)
  | .splat l => .splat (g l)

/-- The clause with its guard's nodes and its body mapped. -/
def RescueClause.map {α β : Type} (g : α → β) (cl : RescueClause α) : RescueClause β :=
  ⟨cl.guard.map g, g cl.body⟩

/-- The form with each of its children mapped, all else kept. -/
def Form.map {α β : Type} (g : α → β) : Form α → Form β
| .arrayLit xs => .arrayLit (xs.map g)
  | .hashLit ps => .hashLit (ps.map fun p => (g p.1, g p.2))
  | .concatHash xs => .concatHash (xs.map g)
  | .hashCast c => .hashCast (g c)
  | .range a b ex => .range (g a) (g b) ex
  | .interpolated xs => .interpolated (xs.map g)
  | .toS c => .toS (g c)
  | .interpolatedRegexp xs flags => .interpolatedRegexp (xs.map g) flags
  | .toSymbol c => .toSymbol (g c)
  | .once c => .once (g c)
  | .splatCast nilAs toAry copy c => .splatCast nilAs toAry copy (g c)
  | .arrayConcat xs => .arrayConcat (xs.map g)
  | .arrayAppend a v => .arrayAppend (g a) (g v)
  | .arrayDup c => .arrayDup (g c)
  | .arrayIndex a i => .arrayIndex (g a) i
  | .arraySlice a i j => .arraySlice (g a) i j
  | .arraySizeAtLeast a n => .arraySizeAtLeast (g a) n
  | .writeLocal s v => .writeLocal s (g v)
  | .writeIvar n v => .writeIvar n (g v)
  | .readCvar s n => .readCvar (g s) n
  | .writeCvar s n v => .writeCvar (g s) n (g v)
  | .writeGlobal n v => .writeGlobal n (g v)
  | .readConst m n => .readConst (g m) n
  | .writeConst m n v => .writeConst (g m) n (g v)
  | .flipFlop a b ex st => .flipFlop (g a) (g b) ex st
  | .call r n args b fl => .call (g r) n (args.map g) (b.map g) fl
  | .superCall args b sp im => .superCall (args.map g) (b.map g) sp im
  | .yieldCall args sp b => .yieldCall (args.map g) sp (g b)
  | .toProc c => .toProc (g c)
  | .primitive n args => .primitive n (args.map g)
  | .isNotProvided c => .isNotProvided (g c)
  | .frameOnStack m c => .frameOnStack m (g c)
  | .catchBreak id w b => .catchBreak id w (g b)
  | .blockDef k h b id m => .blockDef k h (g b) id m
  | .methodDef d h b => .methodDef (g d) h (g b)
  | .runModuleBody d h b => .runModuleBody (g d) h (g b)
  | .defineClass p n s => .defineClass (g p) n (s.map g)
  | .defineModule p n => .defineModule (g p) n
  | .singletonClass c => .singletonClass (g c)
  | .raiseIfFrozen c => .raiseIfFrozen (g c)
  | .insideModule c => .insideModule (g c)
  | .aliasMethod m a b => .aliasMethod (g m) (g a) (g b)
  | .undefMethod m n => .undefMethod (g m) (g n)
  | .seq xs => .seq (xs.map g)
  | .elidable r v => .elidable (g r) (g v)
  | .ifThen c t => .ifThen (g c) (g t)
  | .ifElse c t e => .ifElse (g c) (g t) (g e)
  | .unlessThen c t => .unlessThen (g c) (g t)
  | .and a b => .and (g a) (g b)
  | .or a b => .or (g a) (g b)
  | .not c => .not (g c)
  | .isNil c => .isNil (g c)
  | .whileLoop t c b => .whileLoop t (g c) (g b)
  | .breakJump id w v => .breakJump id w (g v)
  | .nextJump v => .nextJump (g v)
  | .returnJump id l v => .returnJump id l (g v)
  | .tryRescue b rs e ob => .tryRescue (g b) (rs.map (RescueClause.map g)) (e.map g) ob
  | .exceptionTranslating c => .exceptionTranslating (g c)
  | .ensure b e => .ensure (g b) (g e)
  | .catchReturn id b => .catchReturn id (g b)
  | .catchNext c => .catchNext (g c)
  | .defined c => .defined (g c)
  | .definedAs k c => .definedAs k (g c)
  | .namedCaptures m r s n => .namedCaptures (g m) (g r) (s.map g) (n.map g)
  | .optionalArg i m d => .optionalArg i m (g d)
  | .keywordArg n d => .keywordArg n (d.map g)
  | .nil => .nil
  | .boolean v => .boolean v
  | .integer v => .integer v
  | .long v => .long v
  | .float v => .float v
  | .object v => .object v
  | .string v => .string v
  | .selfValue => .selfValue
  | .readLocal s => .readLocal s
  | .readIvar n => .readIvar n
  | .readGlobal n => .readGlobal n
  | .aliasGlobal a b => .aliasGlobal a b
  | .nthMatch n => .nthMatch n
  | .readConstLexical s n => .readConstLexical s n
  | .readConstDynamic n => .readConstDynamic n
  | .dynamicLexicalScope => .dynamicLexicalScope
  | .lexicalScopeModule s => .lexicalScopeModule s
  | .dynamicLexicalScopeModule => .dynamicLexicalScopeModule
  | .initFlipFlop s => .initFlipFlop s
  | .defaultDefinee => .defaultDefinee
  | .redo => .redo
  | .retry => .retry
  | .dead w => .dead w
  | .checkArity a => .checkArity a
  | .preArg i m => .preArg i m
  | .restArgs s p => .restArgs s p
  | .postArg e p o => .postArg e p o
  | .keywordRest e => .keywordRest e
  | .blockArg b => .blockArg b
  | .singleBlockArg => .singleBlockArg
  | .shouldDestructure r => .shouldDestructure r

/-- The form with a try building its backtrace; any other form as it is. -/
def Form.tracing {α : Type} : Form α → Form α
  | .tryRescue b rs e _ => .tryRescue b rs e false
  | f => f

namespace Form

variable {α β : Type}

theorem children_clause_map (g : α → β) (cl : RescueClause α) :
    (cl.map g).children = cl.children.map g := by
  obtain ⟨gd, b⟩ := cl
  cases gd <;> simp [RescueClause.map, RescueGuard.map, RescueClause.children]

/-- Mapping a form maps its children, in order. -/
theorem children_map (g : α → β) (f : Form α) : (f.map g).children = f.children.map g := by
  cases f <;> simp only [Form.map, Form.children, List.map_cons, List.map_append, List.map_nil,
    Option.toList_map, List.map_flatMap, List.flatMap_map, children_clause_map]

/-- Mapping a form by two functions that agree on its children gives one form. -/
theorem map_congr {g g' : α → β} {f : Form α} (h : ∀ c ∈ f.children, g c = g' c) :
    f.map g = f.map g' := by
  -- the forms whose children sit in pairs, options or rescue clauses, then all others
  cases f with
  | hashLit ps =>
    simp only [Form.map, Form.hashLit.injEq]
    refine List.map_congr_left fun p hp => ?_
    simp only [Form.children, List.mem_flatMap] at h
    rw [h p.1 ⟨p, hp, by simp⟩, h p.2 ⟨p, hp, by simp⟩]
  | call r n args b fl =>
    simp only [Form.children, List.mem_cons, List.mem_append] at h
    simp only [Form.map, Form.call.injEq, true_and, and_true]
    exact ⟨h r (.inl (.inl rfl)), List.map_congr_left fun c hc => h c (.inl (.inr hc)),
      Option.map_congr fun c hc => h c (.inr (Option.mem_toList.2 hc))⟩
  | superCall args b sp im =>
    simp only [Form.children, List.mem_append] at h
    simp only [Form.map, Form.superCall.injEq, and_true]
    exact ⟨List.map_congr_left fun c hc => h c (.inl hc),
      Option.map_congr fun c hc => h c (.inr (Option.mem_toList.2 hc))⟩
  | defineClass p n sup =>
    simp only [Form.children, List.mem_cons] at h
    simp only [Form.map, Form.defineClass.injEq, true_and]
    exact ⟨h p (.inl rfl), Option.map_congr fun c hc => h c (.inr (Option.mem_toList.2 hc))⟩
  | keywordArg n d =>
    simp only [Form.map, Form.keywordArg.injEq, true_and]
    exact Option.map_congr fun c hc => h c (Option.mem_toList.2 hc)
  | tryRescue b rs e ob =>
    simp only [Form.children, List.mem_cons, List.mem_append, List.mem_flatMap] at h
    simp only [Form.map, Form.tryRescue.injEq, and_true]
    refine ⟨h b (.inl (.inl rfl)), List.map_congr_left fun cl hcl => ?_,
      Option.map_congr fun c hc => h c (.inr (Option.mem_toList.2 hc))⟩
    obtain ⟨gd, body⟩ := cl
    have hcl' : ∀ c ∈ RescueClause.children ⟨gd, body⟩, g c = g' c :=
      fun c hc => h c (.inl (.inr ⟨_, hcl, hc⟩))
    simp only [RescueClause.children, List.mem_append, List.mem_singleton] at hcl'
    simp only [RescueClause.map, RescueClause.mk.injEq]
    refine ⟨?_, hcl' body (.inr rfl)⟩
    cases gd with
    | any => rfl
    | classes cs => exact congrArg RescueGuard.classes (List.map_congr_left fun c hc => hcl' c (.inl hc))
    | splat l => exact congrArg RescueGuard.splat (hcl' l (.inl (List.mem_singleton_self l)))
  | _ => simp_all [Form.map, Form.children]

@[simp] theorem children_tracing (f : Form α) : f.tracing.children = f.children := by
  cases f <;> rfl

theorem clause_map_map {γ : Type} (g : α → β) (g' : β → γ) (cl : RescueClause α) :
    (cl.map g).map g' = cl.map (g' ∘ g) := by
  obtain ⟨gd, b⟩ := cl
  cases gd <;> simp [RescueClause.map, RescueGuard.map]

theorem map_map {γ : Type} (g : α → β) (g' : β → γ) (f : Form α) :
    (f.map g).map g' = f.map (g' ∘ g) := by
  cases f <;> simp [Form.map, Option.map_map, clause_map_map]

end Form

namespace Op

/-- A child has fewer nodes than its parent. -/
theorem length_nodes_lt_of_mem_children {f : Form Op} {s : Option Span} {fl : OpFlags} {c : Op}
    (h : c ∈ f.children) : c.nodes.length < (Op.mk f s fl).nodes.length := by
  rw [nodes_mk_eq, List.length_cons, Nat.lt_succ_iff, List.flatMap_def]
  exact (List.sublist_flatten_of_mem (List.mem_map_of_mem h)).length_le

/-- The node without its annotations: its coverage flag cleared, a try building its backtrace,
and the same below it. -/
def plain : Op → Op
  | .mk f s fl =>
    .mk (f.map fun c =>
        if _ : c.nodes.length < (Op.mk f s fl).nodes.length then plain c else c).tracing s
      { fl with coverage := false }
termination_by o => o.nodes.length

end Op

/-- The form without annotations: its children plain, and a try building its backtrace. -/
def Form.plain (f : Form Op) : Form Op :=
  (f.map Op.plain).tracing

namespace Op

theorem plain_mk (f : Form Op) (s : Option Span) (fl : OpFlags) :
    (Op.mk f s fl).plain = .mk f.plain s { fl with coverage := false } := by
  rw [plain, Form.plain, Form.map_congr fun c hc => dif_pos (length_nodes_lt_of_mem_children hc)]

/-- Forgetting annotations keeps the children, each forgotten. -/
theorem children_plain (f : Form Op) : f.plain.children = f.children.map plain := by
  rw [Form.plain, Form.children_tracing, Form.children_map]

@[simp] theorem span_plain (o : Op) : o.plain.span = o.span := by
  obtain ⟨f, s, fl⟩ := o
  rw [plain_mk]
  rfl

@[simp] theorem form_plain (o : Op) : o.plain.form = o.form.plain := by
  obtain ⟨f, s, fl⟩ := o
  rw [plain_mk]
  rfl

@[simp] theorem newline_plain (o : Op) : o.plain.flags.newline = o.flags.newline := by
  obtain ⟨f, s, fl⟩ := o
  rw [plain_mk]
  rfl

@[simp] theorem plain_ofForm (f : Form Op) : (ofForm f).plain = ofForm f.plain := by
  rw [ofForm, plain_mk]
  rfl

@[simp] theorem plain_withSpan (o : Op) (sp : Span) : (o.withSpan sp).plain = o.plain.withSpan sp := by
  obtain ⟨f, s, fl⟩ := o
  rw [withSpan, plain_mk, plain_mk]
  rfl

@[simp] theorem plain_markNewline (o : Op) : o.markNewline.plain = o.plain.markNewline := by
  obtain ⟨f, s, fl⟩ := o
  rw [markNewline, plain_mk, plain_mk]
  rfl

@[simp] theorem plain_markCoverage (o : Op) : o.markCoverage.plain = o.plain := by
  obtain ⟨f, s, fl⟩ := o
  rw [markCoverage, plain_mk, plain_mk]
  rfl

theorem mapM_encapsulatingSpan_plain {xs : List Op}
    (h : ∀ c ∈ xs, c.plain.encapsulatingSpan = c.encapsulatingSpan) :
    (xs.map plain).mapM encapsulatingSpan = xs.mapM encapsulatingSpan := by
  induction xs with
  | nil => rfl
  | cons x xs ih =>
    rw [List.map_cons, List.mapM_cons, List.mapM_cons, h x List.mem_cons_self,
      ih fun c hc => h c (List.mem_cons_of_mem _ hc)]

/-- The span a node covers does not depend on its annotations. -/
theorem encapsulatingSpan_plain : ∀ o : Op, o.plain.encapsulatingSpan = o.encapsulatingSpan
  | .mk f none fl => by
    have ih : ∀ c ∈ f.children, c.plain.encapsulatingSpan = c.encapsulatingSpan :=
      fun c _ => encapsulatingSpan_plain c
    rw [plain_mk, encapsulatingSpan, encapsulatingSpan]
    dsimp only
    rw [List.mapM_subtype (fun _ _ => rfl), List.unattach_attach, List.mapM_subtype (fun _ _ => rfl),
      List.unattach_attach, children_plain, mapM_encapsulatingSpan_plain ih]
  | .mk f (some s) fl => by
    rw [plain_mk, encapsulatingSpan, encapsulatingSpan]
termination_by o => sizeOf o
decreasing_by exact sizeOf_lt_of_mem_children (by assumption)

@[simp] theorem isDroppable_plain (o : Op) : o.plain.isDroppable = o.isDroppable := by
  obtain ⟨f, s, fl⟩ := o
  rw [plain_mk]
  cases f <;> rfl

/-! ## Coverage flags -/

/-- The coverage flags a lowering with coverage `c` gives: a node is flagged for coverage exactly
when coverage is on and the node starts a line, and so is every node below it. -/
def CoverageMarks (c : Bool) (o : Op) : Prop :=
  ∀ x ∈ o.nodes, x.flags.coverage = (c && x.flags.newline)

theorem coverageMarks_mk {c : Bool} {f : Form Op} {s : Option Span} {fl : OpFlags} :
    (Op.mk f s fl).CoverageMarks c ↔
      fl.coverage = (c && fl.newline) ∧ ∀ x ∈ f.children, x.CoverageMarks c := by
  unfold CoverageMarks
  rw [nodes_mk_eq]
  simp only [List.forall_mem_cons, List.mem_flatMap, forall_exists_index, and_imp]
  exact and_congr_right fun _ => ⟨fun h x hx y hy => h y x hx hy, fun h y x hx hy => h x hx y hy⟩

theorem coverageMarks_ofForm {c : Bool} {f : Form Op} :
    (ofForm f).CoverageMarks c ↔ ∀ x ∈ f.children, x.CoverageMarks c := by
  rw [ofForm, coverageMarks_mk]
  simp

theorem CoverageMarks.withSpan {c : Bool} {o : Op} (h : o.CoverageMarks c) (sp : Span) :
    (o.withSpan sp).CoverageMarks c := by
  obtain ⟨f, s, fl⟩ := o
  exact coverageMarks_mk.2 (coverageMarks_mk.1 h)

theorem CoverageMarks.children {c : Bool} {o : Op} (h : o.CoverageMarks c) :
    ∀ x ∈ o.children, x.CoverageMarks c := by
  obtain ⟨f, s, fl⟩ := o
  exact (coverageMarks_mk.1 h).2

/-- A node flagged as a line start, and for coverage when coverage is on, as a lowering flags
its line starts. -/
theorem CoverageMarks.lineStart {c : Bool} {o : Op} (h : o.CoverageMarks c) :
    (if c then o.markNewline.markCoverage else o.markNewline).CoverageMarks c := by
  obtain ⟨f, s, fl⟩ := o
  have hc := (coverageMarks_mk.1 h).2
  cases c
  · refine coverageMarks_mk.2 ⟨?_, hc⟩
    simpa [Op.flags] using (coverageMarks_mk.1 h).1
  · exact coverageMarks_mk.2 ⟨rfl, hc⟩

/-! ## Alike trees -/

/-- `a`, lowered with coverage `c`, and `b`, lowered with coverage `c'`, differ only in their
annotations: their plain trees are equal, and each is flagged for coverage as its lowering
flags. -/
structure Alike (c c' : Bool) (a b : Op) : Prop where
  plain : a.plain = b.plain
  left : a.CoverageMarks c
  right : b.CoverageMarks c'

namespace Alike

variable {c c' : Bool} {a b : Op}

theorem span (h : Alike c c' a b) : a.span = b.span := by
  rw [← span_plain a, h.plain, span_plain]

theorem newline (h : Alike c c' a b) : a.flags.newline = b.flags.newline := by
  rw [← newline_plain a, h.plain, newline_plain]

theorem form (h : Alike c c' a b) : a.form.plain = b.form.plain := by
  rw [← form_plain, h.plain, form_plain]

theorem encapsulatingSpan (h : Alike c c' a b) : a.encapsulatingSpan = b.encapsulatingSpan := by
  rw [← encapsulatingSpan_plain a, h.plain, encapsulatingSpan_plain]

theorem isDroppable (h : Alike c c' a b) : a.isDroppable = b.isDroppable := by
  rw [← isDroppable_plain a, h.plain, isDroppable_plain]

theorem withSpan (h : Alike c c' a b) (sp : Span) : Alike c c' (a.withSpan sp) (b.withSpan sp) :=
  ⟨by rw [plain_withSpan, plain_withSpan, h.plain], h.left.withSpan sp, h.right.withSpan sp⟩

theorem ensureSpan (h : Alike c c' a b) (sp : Span) : Alike c c' (a.ensureSpan sp) (b.ensureSpan sp) := by
  unfold Op.ensureSpan
  rw [h.span]
  split
  · exact h
  · exact h.withSpan sp

/-- Flagged as line starts by lowerings with coverage `c` and `c'`, alike nodes stay alike. -/
theorem lineStart (h : Alike c c' a b) :
    Alike c c' (if c then a.markNewline.markCoverage else a.markNewline)
      (if c' then b.markNewline.markCoverage else b.markNewline) := by
  refine ⟨?_, h.left.lineStart, h.right.lineStart⟩
  cases c <;> cases c' <;> simp [h.plain]

/-- Nodes made of alike children, with the same form otherwise, are alike. -/
theorem ofForm {f g : Form Op} (hf : f.plain = g.plain) (hl : ∀ x ∈ f.children, x.CoverageMarks c)
    (hr : ∀ y ∈ g.children, y.CoverageMarks c') : Alike c c' (Op.ofForm f) (Op.ofForm g) :=
  ⟨by rw [plain_ofForm, plain_ofForm, hf], coverageMarks_ofForm.2 hl, coverageMarks_ofForm.2 hr⟩

/-- Nodes built by one form over pairs of alike nodes, the first of each pair on one side and
the second on the other, are alike. -/
theorem ofPairs (h : Form (Op × Op)) (hc : ∀ p ∈ h.children, Alike c c' p.1 p.2) :
    Alike c c' (Op.ofForm (h.map Prod.fst)) (Op.ofForm (h.map Prod.snd)) := by
  refine ofForm ?_ ?_ ?_
  · rw [Form.plain, Form.plain, Form.map_map, Form.map_map]
    exact congrArg Form.tracing (Form.map_congr fun p hp => (hc p hp).plain)
  · intro x hx
    obtain ⟨p, hp, rfl⟩ := List.mem_map.1 (Form.children_map _ h ▸ hx)
    exact (hc p hp).left
  · intro y hy
    obtain ⟨p, hp, rfl⟩ := List.mem_map.1 (Form.children_map _ h ▸ hy)
    exact (hc p hp).right

/-- A node without children is alike itself. -/
theorem leaf (f : Form Op) (h : f.children = []) : Alike c c' (Op.ofForm f) (Op.ofForm f) :=
  ofForm rfl (by simp [h]) (by simp [h])

theorem refl_nil : Alike c c' Op.nil Op.nil :=
  leaf _ rfl

end Alike

/-- Lists alike item by item: the same plain items, each flagged as its lowering flags. -/
theorem forall₂_alike_iff {c c' : Bool} {xs ys : List Op} :
    List.Forall₂ (Alike c c') xs ys ↔ xs.map plain = ys.map plain ∧
      (∀ x ∈ xs, x.CoverageMarks c) ∧ ∀ y ∈ ys, y.CoverageMarks c' := by
  induction xs generalizing ys with
  | nil => cases ys <;> simp
  | cons x xs ih =>
    cases ys with
    | nil => simp
    | cons y ys =>
      rw [List.forall₂_cons, ih]
      simp only [List.map_cons, List.cons.injEq, List.forall_mem_cons]
      exact ⟨fun ⟨hxy, hrest⟩ => ⟨⟨hxy.plain, hrest.1⟩, ⟨hxy.left, hrest.2.1⟩, ⟨hxy.right, hrest.2.2⟩⟩,
        fun ⟨hp, hl, hr⟩ => ⟨⟨hp.1, hl.1, hr.1⟩, hp.2, hl.2, hr.2⟩⟩

/-- Lists related item by item are the two sides of one list of pairs. -/
theorem exists_pairs_of_forall₂ {α β : Type} {R : α → β → Prop} :
    ∀ {xs : List α} {ys : List β}, List.Forall₂ R xs ys →
      ∃ zs : List (α × β), zs.map Prod.fst = xs ∧ zs.map Prod.snd = ys ∧ ∀ p ∈ zs, R p.1 p.2
  | [], [], .nil => ⟨[], rfl, rfl, by simp⟩
  | x :: _, y :: _, .cons hxy hrest =>
    let ⟨zs, h1, h2, h3⟩ := exists_pairs_of_forall₂ hrest
    ⟨(x, y) :: zs, by rw [List.map_cons, h1], by rw [List.map_cons, h2],
      List.forall_mem_cons.2 ⟨hxy, h3⟩⟩

theorem Alike.children {c c' : Bool} {a b : Op} (h : Alike c c' a b) :
    List.Forall₂ (Alike c c') a.children b.children := by
  refine forall₂_alike_iff.2 ⟨?_, h.left.children, h.right.children⟩
  rw [Op.children, Op.children, ← children_plain, ← children_plain, h.form]

/-! ## Sequences of alike nodes -/

section Sequence

variable {c c' : Bool}

theorem Form.eq_seq_of_plain {f : Form Op} {zs : List Op} (h : f.plain = .seq zs) :
    ∃ xs, f = .seq xs ∧ xs.map plain = zs := by
  cases f <;> simp_all [Form.plain, Form.map, Form.tracing]

theorem spliceable_mk_of_ne {f : Form Op} {s : Option Span} {fl : OpFlags}
    (hf : ∀ xs, f ≠ .seq xs) : (Op.mk f s fl).spliceable = none := by
  unfold Op.spliceable
  split
  · next xs _ heq =>
    cases heq
    exact absurd rfl (hf xs)
  · rfl

/-- A node flagged as its lowering flags is a sequence to splice exactly when its plain node
is, with the plain items. -/
theorem spliceable_plain {o : Op} (h : o.CoverageMarks c) :
    o.plain.spliceable = o.spliceable.map (List.map plain) := by
  obtain ⟨f, s, fl⟩ := o
  -- a line start is no sequence to splice, and a node that is none carries no coverage flag
  have hfl : ({ fl with coverage := false } : OpFlags) = {} ↔ fl = {} := by
    have hmark := (coverageMarks_mk.1 h).1
    obtain ⟨n, cv⟩ := fl
    simp only at hmark
    subst hmark
    cases n <;> cases c <;> simp
  by_cases hseq : ∃ xs, f = .seq xs
  · obtain ⟨xs, rfl⟩ := hseq
    cases s with
    | none =>
      by_cases h0 : fl = {}
      · simp [Op.spliceable, plain_mk, Form.plain, Form.map, Form.tracing, h0]
      · simp [Op.spliceable, plain_mk, Form.plain, Form.map, Form.tracing, mt hfl.1 h0, h0]
    | some sp => simp [Op.spliceable, plain_mk, Form.plain, Form.map, Form.tracing]
  · have hne : ∀ zs, f.plain ≠ .seq zs := by
      intro zs hz
      obtain ⟨xs, hx, _⟩ := Form.eq_seq_of_plain hz
      exact hseq ⟨xs, hx⟩
    rw [plain_mk, spliceable_mk_of_ne hne, spliceable_mk_of_ne fun xs hx => hseq ⟨xs, hx⟩]
    rfl

/-- Alike nodes are both sequences to splice, with alike items, or neither. -/
theorem Alike.spliceable {a b : Op} (h : Alike c c' a b) :
    Option.Rel (List.Forall₂ (Alike c c')) a.spliceable b.spliceable := by
  have hsp : a.spliceable.map (List.map Op.plain) = b.spliceable.map (List.map Op.plain) := by
    rw [← spliceable_plain h.left, ← spliceable_plain h.right, h.plain]
  cases ha : a.spliceable with
  | none =>
    rw [ha, Option.map_none, eq_comm, Option.map_eq_none_iff] at hsp
    rw [hsp]
    exact .none
  | some xs =>
    rw [ha, Option.map_some, eq_comm, Option.map_eq_some_iff] at hsp
    obtain ⟨ys, hb, hys⟩ := hsp
    rw [hb]
    refine .some (forall₂_alike_iff.2 ⟨hys.symm, ?_, ?_⟩)
    · rw [spliceable_eq_some ha] at h
      exact h.left.children
    · rw [spliceable_eq_some hb] at h
      exact h.right.children

theorem forall₂_splice {xs ys : List Op} (h : List.Forall₂ (Alike c c') xs ys) :
    List.Forall₂ (Alike c c') (splice xs) (splice ys) := by
  induction h with
  | nil => exact .nil
  | cons hab _ ih =>
    have hcons : ∀ o l, splice (o :: l) = (Op.spliceable o).getD [o] ++ splice l :=
      fun _ _ => List.flatMap_cons
    rw [hcons, hcons]
    refine List.rel_append ?_ ih
    have hs := hab.spliceable
    revert hs
    cases Op.spliceable _ <;> cases Op.spliceable _ <;> intro hs
    · exact .cons hab .nil
    · cases hs
    · cases hs
    · cases hs with
      | some hitems => exact hitems

theorem forall₂_dropIdle {xs ys : List Op} (h : List.Forall₂ (Alike c c') xs ys) :
    List.Forall₂ (Alike c c') (dropIdle xs) (dropIdle ys) := by
  induction h with
  | nil => exact .nil
  | cons hab hrest ih =>
    cases hrest with
    | nil => exact .cons hab .nil
    | cons hab' hrest' =>
      rw [dropIdle_cons (List.cons_ne_nil _ _), dropIdle_cons (List.cons_ne_nil _ _),
        hab.isDroppable]
      split
      · exact ih
      · exact .cons hab ih

/-- The sequences of alike lists are alike. -/
theorem Alike.sequence {xs ys : List Op} (h : List.Forall₂ (Alike c c') xs ys) :
    Alike c c' (Op.sequence xs) (Op.sequence ys) := by
  have hd := forall₂_dropIdle (forall₂_splice h)
  unfold Op.sequence
  generalize dropIdle (splice xs) = l at hd
  generalize dropIdle (splice ys) = l' at hd
  cases hd with
  | nil => exact Alike.refl_nil
  | cons hab hrest =>
    cases hrest with
    | nil => exact hab
    | cons hab' hrest' =>
      have hall := forall₂_alike_iff.1 (.cons hab (.cons hab' hrest'))
      exact Alike.ofForm (by simp only [Form.plain, Form.map, Form.tracing, hall.1]) hall.2.1 hall.2.2

end Sequence

end Op

end RubyLower
