import RubyLower.Proofs.Lookup.RenameSteps
import RubyLower.Proofs.Annotate.Rules
import RubyLower.Proofs.ConcatChain
import RubyLower.Proofs.Jumps.Parts

/-!
# Every lowering rule is matched on a tree and its renaming

Each rule, run on the parts of a node and on the parts of its renaming (`Node.renameLookups σ`),
is matched (`Lower.Renamed`) when the recursive calls are: the same steps on the environment up
to method names, the same error or results that differ only in names. What the rules build from
such results differs only in names (`Op.Renamed.ofPairs` and the builders below).

A rule that looks at the kind of a part sees the same kind on both sides, since renaming keeps
every node's kind and every name but the looked-up ones: the proofs go through the kinds one by
one. A rule that looks into a node it has lowered sees the same up to names: an argument spread
without a copy (`Lower.uncopied`), the right side of a multiple assignment, and a constant read
turned into a write, which writes the constant the read reads (`Lower.constantWrite_renamed`).
-/

namespace RubyLower

/-! ## Inverting erased forms -/

namespace Form

variable {f : Form Op}

theorem eq_splatCast_of_nameless {nilAs : SplatNil} {toAry copy : Bool} {x : Op}
    (h : f.nameless = .splatCast nilAs toAry copy x) :
    ∃ y, f = .splatCast nilAs toAry copy y ∧ y.nameless = x := by
  cases f <;> simp_all [Form.nameless, Form.map, Form.unnamed]

theorem eq_arrayLit_of_nameless {xs : List Op} (h : f.nameless = .arrayLit xs) :
    ∃ ys, f = .arrayLit ys ∧ ys.map Op.nameless = xs := by
  cases f <;> simp_all [Form.nameless, Form.map, Form.unnamed]

theorem eq_nil_of_nameless (h : f.nameless = .nil) : f = .nil := by
  cases f <;> simp_all [Form.nameless, Form.map, Form.unnamed]

theorem eq_readConst_of_nameless {m : Op} {name : String} (h : f.nameless = .readConst m name) :
    ∃ m' name', f = .readConst m' name' ∧ m'.nameless = m := by
  cases f <;> simp_all [Form.nameless, Form.map, Form.unnamed]

theorem eq_readConstLexical_of_nameless {scope : Nat} {name : String}
    (h : f.nameless = .readConstLexical scope name) : ∃ name', f = .readConstLexical scope name' := by
  cases f <;> simp_all [Form.nameless, Form.map, Form.unnamed]

theorem eq_readConstDynamic_of_nameless {name : String} (h : f.nameless = .readConstDynamic name) :
    ∃ name', f = .readConstDynamic name' := by
  cases f <;> simp_all [Form.nameless, Form.map, Form.unnamed]

end Form

/-! ## Building trees that differ in names -/

/-- Two unit heads that differ at most in the unit's name. -/
def UnitHead.Renamed (h h' : UnitHead) : Prop :=
  { h with name := "" } = { h' with name := "" }

theorem UnitHead.Renamed.eq {h h' : UnitHead} (hh : h.Renamed h') :
    { h with name := "" } = { h' with name := "" } := hh

namespace Op.Renamed

variable {a a' b b' d d' : Op}

/-- The children of a form over one, two or three pairs of trees that differ in names. -/
theorem children₁ (h : a.Renamed a') : ∀ p ∈ [(a, a')], p.1.Renamed p.2 :=
  List.forall_mem_singleton.2 h

theorem children₂ (ha : a.Renamed a') (hb : b.Renamed b') :
    ∀ p ∈ [(a, a'), (b, b')], p.1.Renamed p.2 :=
  List.forall_mem_cons.2 ⟨ha, children₁ hb⟩

theorem children₃ (ha : a.Renamed a') (hb : b.Renamed b') (hd : d.Renamed d') :
    ∀ p ∈ [(a, a'), (b, b'), (d, d')], p.1.Renamed p.2 :=
  List.forall_mem_cons.2 ⟨ha, children₂ hb hd⟩

theorem writeLocal (h : a.Renamed a') (s : Slot) : (Op.writeLocal s a).Renamed (Op.writeLocal s a') :=
  ofPairs (.writeLocal s (a, a')) (children₁ h)

theorem not (h : a.Renamed a') : (Op.not a).Renamed (Op.not a') :=
  ofPairs (.not (a, a')) (children₁ h)

theorem ifElse (ha : a.Renamed a') (hb : b.Renamed b') (hd : d.Renamed d') :
    (Op.ifElse a b d).Renamed (Op.ifElse a' b' d') :=
  ofPairs (.ifElse (a, a') (b, b') (d, d')) (children₃ ha hb hd)

theorem call (h : a.Renamed a') {xs ys : List Op} (hs : List.Forall₂ Op.Renamed xs ys)
    (name : String) (flags : CallFlags) : (Op.call a name xs flags).Renamed (Op.call a' name ys flags) := by
  obtain ⟨zs, rfl, rfl, hz⟩ := exists_pairs_of_forall₂ hs
  exact ofPairs (.call (a, a') name zs none flags) (by simpa [Form.children, h] using hz)

theorem forall₂_append {xs ys xs' ys' : List Op} (h : List.Forall₂ Op.Renamed xs ys)
    (h' : List.Forall₂ Op.Renamed xs' ys') : List.Forall₂ Op.Renamed (xs ++ xs') (ys ++ ys') :=
  List.rel_append h h'

theorem ite (p : Prop) [Decidable p] (ha : a.Renamed a') (hb : b.Renamed b') :
    (if p then a else b).Renamed (if p then a' else b') := by
  split
  · exact ha
  · exact hb

/-- A lowered node that is a list literal has, up to names, the items of its counterpart. -/
theorem arrayLit_form (h : a.Renamed b) {vs : List Op} (ha : a.form = .arrayLit vs) :
    ∃ ws, b.form = .arrayLit ws ∧ List.Forall₂ Op.Renamed vs ws := by
  have hf := h.form
  rw [ha] at hf
  obtain ⟨ws, hb, hws⟩ := Form.eq_arrayLit_of_nameless hf.symm
  exact ⟨ws, hb, forall₂_iff.2 hws.symm⟩

theorem splatCast_form (h : a.Renamed b) {nilAs : SplatNil} {toAry copy : Bool} {x : Op}
    (ha : a.form = .splatCast nilAs toAry copy x) :
    ∃ y, b.form = .splatCast nilAs toAry copy y ∧ x.Renamed y := by
  have hf := h.form
  rw [ha] at hf
  obtain ⟨y, hb, hy⟩ := Form.eq_splatCast_of_nameless hf.symm
  exact ⟨y, hb, hy.symm⟩

theorem nil_form (h : a.Renamed b) (ha : a.form = .nil) : b.form = .nil := by
  have hf := h.form
  rw [ha] at hf
  exact Form.eq_nil_of_nameless hf.symm

theorem interpolated {xs ys : List Op} (h : List.Forall₂ Op.Renamed xs ys) :
    (Op.ofForm (.interpolated xs)).Renamed (Op.ofForm (.interpolated ys)) := by
  obtain ⟨zs, rfl, rfl, hz⟩ := exists_pairs_of_forall₂ h
  exact ofPairs (.interpolated zs) hz

theorem arrayLit {xs ys : List Op} (h : List.Forall₂ Op.Renamed xs ys) :
    (Op.ofForm (.arrayLit xs)).Renamed (Op.ofForm (.arrayLit ys)) := by
  obtain ⟨zs, rfl, rfl, hz⟩ := exists_pairs_of_forall₂ h
  exact ofPairs (.arrayLit zs) hz

theorem hashLit {ps ps' : List (Op × Op)}
    (h : List.Forall₂ (fun x y => x.1.Renamed y.1 ∧ x.2.Renamed y.2) ps ps') :
    (Op.ofForm (.hashLit ps)).Renamed (Op.ofForm (.hashLit ps')) := by
  refine ofForm ?_
  have hmap : ps.map (fun p => (p.1.nameless, p.2.nameless)) =
      ps'.map (fun p => (p.1.nameless, p.2.nameless)) := by
    induction h with
    | nil => rfl
    | cons hxy _ ih => rw [List.map_cons, List.map_cons, hxy.1.eq, hxy.2.eq, ih]
  simp only [Form.nameless, Form.map, Form.unnamed, hmap]

/-- A keyword argument with defaults that differ in names, or none on both sides. -/
theorem keywordArg (name : String) {d d' : Option Op} (h : Option.Rel Op.Renamed d d') :
    (Op.ofForm (.keywordArg name d)).Renamed (Op.ofForm (.keywordArg name d')) := by
  cases h with
  | none => exact refl _
  | some h => exact ofPairs (.keywordArg name (some (_, _))) (children₁ h)

/-- A call with receivers, arguments and blocks that differ in names. -/
theorem callForm {recv recv' : Op} (hrecv : recv.Renamed recv') {args args' : List Op}
    (hargs : List.Forall₂ Op.Renamed args args') {b b' : Option Op}
    (hb : Option.Rel Op.Renamed b b') (name : String) (flags : CallFlags) :
    (Op.ofForm (.call recv name args b flags)).Renamed (Op.ofForm (.call recv' name args' b' flags)) := by
  obtain ⟨zs, rfl, rfl, hz⟩ := exists_pairs_of_forall₂ hargs
  cases hb with
  | none =>
    exact ofPairs (.call (recv, recv') name zs none flags)
      (List.forall_mem_cons.2 ⟨hrecv, List.forall_mem_append.2 ⟨hz, fun _ h => by cases h⟩⟩)
  | some h =>
    exact ofPairs (.call (recv, recv') name zs (some (_, _)) flags)
      (List.forall_mem_cons.2 ⟨hrecv, List.forall_mem_append.2 ⟨hz, children₁ h⟩⟩)

/-- A `super` call with arguments and blocks that differ in names. -/
theorem superForm {args args' : List Op} (hargs : List.Forall₂ Op.Renamed args args')
    {b b' : Option Op} (hb : Option.Rel Op.Renamed b b') (splatted implicit : Bool) :
    (Op.ofForm (.superCall args b splatted implicit)).Renamed
      (Op.ofForm (.superCall args' b' splatted implicit)) := by
  obtain ⟨zs, rfl, rfl, hz⟩ := exists_pairs_of_forall₂ hargs
  cases hb with
  | none =>
    exact ofPairs (.superCall zs none splatted implicit)
      (List.forall_mem_append.2 ⟨hz, fun _ h => by cases h⟩)
  | some h =>
    exact ofPairs (.superCall zs (some (_, _)) splatted implicit)
      (List.forall_mem_append.2 ⟨hz, children₁ h⟩)

/-- Units with heads that differ in their names and bodies that differ in names. -/
theorem blockDef (kind : ProcKind) {h h' : UnitHead} (hh : h.Renamed h') (hb : b.Renamed b')
    (breakId : Nat) (marker : Option Slot) :
    (Op.ofForm (.blockDef kind h b breakId marker)).Renamed
      (Op.ofForm (.blockDef kind h' b' breakId marker)) :=
  ofForm (by simp only [Form.nameless, Form.map, Form.unnamed, hh.eq, hb.eq])

theorem methodDef (ha : a.Renamed a') {h h' : UnitHead} (hh : h.Renamed h') (hb : b.Renamed b') :
    (Op.ofForm (.methodDef a h b)).Renamed (Op.ofForm (.methodDef a' h' b')) :=
  ofForm (by simp only [Form.nameless, Form.map, Form.unnamed, ha.eq, hh.eq, hb.eq])

theorem runModuleBody (ha : a.Renamed a') {h h' : UnitHead} (hh : h.Renamed h') (hb : b.Renamed b') :
    (Op.ofForm (.runModuleBody a h b)).Renamed (Op.ofForm (.runModuleBody a' h' b')) :=
  ofForm (by simp only [Form.nameless, Form.map, Form.unnamed, ha.eq, hh.eq, hb.eq])

end Op.Renamed

/-! ## Kinds under renaming -/

section Kinds

variable (σ : String → String)

/-- Only a concatenation renames to a concatenation. -/
theorem Kind.exists_argsCat_of_renameLookups {k : Kind Node} {a b : Node}
    (h : k.renameLookups σ = .argsCat a b) : ∃ a₀ b₀, k = .argsCat a₀ b₀ := by
  cases k <;> dsimp only [Kind.renameLookups] at h <;> cases h
  exact ⟨_, _, rfl⟩

/-- Only a constant renames to a constant. -/
theorem Kind.exists_const_of_renameLookups {k : Kind Node} {c : String}
    (h : k.renameLookups σ = .const c) : ∃ c₀, k = .const c₀ ∧ σ c₀ = c := by
  cases k <;> dsimp only [Kind.renameLookups] at h <;> cases h
  exact ⟨_, rfl, rfl⟩

/-- Only a bare identifier renames to one, the same. -/
theorem Kind.eq_vcall_of_renameLookups {k : Kind Node} {name : String}
    (h : k.renameLookups σ = .vcall name) : k = .vcall name := by
  cases k <;> dsimp only [Kind.renameLookups] at h <;> cases h
  rfl

/-- The receiver of a call after renaming is the receiver renamed by `σ`, or kept when it is a
constant the call is expanded on: renamed by some `τ`, which renames no constant receiver from a
name the lowering expands calls on to another or from one it does not to one it does. -/
theorem renamedReceiver_eq (name : String) (receiver : Node) :
    ∃ τ : String → String,
      renamedReceiver σ name receiver (receiver.renameLookups σ) = receiver.renameLookups τ ∧
      ∀ c, receiver.kind = .const c →
        τ c = c ∨ (expandsCall c name = false ∧ expandsCall (τ c) name = false) := by
  obtain ⟨sp, nl, k⟩ := receiver
  unfold renamedReceiver
  split
  · next c hc =>
    obtain rfl : k = .const c := hc
    split
    · exact ⟨id, rfl, fun _ _ => Or.inl rfl⟩
    · next hexp =>
      refine ⟨σ, rfl, fun c' hc' => Or.inr ?_⟩
      obtain rfl : c = c' := Kind.const.inj hc'
      simpa using hexp
  · next hne => exact ⟨σ, rfl, fun c hc => absurd hc (hne c)⟩

/-- Renaming keeps the shape of a node, so what the lowering reads off its shape. -/
theorem Node.needsDefinitionCheck_renameLookups (n : Node) :
    (n.renameLookups σ).needsDefinitionCheck = n.needsDefinitionCheck := by
  unfold Node.needsDefinitionCheck
  rw [Node.kind_renameLookups]
  generalize n.kind = k
  cases k <;> rfl

theorem Node.isSideEffectFree_renameLookups (n : Node) :
    (n.renameLookups σ).isSideEffectFree = n.isSideEffectFree := by
  unfold Node.isSideEffectFree
  rw [Node.kind_renameLookups]
  generalize n.kind = k
  cases k <;> rfl

theorem Node.isGlobalRead_renameLookups (n : Node) (name : String) :
    (n.renameLookups σ).isGlobalRead name = n.isGlobalRead name := by
  unfold Node.isGlobalRead
  rw [Node.kind_renameLookups]
  generalize n.kind = k
  cases k <;> rfl

theorem isNone_renameLookupsOpt (o : Option Node) : (renameLookupsOpt σ o).isNone = o.isNone := by
  cases o <;> rfl

theorem BlockArg.ofIter_renameLookupsOpt (i : Option Node) :
    BlockArg.ofIter (renameLookupsOpt σ i) = (BlockArg.ofIter i).renameLookups σ := by
  cases i <;> rfl

end Kinds

namespace Lower

/-- A chain of concatenations renames to the chain of the renamed parts. -/
theorem catParts_renameLookups (σ : String → String) (n : Node) :
    catParts (n.renameLookups σ) =
      ((catParts n).1.renameLookups σ, (catParts n).2.map (Node.renameLookups σ)) := by
  fun_induction catParts n with
  | case1 sp nl first second head seconds hparts ih =>
    show catParts (.mk sp nl (.argsCat (first.renameLookups σ) (second.renameLookups σ))) = _
    rw [catParts, ih, hparts]
    simp
  | case2 n hn =>
    obtain ⟨sp, nl, k⟩ := n
    -- a node that is no concatenation renames to one that is none either
    refine catParts_of_chain (.head fun a b heq => ?_)
    obtain ⟨a₀, b₀, rfl⟩ := Kind.exists_argsCat_of_renameLookups σ heq
    exact hn sp nl a₀ b₀ rfl

open Op (Renamed)

/-! ## Nodes the rules build -/

section Builders

variable {a a' b b' : Op}

theorem guardDefined_renamed (h : a.Renamed a') : (guardDefined a).Renamed (guardDefined a') :=
  Op.Renamed.ofPairs (.and (Op.ofForm (.defined a), Op.ofForm (.defined a')) (a, a'))
    (Op.Renamed.children₂ (Op.Renamed.ofPairs (.defined (a, a')) (Op.Renamed.children₁ h)) h)

theorem asAssignment_renamed (h : a.Renamed a') : (asAssignment a).Renamed (asAssignment a') :=
  Op.Renamed.ofPairs (.definedAs .assignment (a, a')) (Op.Renamed.children₁ h)

theorem logical_renamed (operator : String) (ha : a.Renamed a') (hb : b.Renamed b') :
    (logical operator a b).Renamed (logical operator a' b') := by
  unfold logical
  split
  · exact Op.Renamed.ofPairs (.or (a, a') (b, b')) (Op.Renamed.children₂ ha hb)
  · exact Op.Renamed.ofPairs (.and (a, a') (b, b')) (Op.Renamed.children₂ ha hb)

theorem wrapLiteralBlock_renamed (h : a.Renamed a') (literal : Option (Nat × Slot)) :
    (wrapLiteralBlock a literal).Renamed (wrapLiteralBlock a' literal) := by
  cases literal with
  | none => exact h
  | some bm =>
    exact Op.Renamed.ofPairs (.catchBreak bm.1 false (Op.ofForm (.frameOnStack bm.2 a),
      Op.ofForm (.frameOnStack bm.2 a'))) (Op.Renamed.children₁
        (Op.Renamed.ofPairs (.frameOnStack bm.2 (a, a')) (Op.Renamed.children₁ h)))

/-- Taking the copy off a spread argument and erasing names can go in either order. -/
theorem nameless_uncopied (o : Op) : (uncopied o).nameless = uncopied o.nameless := by
  obtain ⟨f, s, fl⟩ := o
  by_cases hs : ∃ nilAs toAry copy x, f = .splatCast nilAs toAry copy x
  · obtain ⟨nilAs, toAry, copy, x, rfl⟩ := hs
    rw [show uncopied (Op.mk (.splatCast nilAs toAry copy x) s fl) =
      Op.mk (.splatCast nilAs toAry false x) s fl from rfl, Op.nameless_mk, Op.nameless_mk]
    rfl
  · have hne : ∀ nilAs toAry copy x, f ≠ .splatCast nilAs toAry copy x :=
      fun nilAs toAry copy x he => hs ⟨nilAs, toAry, copy, x, he⟩
    have hne' : ∀ nilAs toAry copy x, f.nameless ≠ .splatCast nilAs toAry copy x :=
      fun nilAs toAry copy x he =>
        let ⟨y, hy, _⟩ := Form.eq_splatCast_of_nameless he
        hne nilAs toAry copy y hy
    rw [uncopied_mk_of_ne hne, Op.nameless_mk, uncopied_mk_of_ne hne']

theorem uncopied_renamed (h : a.Renamed a') : (uncopied a).Renamed (uncopied a') := by
  unfold Op.Renamed
  rw [nameless_uncopied, nameless_uncopied, h.eq]

/-- Arms that differ in names, condition by condition and body by body, nest into conditionals
that differ in names. -/
theorem chainArms_renamed {arms arms' : List (Op × Op)}
    (h : List.Forall₂ (fun x y => x.1.Renamed y.1 ∧ x.2.Renamed y.2) arms arms')
    (ho : a.Renamed a') : (chainArms arms a).Renamed (chainArms arms' a') := by
  induction h with
  | nil => exact ho
  | cons hxy _ ih => exact Op.Renamed.ifElse hxy.1 hxy.2 ih

/-- Temporaries paired with values that differ in names give the same reads, and writes that
differ in names. -/
theorem forall₂_temps_renamed {temps temps' : List (Slot × Op)}
    (h : List.Forall₂ (RelSnd Op.Renamed) temps temps') :
    List.Forall₂ Op.Renamed (temps.map fun x => Op.readLocal x.1) (temps'.map fun x => Op.readLocal x.1) ∧
    List.Forall₂ Op.Renamed (temps.map fun x => Op.writeLocal x.1 x.2)
      (temps'.map fun x => Op.writeLocal x.1 x.2) := by
  induction h with
  | nil => exact ⟨.nil, .nil⟩
  | @cons x y _ _ hxy _ ih =>
    obtain ⟨s, v⟩ := x
    obtain ⟨s', v'⟩ := y
    obtain ⟨hs, hv⟩ := hxy
    dsimp only at hs hv
    subst hs
    exact ⟨.cons (Op.Renamed.refl _) ih.1, .cons (Op.Renamed.writeLocal hv s) ih.2⟩

/-- Whether a right side is a list literal of a given length is the same up to names. -/
theorem arrayLitLength_eq_of_renamed {rhs rhs' : Op} (h : rhs.Renamed rhs') (n : Nat) :
    (match rhs.form with
      | .arrayLit vs => vs.length == n
      | _ => false) =
    (match rhs'.form with
      | .arrayLit vs => vs.length == n
      | _ => false) := by
  split
  · next vs heq =>
    obtain ⟨ws, hb, hvw⟩ := h.arrayLit_form heq
    rw [hb, hvw.length_eq]
  · next hne =>
    split
    · next ws heq =>
      obtain ⟨vs, ha, _⟩ := h.symm.arrayLit_form heq
      exact absurd ha (hne vs)
    · rfl

/-- A splat of nil on one side is one on the other: right sides that differ in names store
nodes that differ in names, and convert nil the same way. -/
theorem splatSource_renamed {rhs rhs' : Op} (h : rhs.Renamed rhs') (dflt : SplatNil) :
    RelFst Op.Renamed (splatSource rhs dflt) (splatSource rhs' dflt) := by
  unfold splatSource
  split
  · next nilAs toAry copy child heq =>
    obtain ⟨child', hb, hchild⟩ := h.splatCast_form heq
    rw [hb]
    dsimp only
    split
    · next hnil =>
      rw [hchild.nil_form hnil]
      exact ⟨hchild, rfl⟩
    · next hnn =>
      split
      · next hnil' => exact absurd (hchild.symm.nil_form hnil') hnn
      · exact ⟨h, rfl⟩
  · next hne =>
    split
    · next nilAs toAry copy child' heq' =>
      obtain ⟨child, ha, _⟩ := h.symm.splatCast_form heq'
      exact absurd ha (hne nilAs toAry copy child)
    · exact ⟨h, rfl⟩

/-- The arguments of an element setter: the indices and the value, or one array of them. -/
theorem setterArgs_renamed {reads reads' : List Op} (hreads : List.Forall₂ Op.Renamed reads reads')
    {x x' : Op} (hx : x.Renamed x') (splatted : Bool) :
    List.Forall₂ Op.Renamed
      (if splatted = true then [Op.ofForm (.arrayAppend (Op.ofForm (.arrayDup (Op.sequence reads))) x)]
        else reads ++ [x])
      (if splatted = true then [Op.ofForm (.arrayAppend (Op.ofForm (.arrayDup (Op.sequence reads'))) x')]
        else reads' ++ [x']) := by
  split
  · exact .cons (Op.Renamed.ofPairs (.arrayAppend (_, _) (_, _)) (Op.Renamed.children₂
      (Op.Renamed.ofPairs (.arrayDup (_, _)) (Op.Renamed.children₁ (Op.Renamed.sequence hreads))) hx))
      .nil
  · exact List.rel_append hreads (.cons hx .nil)

end Builders

/-- A step giving pairs whose first parts are related and second parts equal, then a rest that
is matched on such pairs. -/
theorem Renamed.bind_relFst {α β γ δ ε : Type} {R : α → β → Prop} {S : δ → ε → Prop}
    {x : Lower (α × γ)} {y : Lower (β × γ)} {k : α × γ → Lower δ} {k' : β × γ → Lower ε}
    (hx : Renamed (RelFst R) x y) (hk : ∀ a b v, R a b → Renamed S (k (a, v)) (k' (b, v))) :
    Renamed S (x >>= k) (y >>= k') :=
  hx.bind fun ⟨a, v⟩ ⟨b, w⟩ ⟨hab, hv⟩ => by
    obtain rfl : v = w := hv
    exact hk a b v hab

theorem Renamed.bind_relSnd {α β γ δ ε : Type} {R : α → β → Prop} {S : δ → ε → Prop}
    {x : Lower (γ × α)} {y : Lower (γ × β)} {k : γ × α → Lower δ} {k' : γ × β → Lower ε}
    (hx : Renamed (RelSnd R) x y) (hk : ∀ v a b, R a b → Renamed S (k (v, a)) (k' (v, b))) :
    Renamed S (x >>= k) (y >>= k') :=
  hx.bind fun ⟨v, a⟩ ⟨w, b⟩ ⟨hv, hab⟩ => by
    obtain rfl : v = w := hv
    exact hk v a b hab

/-! ## Rules that read the place or the environment only -/

theorem captureSetters_renamed (matchData : Slot) (declareIn : Nat) (name : String) :
    Renamed (fun x y => x.1.Renamed y.1 ∧ x.2.Renamed y.2)
      (captureSetters matchData declareIn name) (captureSetters matchData declareIn name) :=
  (declare_renamed declareIn name).bind_eq fun _ => (resolveOrDeclare_renamed name).bind_eq fun _ =>
    Renamed.pure ⟨Op.Renamed.refl _, Op.Renamed.refl _⟩

/-- A unit body after preludes that differ in names; the flip-flop set-up reads the frame. -/
theorem withPrelude_renamed {prelude prelude' : List Op}
    (hp : List.Forall₂ Op.Renamed prelude prelude') {body body' : Op} (hb : body.Renamed body') :
    Renamed Op.Renamed (withPrelude prelude body) (withPrelude prelude' body') := by
  refine frame_renamed.bind_eq fun f => (frameData_renamed f).bind fun fr fr' hfr => ?_
  have hstates : fr'.flipFlopStates = fr.flipFlopStates := by
    simpa using congrArg Frame.flipFlopStates hfr.symm
  dsimp only
  rw [hstates, ← isEmpty_eq_of_forall₂ hp]
  split
  · exact Renamed.pure hb
  · exact Renamed.pure (Op.Renamed.sequence (List.rel_append (List.rel_append
      (List.forall₂_same.2 fun _ _ => Op.Renamed.refl _) hp) (.cons hb .nil)))

/-- The head of a unit: the same but for its name, which names differ in. -/
theorem unitHead_renamed (id : Nat) (name name' : String) (kind : UnitKind) (arity : Arity) :
    Renamed UnitHead.Renamed (unitHead id name kind arity) (unitHead id name' kind arity) :=
  (frameData_renamed id).bind fun fr fr' hfr => lexicalScope_renamed.bind_eq fun _ =>
    Renamed.pure (by
      unfold UnitHead.Renamed
      have h := congrArg (fun fr : Frame => (fr.locals, fr.ownScope, fr.returnId, fr.breakId,
        fr.blockDepth, fr.needsDeclarationFrame)) hfr
      simp only [Frame.locals_nameless, Frame.ownScope_nameless, Frame.returnId_nameless,
        Frame.breakId_nameless, Frame.blockDepth_nameless, Frame.needsDeclarationFrame_nameless,
        Prod.mk.injEq] at h
      obtain ⟨h1, h2, h3, h4, h5, h6⟩ := h
      simp only [h1, h2, h3, h4, h5, h6])

theorem restSlot_renamed (rest : RestParam) (pfx : String) :
    Renamed Eq (restSlot rest pfx) (restSlot rest pfx) := by
  unfold restSlot
  split
  · exact frame_renamed.bind_eq fun f => declare_renamed f _
  · exact temp_renamed pfx
  · exact temp_renamed pfx

theorem masgnNil_renamed : Renamed Eq masgnNil masgnNil :=
  modes_renamed.bind_eq fun _ => Renamed.pure rfl

/-- A constant read turned into a write writes, on each side, the constant its read reads, in
the same module up to names. -/
theorem constantWrite_renamed {read read' value value' : Op} (hread : read.Renamed read')
    (hv : value.Renamed value') (span : Span) :
    Renamed Op.Renamed (constantWrite read value span) (constantWrite read' value' span) := by
  have hf := hread.form
  have hch := hread.eq
  unfold constantWrite
  split
  · next m name heq =>
    rw [heq] at hf
    obtain ⟨m', name', heq', hm⟩ := Form.eq_readConst_of_nameless hf.symm
    rw [heq']
    exact Renamed.pure (Op.Renamed.ofForm (by
      simp only [Form.nameless, Form.map, Form.unnamed, hm, hv.eq]))
  · next scope name heq =>
    rw [heq] at hf
    obtain ⟨name', heq'⟩ := Form.eq_readConstLexical_of_nameless hf.symm
    rw [heq']
    exact Renamed.pure (Op.Renamed.ofForm (by
      simp only [Form.nameless, Form.map, Form.unnamed, hv.eq, Op.nameless_ofForm]))
  · next name heq =>
    rw [heq] at hf
    obtain ⟨name', heq'⟩ := Form.eq_readConstDynamic_of_nameless hf.symm
    rw [heq']
    exact Renamed.pure (Op.Renamed.ofForm (by
      simp only [Form.nameless, Form.map, Form.unnamed, hv.eq, Op.nameless_ofForm]))
  · next h1 h2 h3 =>
    split
    · next m' name heq' =>
      rw [heq'] at hf
      obtain ⟨m, name₀, heq, _⟩ := Form.eq_readConst_of_nameless hf
      exact absurd heq (h1 m name₀)
    · next scope name heq' =>
      rw [heq'] at hf
      obtain ⟨name₀, heq⟩ := Form.eq_readConstLexical_of_nameless hf
      exact absurd heq (h2 scope name₀)
    · next name heq' =>
      rw [heq'] at hf
      obtain ⟨name₀, heq⟩ := Form.eq_readConstDynamic_of_nameless hf
      exact absurd heq (h3 name₀)
    · exact Renamed.fail _ _ _ _

theorem inBlock_renamed : Renamed Eq inBlock inBlock :=
  frame_renamed.bind_eq fun f => (frameData_renamed f).bind fun _ _ hfr =>
    Renamed.pure (by simpa using congrArg Frame.isBlock hfr)

theorem redo_renamed (span : Span) : Renamed Op.Renamed (redo span) (redo span) := by
  refine inBlock_renamed.bind_eq fun _ => modes_renamed.bind_eq fun _ => ?_
  split
  · exact Renamed.fail _ _ _ _
  · exact atSpan_renamed (Op.Renamed.refl _) span

theorem retry_renamed (span : Span) : Renamed Op.Renamed (retry span) (retry span) := by
  refine modes_renamed.bind_eq fun _ => inBlock_renamed.bind_eq fun _ => ?_
  split
  · exact Renamed.fail _ _ _ _
  · exact atSpan_renamed (Op.Renamed.refl _) span

theorem command_renamed {text text' : Op} (h : text.Renamed text') (span : Span) :
    Renamed Op.Renamed (command text span) (command text' span) :=
  atSpan_renamed (Op.Renamed.call (Op.Renamed.refl _) (.cons h .nil) _ _) span

theorem bignum_renamed (digits : String) (span : Span) :
    Renamed Op.Renamed (bignum digits span) (bignum digits span) := by
  unfold bignum
  split
  · exact Renamed.fail _ _ _ _
  · split <;> exact atSpan_renamed (Op.Renamed.refl _) span

theorem fixnum_renamed (v : Int) (span : Span) :
    Renamed Op.Renamed (fixnum v span) (fixnum v span) := by
  unfold fixnum
  split <;> exact atSpan_renamed (Op.Renamed.refl _) span

theorem str_renamed (value : String) (frozen : Bool) (span : Span) :
    Renamed Op.Renamed (str value frozen span) (str value frozen span) := by
  refine options_renamed.bind_eq fun _ => ?_
  split <;> exact atSpan_renamed (Op.Renamed.refl _) span

theorem vcall_renamed (name : String) (span : Span) :
    Renamed Op.Renamed (vcall name span) (vcall name span) := by
  refine source_renamed.bind_eq fun _ => ?_
  split <;> exact atSpan_renamed (Op.Renamed.refl _) span

theorem localRead_renamed (name : String) (span : Span) :
    Renamed Op.Renamed (localRead name span) (localRead name span) :=
  (resolveOrDeclare_renamed name).bind_eq fun _ => atSpan_renamed (Op.Renamed.refl _) span

/-- A read from inside a block declares an unknown name in an ancestor frame, which frames with
one erasure share. -/
theorem dvarRead_renamed (name : String) (depth : Nat) (span : Span) :
    Renamed Op.Renamed (dvarRead name depth span) (dvarRead name depth span) := by
  refine frame_renamed.bind_eq fun f => (resolve_renamed f name).bind_eq fun found => ?_
  dsimp only
  split
  · exact (Renamed.pure rfl).bind_eq fun _ => atSpan_renamed (Op.Renamed.refl _) span
  · refine env_renamed.bind fun e e' he => ?_
    rw [← Env.ancestor_nameless e, ← Env.ancestor_nameless e', he]
    exact (declare_renamed _ name).bind_eq fun _ => (resolveOrDeclare_renamed name).bind_eq
      fun _ => atSpan_renamed (Op.Renamed.refl _) span

section RelFst

variable {α β γ : Type} {R : α → β → Prop}

theorem RelFst.forall₂_map_fst {l : List (α × γ)} {l' : List (β × γ)}
    (h : List.Forall₂ (RelFst R) l l') : List.Forall₂ R (l.map Prod.fst) (l'.map Prod.fst) :=
  List.forall₂_map_left_iff.2 (List.forall₂_map_right_iff.2 (h.imp fun _ _ hxy => hxy.1))

theorem RelFst.map_snd_eq {l : List (α × γ)} {l' : List (β × γ)}
    (h : List.Forall₂ (RelFst R) l l') : l.map Prod.snd = l'.map Prod.snd := by
  induction h with
  | nil => rfl
  | cons hxy _ ih => rw [List.map_cons, List.map_cons, hxy.2, ih]

theorem RelFst.filterMap_snd_eq {l : List (α × Option γ)} {l' : List (β × Option γ)}
    (h : List.Forall₂ (RelFst R) l l') : l.filterMap Prod.snd = l'.filterMap Prod.snd := by
  induction h with
  | nil => rfl
  | cons hxy _ ih => rw [List.filterMap_cons, List.filterMap_cons, hxy.2, ih]

end RelFst

/-- The parts finished and the pairs pending of a hash literal, differing only in names. -/
def HashAcc.Renamed (acc acc' : List Op × List (Op × Op)) : Prop :=
  List.Forall₂ Op.Renamed acc.1 acc'.1 ∧
    List.Forall₂ (fun x y => x.1.Renamed y.1 ∧ x.2.Renamed y.2) acc.2 acc'.2

/-- A call on a constant the lowering does not expand calls on is lowered as any other call. -/
theorem constExpansion_of_not_expandsCall (r : Recur) {c name : String}
    (h : expandsCall c name = false) (args iter : Option Node) (span : Span)
    (k : Option Op → Lower Op) :
    (if c == primitiveModuleName then (some <$> primitive r name args span) >>= k
      else if c == internalModuleName then internalCall r name iter span >>= k else pure none >>= k) =
      pure none >>= k := by
  simp only [expandsCall, Bool.or_eq_false_iff, Bool.and_eq_false_iff] at h
  obtain ⟨hp, hi⟩ := h
  rw [if_neg (by simp [hp])]
  split
  · next hc =>
    obtain ⟨⟨h1, h2⟩, h3⟩ := hi.resolve_left (by simpa using hc)
    unfold internalCall
    rw [if_neg (by simp [h1]), if_neg (by simp [h2]), if_neg (by simp [h3])]
  · rfl

/-- Renaming keeps whether the receiver of an attribute assignment is `self`. -/
theorem attrFlags_renameLookups (σ : String → String) (receiver : Node) (lazy : Bool) :
    attrFlags (receiver.renameLookups σ) lazy = attrFlags receiver lazy := by
  unfold attrFlags
  rw [Node.kind_renameLookups]
  generalize receiver.kind = k
  cases k <;> rfl

theorem methodBlockRead_renamed : Renamed (Option.Rel Op.Renamed) methodBlockRead methodBlockRead :=
  frame_renamed.bind_eq fun f => (resolve_renamed f _).bind_eq fun found => Renamed.pure (by
    cases found with
    | none => exact .none
    | some slot => exact .some (Op.Renamed.refl _))

theorem readParam_renamed (name : String) : Renamed Op.Renamed (readParam name) (readParam name) :=
  (resolveOrDeclare_renamed name).bind_eq fun _ => Renamed.pure (Op.Renamed.refl _)

theorem forwardedKeywords_renamed (ps : MethodParams) :
    Renamed (Option.Rel Op.Renamed) (forwardedKeywords ps) (forwardedKeywords ps) := by
  unfold forwardedKeywords
  split
  · exact Renamed.pure .none
  · refine (Renamed.mapM_same (S := fun x y => x.1.Renamed y.1 ∧ x.2.Renamed y.2)
      (fun n => (readParam_renamed n).bind fun _ _ h => Renamed.pure ⟨Op.Renamed.refl _, h⟩) _).bind
      fun pairs pairs' hpairs => ?_
    have hh := Op.Renamed.hashLit hpairs
    dsimp only
    split
    · exact (readParam_renamed _).bind fun _ _ h => Renamed.pure (.some (Op.Renamed.ofPairs
        (.concatHash [(_, _), (Op.ofForm (.hashCast _), Op.ofForm (.hashCast _))])
        (Op.Renamed.children₂ hh (Op.Renamed.ofPairs (.hashCast (_, _)) (Op.Renamed.children₁ h)))))
    · exact Renamed.pure (.some hh)

section Rules

variable {r : Recur} (hr : r.Renames) (σ : String → String)
include hr

/-! ## Literals -/

theorem rational_renamed (a b : Node) (span : Span) :
    Renamed Op.Renamed (rational r a b span)
      (rational r (a.renameLookups σ) (b.renameLookups σ) span) :=
  (hr.expr σ a).bind fun _ _ hn => (hr.expr σ b).bind fun _ _ hd =>
    atSpan_renamed (Op.Renamed.call (Op.Renamed.refl _) (.cons hn (.cons hd .nil)) _ _) span

theorem complex_renamed (a : Node) (span : Span) :
    Renamed Op.Renamed (complex r a span) (complex r (a.renameLookups σ) span) :=
  (hr.expr σ a).bind fun _ _ hn => atSpan_renamed
    (Op.Renamed.call (Op.Renamed.refl _) (.cons (Op.Renamed.refl _) (.cons hn .nil)) _ _) span

theorem dstr_renamed (parts : List Node) (span : Span) :
    Renamed Op.Renamed (dstr r parts span) (dstr r (renameLookupsList σ parts) span) := by
  rw [renameLookupsList_eq_map]
  exact (exprs_renamed hr σ parts).bind fun _ _ h => atSpan_renamed (Op.Renamed.interpolated h) span

theorem dsymbol_renamed (parts : List Node) (span : Span) :
    Renamed Op.Renamed (dsymbol r parts span) (dsymbol r (renameLookupsList σ parts) span) := by
  rw [renameLookupsList_eq_map]
  exact (exprs_renamed hr σ parts).bind fun xs ys h => atSpan_renamed (Op.Renamed.ofPairs
    (.toSymbol (Op.ofForm (.interpolated xs), Op.ofForm (.interpolated ys)))
    (Op.Renamed.children₁ (Op.Renamed.interpolated h))) span

theorem dxstr_renamed (parts : List Node) (span : Span) :
    Renamed Op.Renamed (dxstr r parts span) (dxstr r (renameLookupsList σ parts) span) := by
  rw [renameLookupsList_eq_map]
  exact (exprs_renamed hr σ parts).bind fun _ _ h => command_renamed (Op.Renamed.interpolated h) span

theorem evstr_renamed (body : Option Node) (span : Span) :
    Renamed Op.Renamed (evstr r body span) (evstr r (renameLookupsOpt σ body) span) := by
  cases body with
  | none => exact atSpan_renamed (Op.Renamed.refl _) span
  | some b =>
    exact (hr.expr σ b).bind fun v v' hv =>
      atSpan_renamed (Op.Renamed.ofPairs (.toS (v, v')) (Op.Renamed.children₁ hv)) span

theorem dregexp_renamed (parts : List Node) (flags : RegexpFlags) (span : Span) :
    Renamed Op.Renamed (dregexp r parts flags span)
      (dregexp r (renameLookupsList σ parts) flags span) := by
  rw [renameLookupsList_eq_map]
  refine (exprs_renamed hr σ parts).bind fun xs ys h => ?_
  obtain ⟨zs, rfl, rfl, hz⟩ := Op.exists_pairs_of_forall₂ h
  have hre := Op.Renamed.ofPairs (.interpolatedRegexp zs flags.withoutOnce) hz
  dsimp only
  split
  · exact atSpan_renamed (Op.Renamed.ofPairs (.once (_, _)) (Op.Renamed.children₁ hre)) span
  · exact atSpan_renamed hre span

theorem matchLastLine_renamed (re : Node) (span : Span) :
    Renamed Op.Renamed (matchLastLine r re span) (matchLastLine r (re.renameLookups σ) span) :=
  (hr.expr σ re).bind fun _ _ hv =>
    atSpan_renamed (Op.Renamed.call hv (.cons (Op.Renamed.refl _) .nil) _ _) span

/-- Matching against a regular expression literal assigns its named groups on both sides: the
literal is a leaf, which renaming keeps. -/
theorem match2_renamed (receiver value : Node) (span : Span) :
    Renamed Op.Renamed (match2 r receiver value span)
      (match2 r (receiver.renameLookups σ) (value.renameLookups σ) span) := by
  refine (hr.expr σ receiver).bind fun re re' hre => (hr.expr σ value).bind fun v v' hv =>
    (atSpan_renamed (Op.Renamed.call hre (.cons hv .nil) "=~" {}) span).bind fun m m' hm => ?_
  rw [Node.kind_renameLookups]
  generalize receiver.kind = k
  cases k
  case regexp source _ =>
    dsimp only [Kind.renameLookups]
    split
    · exact Renamed.pure hm
    · refine (temp_renamed _).bind_eq fun md => env_renamed.bind fun e e' he =>
        frame_renamed.bind_eq fun f => ?_
      rw [← Env.nearestOwnScope_nameless e, ← Env.nearestOwnScope_nameless e', he]
      refine (Renamed.mapM_same (captureSetters_renamed md _) _).bind fun setters setters' hs =>
        Renamed.pure ?_
      have hfst : List.Forall₂ Op.Renamed (setters.map Prod.fst) (setters'.map Prod.fst) :=
        List.forall₂_map_left_iff.2 (List.forall₂_map_right_iff.2 (hs.imp fun _ _ h => h.1))
      have hsnd : List.Forall₂ Op.Renamed (setters.map Prod.snd) (setters'.map Prod.snd) :=
        List.forall₂_map_left_iff.2 (List.forall₂_map_right_iff.2 (hs.imp fun _ _ h => h.2))
      obtain ⟨zs, hz1, hz2, hz⟩ := Op.exists_pairs_of_forall₂ hfst
      obtain ⟨ws, hw1, hw2, hw⟩ := Op.exists_pairs_of_forall₂ hsnd
      rw [← hz1, ← hz2, ← hw1, ← hw2]
      exact Op.Renamed.ofPairs (.namedCaptures (m, m') (_, _) zs ws) (List.forall_mem_cons.2
        ⟨hm, List.forall_mem_cons.2 ⟨Op.Renamed.refl _, List.forall_mem_append.2 ⟨hz, hw⟩⟩⟩)
  all_goals exact Renamed.pure hm

theorem hashStep_renamed {acc acc' : List Op × List (Op × Op)} (hacc : HashAcc.Renamed acc acc')
    (pair : Option Node × Node) :
    Renamed HashAcc.Renamed (hashStep r acc pair)
      (hashStep r acc' (pair.1.map (Node.renameLookups σ), pair.2.renameLookups σ)) := by
  obtain ⟨key, value⟩ := pair
  cases key with
  | some key =>
    exact (hr.expr σ key).bind fun _ _ hk => (hr.expr σ value).bind fun _ _ hv =>
      Renamed.pure ⟨hacc.1, List.rel_append hacc.2 (.cons ⟨hk, hv⟩ .nil)⟩
  | none =>
    refine (hr.expr σ value).bind fun v v' hv => Renamed.pure ⟨?_, .nil⟩
    have hcast := Op.Renamed.ofPairs (.hashCast (v, v')) (Op.Renamed.children₁ hv)
    dsimp only
    rw [← isEmpty_eq_of_forall₂ hacc.2]
    split
    · exact List.rel_append hacc.1 (.cons hcast .nil)
    · exact List.rel_append (List.rel_append hacc.1 (.cons (Op.Renamed.hashLit hacc.2) .nil))
        (.cons hcast .nil)

theorem hash_renamed (pairs : List (Option Node × Node)) (span : Span) :
    Renamed Op.Renamed (hash r pairs span) (hash r (renameLookupsPairs σ pairs) span) := by
  rw [renameLookupsPairs_eq_map]
  refine (Renamed.foldlM_map (fun _ _ pair h => hashStep_renamed hr σ h pair) pairs
    (show HashAcc.Renamed ([], []) ([], []) from ⟨.nil, .nil⟩)).bind fun acc acc' hacc => ?_
  obtain ⟨parts, pending⟩ := acc
  obtain ⟨parts', pending'⟩ := acc'
  obtain ⟨hparts, hpending⟩ := hacc
  dsimp -zeta only
  extract_lets withPending withPending'
  -- the parts, with the pending pairs as a last hash when there are any
  have hps : List.Forall₂ Op.Renamed withPending withPending' := by
    dsimp only [withPending, withPending']
    rw [← isEmpty_eq_of_forall₂ hparts, ← isEmpty_eq_of_forall₂ hpending]
    split
    · exact List.rel_append hparts (.cons (Op.Renamed.hashLit hpending) .nil)
    · exact hparts
  clear_value withPending withPending'
  obtain ⟨zs, rfl, rfl, hz⟩ := Op.exists_pairs_of_forall₂ hps
  rcases zs with _ | ⟨p, _ | ⟨q, zs⟩⟩
  · exact atSpan_renamed (Op.Renamed.ofPairs (.concatHash []) hz) span
  · exact atSpan_renamed (hz p (List.mem_singleton_self p)) span
  · exact atSpan_renamed (Op.Renamed.ofPairs (.concatHash (p :: q :: zs)) hz) span

theorem range_renamed (low high : Option Node) (exclusive : Bool) (span : Span) :
    Renamed Op.Renamed (range r low high exclusive span)
      (range r (renameLookupsOpt σ low) (renameLookupsOpt σ high) exclusive span) := by
  have hrange : ∀ lo lo' hi hi', lo.Renamed lo' → hi.Renamed hi' →
      Renamed Op.Renamed (atSpan (Op.ofForm (.range lo hi exclusive)) span)
        (atSpan (Op.ofForm (.range lo' hi' exclusive)) span) := fun lo lo' hi hi' hlo hhi =>
    atSpan_renamed (Op.Renamed.ofPairs (.range (lo, lo') (hi, hi') exclusive)
      (Op.Renamed.children₂ hlo hhi)) span
  -- a missing end is nil on both sides
  have hnil : Renamed Op.Renamed (pure Op.nil) (pure Op.nil) := Renamed.pure (Op.Renamed.refl _)
  cases low with
  | some lo =>
    cases high with
    | some hi => exact (hr.expr σ lo).bind fun _ _ h1 => (hr.expr σ hi).bind fun _ _ h2 => hrange _ _ _ _ h1 h2
    | none => exact (hr.expr σ lo).bind fun _ _ h1 => hnil.bind fun _ _ h2 => hrange _ _ _ _ h1 h2
  | none =>
    cases high with
    | some hi => exact hnil.bind fun _ _ h1 => (hr.expr σ hi).bind fun _ _ h2 => hrange _ _ _ _ h1 h2
    | none => exact hnil.bind fun _ _ h1 => hnil.bind fun _ _ h2 => hrange _ _ _ _ h1 h2

theorem flipFlop_renamed (low high : Node) (exclusive : Bool) (span : Span) :
    Renamed Op.Renamed (flipFlop r low high exclusive span)
      (flipFlop r (low.renameLookups σ) (high.renameLookups σ) exclusive span) :=
  (hr.expr σ low).bind fun lo lo' hlo => (hr.expr σ high).bind fun hi hi' hhi =>
    frame_renamed.bind_eq fun f => (onEnv_renamed (Env.Blind.allocFlipFlop f)).bind_eq fun st =>
      atSpan_renamed (Op.Renamed.ofPairs (.flipFlop (lo, lo') (hi, hi') exclusive st)
        (Op.Renamed.children₂ hlo hhi)) span

/-! ## Parameters -/

theorem bindParameter_renamed (param : Node) {value value' : Op} (hv : value.Renamed value') :
    Renamed (RelFst Op.Renamed) (bindParameter r param value)
      (bindParameter r (param.renameLookups σ) value') := by
  unfold bindParameter
  rw [Node.kind_renameLookups, Node.span_renameLookups]
  generalize param.kind = k
  cases k
  case argument name =>
    exact frame_renamed.bind_eq fun f => (declare_renamed f name).bind_eq fun slot =>
      (atSpan_renamed (Op.Renamed.writeLocal hv slot) _).bind fun _ _ hw => Renamed.pure ⟨hw, rfl⟩
  case multipleAsgn m =>
    exact (temp_renamed _).bind_eq fun t => (hr.target σ param _ _ (Op.Renamed.refl _)).bind
      fun _ _ hd => Renamed.pure
        ⟨Op.Renamed.sequence (.cons (Op.Renamed.writeLocal hv t) (.cons hd .nil)), rfl⟩
  -- every other pattern is assigned to as a target
  all_goals exact (hr.target σ param _ _ hv).bind fun _ _ hd => Renamed.pure ⟨hd, rfl⟩

theorem preBinding_renamed (missing : MissingArg) (src : ArgSource) (index : Nat) (param : Node) :
    Renamed (RelFst Op.Renamed) (preBinding r missing src index param)
      (preBinding r missing src index (param.renameLookups σ)) :=
  bindParameter_renamed hr σ param (Op.Renamed.refl _)

theorem optionalBinding_renamed (p : Params Node) (src : ArgSource) (offset : Nat) (param : Node) :
    Renamed (RelFst Op.Renamed) (optionalBinding r p src offset param)
      (optionalBinding r (Params.renameLookups σ p) src offset (param.renameLookups σ)) := by
  unfold optionalBinding
  rw [Params.pre_renameLookups, Params.post_renameLookups, List.length_map, List.length_map,
    Node.span_renameLookups, Node.kind_renameLookups]
  extract_lets index afterName
  have hafterName : ∀ x y : String × Option Node, x.1 = y.1 ∧ y.2 = renameLookupsOpt σ x.2 →
      Renamed (RelFst Op.Renamed) (afterName x) (afterName y) := by
    rintro ⟨name, default?⟩ ⟨_, _⟩ ⟨rfl, rfl⟩
    dsimp -zeta only [afterName]
    extract_lets afterDefault
    have hafterDefault : ∀ d d', d.Renamed d' →
        Renamed (RelFst Op.Renamed) (afterDefault d) (afterDefault d') := by
      intro d d' hd
      dsimp -zeta only [afterDefault]
      extract_lets value value'
      -- the value read for the parameter holds the default, on both sides up to names
      have hvalue : value.Renamed value' := by
        dsimp only [value, value']
        cases src with
        | arguments => exact Op.Renamed.ofPairs (.optionalArg index _ (d, d')) (Op.Renamed.children₁ hd)
        | array a => exact Op.Renamed.ifElse (Op.Renamed.refl _) (Op.Renamed.refl _) hd
      exact frame_renamed.bind_eq fun f => (declare_renamed f name).bind_eq fun slot =>
        (atSpan_renamed (Op.Renamed.writeLocal hvalue slot) _).bind fun _ _ hw =>
          Renamed.pure ⟨hw, rfl⟩
    cases default? with
    | some d => exact (hr.expr σ d).bind hafterDefault
    | none => exact (Renamed.pure (Op.Renamed.refl _)).bind hafterDefault
  generalize param.kind = k
  cases k
  case localAsgn name _ v => exact (Renamed.pure ⟨rfl, rfl⟩).bind hafterName
  case dasgn name _ v => exact (Renamed.pure ⟨rfl, rfl⟩).bind hafterName
  all_goals exact (Renamed.fail _ _ _ _).bind hafterName

theorem postBinding_renamed (p : Params Node) (src : ArgSource) (n : Nat) (param : Node) :
    Renamed (RelFst Op.Renamed) (postBinding r p src n param)
      (postBinding r (Params.renameLookups σ p) src n (param.renameLookups σ)) := by
  unfold postBinding
  rw [Params.pre_renameLookups, Params.post_renameLookups, Params.optional_renameLookups,
    List.length_map, List.length_map, List.length_map]
  exact bindParameter_renamed hr σ param (Op.Renamed.refl _)

theorem positional_renamed (p : Params Node) (kind : UnitKind) (src : ArgSource)
    (names : MethodParams) :
    Renamed (RelFst (List.Forall₂ Op.Renamed)) (positional r p kind src names)
      (positional r (Params.renameLookups σ p) kind src names) := by
  unfold positional
  rw [Params.pre_renameLookups, Params.optional_renameLookups, Params.post_renameLookups,
    Params.rest_renameLookups, List.length_map, List.length_map, List.length_map, List.zip_map_right,
    List.zip_map_right, List.zip_map_right]
  refine (Renamed.mapM_map (S := RelFst Op.Renamed) ?pres _).bind fun pres pres' hpres =>
    (Renamed.mapM_map (S := RelFst Op.Renamed) ?optionals _).bind fun opts opts' hopts => ?_
  case pres =>
    rintro ⟨i, param⟩
    exact preBinding_renamed hr σ _ src i param
  case optionals =>
    rintro ⟨i, param⟩
    exact optionalBinding_renamed hr σ p src i param
  extract_lets afterRest value afterRest'
  have hafterRest : ∀ rest rest', Option.Rel (RelFst Op.Renamed) rest rest' →
      Renamed (RelFst (List.Forall₂ Op.Renamed)) (afterRest rest) (afterRest' rest') := by
    intro rest rest' hrest
    dsimp -zeta only [afterRest, afterRest']
    refine (Renamed.mapM_map (S := RelFst Op.Renamed) (fun x => ?_) _).bind
      fun posts posts' hposts => ?_
    · obtain ⟨i, param⟩ := x
      exact postBinding_renamed hr σ p src i param
    -- the bindings differ in names only, and the parameter names are the same on both sides
    have hrestFst : List.Forall₂ Op.Renamed (rest.map Prod.fst).toList (rest'.map Prod.fst).toList := by
      cases hrest with
      | none => exact .nil
      | some h => exact .cons h.1 .nil
    have hrestSnd : rest.map Prod.snd = rest'.map Prod.snd := by
      cases hrest with
      | none => rfl
      | some h => rw [Option.map_some, Option.map_some, h.2]
    refine Renamed.pure ⟨List.rel_append (List.rel_append (List.rel_append
      (RelFst.forall₂_map_fst hpres) (RelFst.forall₂_map_fst hopts)) hrestFst)
      (RelFst.forall₂_map_fst hposts), ?_⟩
    dsimp only
    rw [RelFst.filterMap_snd_eq hpres, RelFst.map_snd_eq hopts, RelFst.filterMap_snd_eq hposts,
      hrestSnd]
  have hvalue : value.Renamed value := Op.Renamed.refl _
  split
  · exact (Renamed.pure .none).bind hafterRest
  · exact (Renamed.pure .none).bind hafterRest
  · exact (restSlot_renamed _ _).bind_eq fun slot =>
      (Renamed.pure (.some ⟨Op.Renamed.writeLocal hvalue slot, rfl⟩)).bind hafterRest

theorem keywordBinding_renamed (kw : String × Option Node) :
    Renamed Op.Renamed (keywordBinding r kw)
      (keywordBinding r (kw.1, kw.2.map (Node.renameLookups σ))) :=
  (Renamed.optionMapM (hr.expr σ) kw.2).bind fun _ _ hd => frame_renamed.bind_eq fun f =>
    (declare_renamed f _).bind_eq fun slot =>
      Renamed.pure (Op.Renamed.writeLocal (Op.Renamed.keywordArg _ hd) slot)

theorem parameters_renamed (p : Params Node) (kind : UnitKind) :
    Renamed (RelSnd (List.Forall₂ Op.Renamed)) (parameters r p kind)
      (parameters r (Params.renameLookups σ p) kind) := by
  -- renaming keeps the keyword names, which of them have defaults, and the arity
  have hfilter : ∀ q : Option Node → Bool, (∀ o, q (o.map (Node.renameLookups σ)) = q o) →
      ((Params.renameLookups σ p).keywords.filter fun kw => q kw.2).map Prod.fst =
        (p.keywords.filter fun kw => q kw.2).map Prod.fst := by
    intro q hq
    simp only [Params.keywords_renameLookups, List.filter_map, List.map_map, Function.comp_def, hq]
  have hnames : (Params.renameLookups σ p).keywords.map Prod.fst = p.keywords.map Prod.fst := by
    simp only [Params.keywords_renameLookups, List.map_map, Function.comp_def]
  have harity : arityOf (Params.renameLookups σ p) = arityOf p := by
    funext ks n
    simp [arityOf]
  have hspread : spreadsArray (Params.renameLookups σ p) = spreadsArray p := by
    simp [spreadsArray]
  unfold parameters
  rw [hfilter _ fun _ => Option.isNone_map, hfilter _ fun _ => Option.isSome_map, harity, hspread,
    hnames, Params.keywordRest_renameLookups, Params.block_renameLookups,
    Params.keywords_renameLookups]
  extract_lets required optional arity check afterKeep afterKeep'
  have hcheck : List.Forall₂ Op.Renamed check check := List.forall₂_same.2 fun _ _ => Op.Renamed.refl _
  -- each join point of the rule is matched on parts that differ in names, from the last one back
  have hafterKeep : ∀ keep keep', List.Forall₂ Op.Renamed keep keep' →
      Renamed (RelSnd (List.Forall₂ Op.Renamed)) (afterKeep keep) (afterKeep' keep') := by
    intro keep keep' hkeep
    dsimp -zeta only [afterKeep, afterKeep']
    extract_lets afterPositional afterPositional'
    have hafterPositional : ∀ pn pn', RelFst (List.Forall₂ Op.Renamed) pn pn' →
        Renamed (RelSnd (List.Forall₂ Op.Renamed)) (afterPositional pn) (afterPositional' pn') := by
      rintro ⟨positionals, names⟩ ⟨positionals', _⟩ ⟨hpos, rfl⟩
      dsimp -zeta only [afterPositional, afterPositional']
      refine (Renamed.mapM_map (keywordBinding_renamed hr σ) _).bind fun kws kws' hkws => ?_
      extract_lets names₁ afterKeywordRest afterKeywordRest'
      have hafterKeywordRest : ∀ kr kr', RelFst (List.Forall₂ Op.Renamed) kr kr' →
          Renamed (RelSnd (List.Forall₂ Op.Renamed)) (afterKeywordRest kr)
            (afterKeywordRest' kr') := by
        rintro ⟨keywordRest, names₂⟩ ⟨keywordRest', _⟩ ⟨hkr, rfl⟩
        dsimp -zeta only [afterKeywordRest, afterKeywordRest']
        extract_lets afterBlock afterBlock'
        have hafterBlock : ∀ bp bp', RelFst (List.Forall₂ Op.Renamed) bp bp' →
            Renamed (RelSnd (List.Forall₂ Op.Renamed)) (afterBlock bp) (afterBlock' bp') := by
          rintro ⟨blockParam, names₃⟩ ⟨blockParam', _⟩ ⟨hbp, rfl⟩
          dsimp -zeta only [afterBlock, afterBlock']
          extract_lets finish finish'
          have hfinish : ∀ u, Renamed (RelSnd (List.Forall₂ Op.Renamed)) (finish u) (finish' u) :=
            fun _ => Renamed.pure ⟨rfl, List.rel_append (List.rel_append (List.rel_append
              (List.rel_append (List.rel_append hcheck hkeep) hpos) hkws) hkr) hbp⟩
          split
          · exact frame_renamed.bind_eq fun _ => (modifyFrame_renamed _ fun _ => rfl).bind_eq hfinish
          · exact hfinish ()
        split
        · exact frame_renamed.bind_eq fun f => (declare_renamed f _).bind_eq fun slot =>
            (Renamed.pure ⟨.cons (Op.Renamed.refl _) .nil, rfl⟩).bind hafterBlock
        · exact (Renamed.pure ⟨.nil, rfl⟩).bind hafterBlock
      split
      · exact (restSlot_renamed _ _).bind_eq fun slot =>
          (Renamed.pure ⟨.cons (Op.Renamed.refl _) .nil, rfl⟩).bind hafterKeywordRest
      · exact (Renamed.pure ⟨.nil, rfl⟩).bind hafterKeywordRest
    split
    · -- a block that spreads an array chooses at run time between the two bindings
      refine (positional_renamed hr σ _ _ _ _).bind fun x x' hx => ?_
      obtain ⟨direct, names⟩ := x
      obtain ⟨direct', _⟩ := x'
      obtain ⟨hdirect, rfl⟩ := hx
      refine (temp_renamed _).bind_eq fun array =>
        (positional_renamed hr σ _ _ _ _).bind fun y y' hy => ?_
      obtain ⟨spread, _⟩ := y
      obtain ⟨spread', _⟩ := y'
      exact (Renamed.pure ⟨.cons (Op.Renamed.ifElse (Op.Renamed.refl _)
        (Op.Renamed.sequence (.cons (Op.Renamed.refl _) hy.1)) (Op.Renamed.sequence hdirect)) .nil,
        rfl⟩).bind hafterPositional
    · exact (positional_renamed hr σ _ _ _ _).bind hafterPositional
  split
  · exact frame_renamed.bind_eq fun f => (declare_renamed f _).bind_eq fun slot =>
      (Renamed.pure (.cons (Op.Renamed.refl _) .nil)).bind hafterKeep
  · exact (Renamed.pure .nil).bind hafterKeep

/-! ## Blocks and calls -/

theorem forParameter_renamed (var : Node) :
    Renamed (RelSnd (List.Forall₂ Op.Renamed)) (forParameter r var)
      (forParameter r (var.renameLookups σ)) :=
  (onEnv_renamed (Env.Blind.allocTempName _)).bind_eq fun name => frame_renamed.bind_eq fun f =>
    (declare_renamed f name).bind_eq fun _ => (hr.target σ var _ _ (Op.Renamed.refl _)).bind
      fun _ _ ha => Renamed.pure ⟨rfl, .cons (Op.Renamed.refl _) (.cons ha .nil)⟩

theorem block_renamed (spec : BlockSpec) (kind : ProcKind) :
    Renamed (RelFst Op.Renamed) (block r spec kind) (block r (spec.renameLookups σ) kind) := by
  obtain ⟨span, params, body, locals, forVar⟩ := spec
  show Renamed _ _ (block r ⟨span, Params.renameLookups σ params, body.map (Node.renameLookups σ),
    locals, forVar.map (Node.renameLookups σ)⟩ kind)
  unfold block
  extract_lets isLambda unitKind
  refine modes_renamed.bind_eq fun _ => ?_
  extract_lets ownScope
  refine frame_renamed.bind_eq fun f => ?_
  extract_lets afterReturn afterReturn'
  have hafterReturn : ∀ ret, Renamed (RelFst Op.Renamed) (afterReturn ret) (afterReturn' ret) := by
    intro ret
    dsimp -zeta only [afterReturn, afterReturn']
    refine allocBreak_renamed.bind_eq fun breakId =>
      (onEnv_renamed (Env.Blind.pushFrame _ _)).bind_eq fun bf =>
        (modifyFrame_renamed _ fun _ => rfl).bind_eq fun _ => ?_
    refine (Renamed.forIn (fun l _ => (declare_renamed bf l).bind_eq fun _ => Renamed.pure rfl) _
      _).bind_eq fun _ => ?_
    extract_lets afterMarker afterMarker'
    have hafterMarker : ∀ marker, Renamed (RelFst Op.Renamed) (afterMarker marker)
        (afterMarker' marker) := by
      intro marker
      dsimp -zeta only [afterMarker, afterMarker']
      refine Renamed.inFrame ?_ bf
      extract_lets afterParams afterParams'
      have hafterParams : ∀ x x', RelSnd (List.Forall₂ Op.Renamed) x x' →
          Renamed (RelFst Op.Renamed) (afterParams x) (afterParams' x') := by
        rintro ⟨arity, prelude⟩ ⟨_, prelude'⟩ ⟨rfl, hpre⟩
        dsimp -zeta only [afterParams, afterParams']
        refine (exprOrNil_renamed hr σ body span).bind fun b b' hbody => ?_
        have hnext := Op.Renamed.ofPairs (.catchNext (b, b')) (Op.Renamed.children₁ hbody)
        dsimp only
        -- the unit's name is read off the frame's method name, which renaming may change
        refine (withPrelude_renamed hpre ?_).bind fun b b' hb => (frameData_renamed bf).bind
          fun _ _ _ => (unitHead_renamed _ _ _ _ _).bind fun _ _ hhead =>
            (atSpan_renamed (Op.Renamed.blockDef kind hhead hb breakId marker) _).bind
              fun _ _ hd => Renamed.pure ⟨hd, rfl⟩
        -- a lambda also catches its own breaks and returns
        split
        · exact Op.Renamed.ofPairs (.catchBreak breakId false (_, _)) (Op.Renamed.children₁
            (Op.Renamed.ofPairs (.catchReturn (ret.getD 0) (_, _)) (Op.Renamed.children₁ hnext)))
        · exact hnext
      cases forVar with
      | some v => exact (forParameter_renamed hr σ v).bind hafterParams
      | none => exact (parameters_renamed hr σ params _).bind hafterParams
    split
    · exact (Renamed.pure rfl).bind_eq hafterMarker
    · exact currentMarker_renamed.bind_eq hafterMarker
  split
  · exact (allocReturn_renamed.map fun _ _ h => congrArg some h).bind_eq hafterReturn
  · exact (frameData_renamed f).bind fun _ _ hfr =>
      (Renamed.pure (by simpa using congrArg Frame.returnId hfr)).bind_eq hafterReturn

theorem lambda_renamed (b : BlockLit Node) :
    Renamed Op.Renamed (lambda r b) (lambda r (b.renameLookups σ)) :=
  ((block_renamed hr σ _ _).withMarker _).bind_relFst fun _ _ _ hd => Renamed.pure hd

theorem literalBlock_renamed (spec : BlockSpec) :
    Renamed (RelFst (Option.Rel Op.Renamed)) (literalBlock r spec)
      (literalBlock r (spec.renameLookups σ)) :=
  (temp_renamed _).bind_eq fun _ => ((block_renamed hr σ spec .proc).withMarker _).bind_relFst
    fun _ _ _ hd => Renamed.pure ⟨.some hd, rfl⟩

theorem blockArg_renamed (b : BlockArg) :
    Renamed (RelFst (Option.Rel Op.Renamed)) (blockArg r b) (blockArg r (b.renameLookups σ)) := by
  cases b with
  | absent => exact Renamed.pure ⟨.none, rfl⟩
  | synthetic spec => exact literalBlock_renamed hr σ spec
  | node n =>
    show Renamed _ (blockArg r (.node n)) (blockArg r (.node (n.renameLookups σ)))
    rw [blockArg, blockArg]
    rw [Node.kind_renameLookups, Node.span_renameLookups]
    generalize n.kind = k
    cases k
    case iter b =>
      dsimp only [Kind.renameLookups]
      rw [renameLookupsOpt_eq_map]
      exact literalBlock_renamed hr σ (BlockSpec.ofLiteral b)
    case blockPass body =>
      exact (hr.expr σ body).bind fun v v' hv => (atSpan_renamed (Op.Renamed.ofPairs
        (.toProc (v, v')) (Op.Renamed.children₁ hv)) _).bind fun _ _ hp => Renamed.pure ⟨.some hp, rfl⟩
    -- any other node is the block value itself
    all_goals exact (hr.expr σ n).bind fun _ _ hv => Renamed.pure ⟨.some hv, rfl⟩

theorem arguments_renamed (args : Option Node) (span : Span) :
    Renamed (RelFst (List.Forall₂ Op.Renamed)) (arguments r args span)
      (arguments r (renameLookupsOpt σ args) span) := by
  cases args with
  | none => exact Renamed.pure ⟨.nil, rfl⟩
  | some a =>
    show Renamed _ (arguments r (some a) span) (arguments r (some (a.renameLookups σ)) span)
    rw [arguments, arguments]
    rw [Node.kind_renameLookups, Node.span_renameLookups]
    generalize span.join a.span = j
    generalize a.kind = k
    cases k
    case array els =>
      dsimp only [Kind.renameLookups]
      rw [renameLookupsList_eq_map]
      exact (exprs_renamed hr σ els).bind fun _ _ h => Renamed.pure ⟨h, rfl⟩
    case splat _ | argsCat _ _ | argsPush _ _ =>
      exact (hr.expr σ a).bind fun _ _ h => Renamed.pure ⟨.cons (uncopied_renamed h) .nil, rfl⟩
    -- any other node is no argument list, and fails with its name or an overflow
    all_goals
      cases j with
      | ok s => exact Renamed.fail _ _ _ _
      | error e => exact Renamed.throw _

theorem finishCall_renamed {receiver receiver' : Op} (hrecv : receiver.Renamed receiver')
    (name : String) {args args' : List Op} (hargs : List.Forall₂ Op.Renamed args args')
    (splatted : Bool) (block : BlockArg) (flags : CallFlags) (span : Span) :
    Renamed Op.Renamed (finishCall r receiver name args splatted block flags span)
      (finishCall r receiver' name args' splatted (block.renameLookups σ) flags span) :=
  modes_renamed.bind_eq fun _ => (blockArg_renamed hr σ block).bind_relFst fun _ _ literal hv =>
    (atSpan_renamed (Op.Renamed.callForm hrecv hargs hv _ _) span).bind fun _ _ hcall =>
      Renamed.pure (wrapLiteralBlock_renamed hcall literal)

theorem callNode_renamed {receiver receiver' : Op} (hrecv : receiver.Renamed receiver')
    (name : String) (args : Option Node) (block : BlockArg) (flags : CallFlags) (span : Span) :
    Renamed Op.Renamed (callNode r receiver name args block flags span)
      (callNode r receiver' name (renameLookupsOpt σ args) (block.renameLookups σ) flags span) :=
  (arguments_renamed hr σ args span).bind_relFst fun _ _ _ hargs =>
    finishCall_renamed hr σ hrecv name hargs _ block flags span

theorem argsCat_renamed (first second : Node) (span : Span) :
    Renamed Op.Renamed (argsCat r first second span)
      (argsCat r (first.renameLookups σ) (second.renameLookups σ) span) := by
  rw [argsCat_eq_catParts, argsCat_eq_catParts, catParts_renameLookups]
  obtain ⟨head, seconds⟩ := catParts first
  dsimp only
  rw [show [second.renameLookups σ] = [second].map (Node.renameLookups σ) from rfl, ← List.map_append]
  refine (hr.expr σ head).bind fun h h' hh => (Renamed.mapM_map (S := Op.Renamed) (fun n =>
    (hr.expr σ n).bind fun v v' hv => Renamed.pure (Op.Renamed.ofPairs
      (.splatCast .convert false true (v, v')) (Op.Renamed.children₁ hv))) _).bind fun xs ys hxs => ?_
  obtain ⟨zs, hz1, hz2, hz⟩ := Op.exists_pairs_of_forall₂ (List.Forall₂.cons hh hxs)
  rw [← hz1, ← hz2]
  exact atSpan_renamed (Op.Renamed.ofPairs (.arrayConcat zs) hz) span

theorem argsPush_renamed (first second : Node) (span : Span) :
    Renamed Op.Renamed (argsPush r first second span)
      (argsPush r (first.renameLookups σ) (second.renameLookups σ) span) :=
  (hr.expr σ first).bind fun a a' ha => (hr.expr σ second).bind fun v v' hv => atSpan_renamed
    (Op.Renamed.ofPairs (.arrayAppend (Op.ofForm (.arrayDup a), Op.ofForm (.arrayDup a')) (v, v'))
      (Op.Renamed.children₂ (Op.Renamed.ofPairs (.arrayDup (a, a')) (Op.Renamed.children₁ ha)) hv))
    span

theorem primitive_renamed (name : String) (args : Option Node) (span : Span) :
    Renamed Op.Renamed (primitive r name args span)
      (primitive r name (renameLookupsOpt σ args) span) := by
  refine source_renamed.bind_eq fun _ => ?_
  split
  · exact Renamed.fail _ _ _ _
  · refine (arguments_renamed hr σ args span).bind_relFst fun xs ys splatted hxs => ?_
    dsimp only
    split
    · exact Renamed.fail _ _ _ _
    · obtain ⟨zs, rfl, rfl, hz⟩ := Op.exists_pairs_of_forall₂ hxs
      exact atSpan_renamed (Op.Renamed.ofPairs (.primitive name zs) hz) span

theorem internalCall_renamed (name : String) (iter : Option Node) (span : Span) :
    Renamed (Option.Rel Op.Renamed) (internalCall r name iter span)
      (internalCall r name (renameLookupsOpt σ iter) span) := by
  unfold internalCall
  split
  · cases iter with
    | none => exact Renamed.fail _ _ _ _
    | some n =>
      dsimp only [renameLookupsOpt, Option.map]
      rw [Node.kind_renameLookups]
      generalize n.kind = k
      cases k
      case iter b =>
        dsimp only [Kind.renameLookups]
        rw [renameLookupsOpt_eq_map]
        exact ((exprOrNil_renamed hr σ b.body span).withModes _).bind fun _ _ h =>
          Renamed.pure (.some h)
      all_goals exact Renamed.fail _ _ _ _
  · split
    · exact (atSpan_renamed (Op.Renamed.refl _) span).bind fun _ _ h => Renamed.pure (.some h)
    · split
      · exact (atSpan_renamed (Op.Renamed.refl _) span).bind fun _ _ h => Renamed.pure (.some h)
      · exact Renamed.pure .none

theorem notProvidedTest_renamed (args : Option Node) (span : Span) :
    Renamed Op.Renamed (notProvidedTest r args span)
      (notProvidedTest r (renameLookupsOpt σ args) span) := by
  cases args with
  | none => exact Renamed.fail _ _ _ _
  | some a =>
    unfold notProvidedTest
    dsimp only [renameLookupsOpt, Option.map]
    rw [Node.kind_renameLookups]
    generalize a.kind = k
    cases k
    case array els =>
      dsimp only [Kind.renameLookups]
      rcases els with _ | ⟨v, _ | ⟨w, rest⟩⟩
      · exact Renamed.fail _ _ _ _
      · exact (hr.expr σ v).bind fun v v' hv => atSpan_renamed
          (Op.Renamed.ofPairs (.isNotProvided (v, v')) (Op.Renamed.children₁ hv)) span
      · exact Renamed.fail _ _ _ _
    all_goals exact Renamed.fail _ _ _ _

/-- Which rule lowers a call on a constant, a primitive, a form of the internal module or none, is
the same on both sides. -/
theorem constExpansion_renamed {c c' : String} (name : String)
    (hc : c' = c ∨ (expandsCall c name = false ∧ expandsCall c' name = false))
    (args iter : Option Node) (span : Span) {k k' : Option Op → Lower Op}
    (hk : ∀ e e', Option.Rel Op.Renamed e e' → Renamed Op.Renamed (k e) (k' e')) :
    Renamed Op.Renamed
      (if c == primitiveModuleName then (some <$> primitive r name args span) >>= k
        else if c == internalModuleName then internalCall r name iter span >>= k
        else pure none >>= k)
      (if c' == primitiveModuleName then (some <$> primitive r name (renameLookupsOpt σ args) span) >>= k'
        else if c' == internalModuleName then internalCall r name (renameLookupsOpt σ iter) span >>= k'
        else pure none >>= k') := by
  rcases hc with rfl | ⟨h, h'⟩
  · split
    · exact ((primitive_renamed hr σ name args span).map fun _ _ h => .some h).bind hk
    · split
      · exact (internalCall_renamed hr σ name iter span).bind hk
      · exact (Renamed.pure .none).bind hk
  · rw [constExpansion_of_not_expandsCall r h, constExpansion_of_not_expandsCall r h']
    exact (Renamed.pure .none).bind hk

theorem call_renamed (receiver : Node) (name : String) (args iter : Option Node) (lazy : Bool)
    (span : Span) :
    Renamed Op.Renamed (call r receiver name args iter lazy span)
      (call r (renamedReceiver σ name receiver (receiver.renameLookups σ)) name
        (renameLookupsOpt σ args) (renameLookupsOpt σ iter) lazy span) := by
  obtain ⟨τ, hτ, hconst⟩ := renamedReceiver_eq σ name receiver
  rw [hτ]
  unfold call
  rw [isNone_renameLookupsOpt, isNone_renameLookupsOpt, Node.kind_renameLookups,
    BlockArg.ofIter_renameLookupsOpt]
  extract_lets frozenLiteral afterExpand frozenLiteral' afterExpand'
  -- a frozen string literal is a leaf, which renaming keeps
  have hfrozen : frozenLiteral' = frozenLiteral := by
    dsimp only [frozenLiteral, frozenLiteral']
    split
    · generalize receiver.kind = k
      cases k <;> rfl
    · rfl
  have hafter : ∀ e e', Option.Rel Op.Renamed e e' →
      Renamed Op.Renamed (afterExpand e) (afterExpand' e') := by
    intro e e' he
    dsimp -zeta only [afterExpand, afterExpand']
    cases he with
    | some h => exact Renamed.pure h
    | none => exact (hr.expr τ receiver).bind fun _ _ h => callNode_renamed hr σ h name args _ _ span
  clear_value frozenLiteral frozenLiteral' afterExpand afterExpand'
  rw [hfrozen]
  cases frozenLiteral with
  | some value => exact atSpan_renamed (Op.Renamed.refl _) span
  | none =>
    dsimp only
    split
    · next c hk =>
      rw [hk]
      dsimp only [Kind.renameLookups]
      exact constExpansion_renamed hr σ name (hconst c hk) args iter span hafter
    · next hk =>
      rw [hk]
      dsimp only [Kind.renameLookups]
      refine source_renamed.bind_eq fun _ => ?_
      split
      · exact ((notProvidedTest_renamed hr σ args span).map fun _ _ h => .some h).bind hafter
      · exact (Renamed.pure .none).bind hafter
    · -- no constant and no parameter test on one side, so none on the other
      next hc hv =>
      split
      · next c' hk' =>
        obtain ⟨c, hc', -⟩ := Kind.exists_const_of_renameLookups τ hk'
        exact absurd hc' (hc c)
      · next hk' => exact absurd (Kind.eq_vcall_of_renameLookups τ hk') hv
      · exact (Renamed.pure .none).bind hafter

theorem fcall_renamed (name : String) (args iter : Option Node) (span : Span) :
    Renamed Op.Renamed (fcall r name args iter span)
      (fcall r name (renameLookupsOpt σ args) (renameLookupsOpt σ iter) span) := by
  unfold fcall
  rw [BlockArg.ofIter_renameLookupsOpt]
  exact callNode_renamed hr σ (Op.Renamed.refl _) _ _ _ _ _

theorem attrAssign_renamed (receiver : Node) (name : String) (args : Option Node) (lazy : Bool)
    (span : Span) :
    Renamed Op.Renamed (attrAssign r receiver name args lazy span)
      (attrAssign r (receiver.renameLookups σ) name (renameLookupsOpt σ args) lazy span) := by
  unfold attrAssign
  rw [attrFlags_renameLookups]
  exact (hr.expr σ receiver).bind fun _ _ h => callNode_renamed hr σ h name args .absent _ span

theorem superCall_renamed (args iter : Option Node) (span : Span) :
    Renamed Op.Renamed (superCall r args iter span)
      (superCall r (renameLookupsOpt σ args) (renameLookupsOpt σ iter) span) := by
  unfold superCall
  rw [BlockArg.ofIter_renameLookupsOpt]
  exact (arguments_renamed hr σ args span).bind_relFst fun _ _ _ hargs =>
    (blockArg_renamed hr σ _).bind_relFst fun _ _ literal hb =>
      (atSpan_renamed (Op.Renamed.superForm hargs hb _ _) span).bind fun _ _ h =>
        Renamed.pure (wrapLiteralBlock_renamed h literal)

theorem postExe_renamed (body : Option Node) (span : Span) :
    Renamed Op.Renamed (postExe r body span) (postExe r (renameLookupsOpt σ body) span) := by
  unfold postExe
  rw [renameLookupsOpt_eq_map]
  exact finishCall_renamed hr σ (Op.Renamed.refl _) _ (.cons (Op.Renamed.refl _) .nil) _
    (.synthetic { span, body }) _ _

/-- `super` without arguments passes on the parameters of the enclosing method, which frames that
differ in method names share. -/
theorem zsuper_renamed (iter : Option Node) (span : Span) :
    Renamed Op.Renamed (zsuper r iter span) (zsuper r (renameLookupsOpt σ iter) span) := by
  unfold zsuper
  refine env_renamed.bind fun e e' he => frame_renamed.bind_eq fun f => ?_
  rw [← Env.methodFrame_nameless e, he, Env.methodFrame_nameless]
  extract_lets m afterArgs afterArgs'
  refine (frameData_renamed _).bind fun fr fr' hfr => ?_
  have hps : fr'.parameters = fr.parameters := by
    simpa using congrArg Frame.parameters hfr.symm
  rw [hps]
  extract_lets ps
  have hafterArgs : ∀ x x', RelFst (List.Forall₂ Op.Renamed) x x' →
      Renamed Op.Renamed (afterArgs x) (afterArgs' x') := by
    rintro ⟨arguments, splatted⟩ ⟨arguments', _⟩ ⟨hargs, rfl⟩
    dsimp -zeta only [afterArgs, afterArgs']
    extract_lets afterBlock afterBlock'
    have hafterBlock : ∀ y y', RelFst (Option.Rel Op.Renamed) y y' →
        Renamed Op.Renamed (afterBlock y) (afterBlock' y') := by
      rintro ⟨value, literal⟩ ⟨value', _⟩ ⟨hb, rfl⟩
      dsimp -zeta only [afterBlock, afterBlock']
      exact (atSpan_renamed (Op.Renamed.superForm hargs hb _ _) span).bind fun _ _ h =>
        Renamed.pure (wrapLiteralBlock_renamed h literal)
    cases iter with
    | some n => exact (blockArg_renamed hr σ (.node n)).bind hafterBlock
    | none => exact methodBlockRead_renamed.bind fun _ _ h => (Renamed.pure ⟨h, rfl⟩).bind hafterBlock
  refine (Renamed.mapM_same readParam_renamed _).bind fun leading leading' hleading =>
    (Renamed.mapM_same readParam_renamed _).bind fun post post' hpost =>
      (forwardedKeywords_renamed ps).bind fun keywords keywords' hkeywords => ?_
  split
  · -- with a rest parameter, one array of the parameters spread into the call
    refine (readParam_renamed _).bind fun restOp restOp' hrest =>
      (Renamed.pure ⟨.cons ?_ .nil, rfl⟩).bind hafterArgs
    have hkw : List.Forall₂ Op.Renamed ((keywords.map fun k => Op.ofForm (.arrayLit [k])).toList)
        ((keywords'.map fun k => Op.ofForm (.arrayLit [k])).toList) := by
      cases hkeywords with
      | none => exact .nil
      | some h => exact .cons (Op.Renamed.arrayLit (.cons h .nil)) .nil
    have hpostPart : List.Forall₂ Op.Renamed
        (if post.isEmpty then [] else [Op.ofForm (.arrayLit post)])
        (if post'.isEmpty then [] else [Op.ofForm (.arrayLit post')]) := by
      rw [← isEmpty_eq_of_forall₂ hpost]
      split
      · exact .nil
      · exact .cons (Op.Renamed.arrayLit hpost) .nil
    have hsplat : (Op.ofForm (.splatCast .convert false false restOp)).Renamed
        (Op.ofForm (.splatCast .convert false false restOp')) :=
      Op.Renamed.ofPairs (.splatCast .convert false false (restOp, restOp')) (Op.Renamed.children₁ hrest)
    have hparts := Op.Renamed.forall₂_append (Op.Renamed.forall₂_append
      (.cons (Op.Renamed.arrayLit hleading) (.cons hsplat .nil)) hpostPart) hkw
    obtain ⟨zs, hz1, hz2, hz⟩ := Op.exists_pairs_of_forall₂ hparts
    rw [← hz1, ← hz2]
    exact Op.Renamed.ofPairs (.arrayConcat zs) hz
  · exact (Renamed.pure ⟨List.rel_append (List.rel_append hleading hpost)
      (forall₂_toList hkeywords), rfl⟩).bind hafterArgs

theorem yieldCall_renamed (args : Option Node) (span : Span) :
    Renamed Op.Renamed (yieldCall r args span) (yieldCall r (renameLookupsOpt σ args) span) := by
  unfold yieldCall
  extract_lets afterArgs
  have hafterArgs : ∀ x x', RelFst (List.Forall₂ Op.Renamed) x x' →
      Renamed Op.Renamed (afterArgs x) (afterArgs x') := by
    rintro ⟨arguments, splatted⟩ ⟨arguments', _⟩ ⟨hargs, rfl⟩
    dsimp -zeta only [afterArgs]
    refine methodBlockRead_renamed.bind fun b b' hb => ?_
    have hblk : (b.getD Op.nil).Renamed (b'.getD Op.nil) := by
      cases hb with
      | none => exact Op.Renamed.refl _
      | some h => exact h
    obtain ⟨zs, rfl, rfl, hz⟩ := Op.exists_pairs_of_forall₂ hargs
    exact atSpan_renamed (Op.Renamed.ofPairs (.yieldCall zs splatted (_, _))
      (List.forall_mem_append.2 ⟨hz, Op.Renamed.children₁ hblk⟩)) span
  have hlist := (arguments_renamed hr σ args span).bind hafterArgs
  cases args with
  | none => exact hlist
  | some single =>
    dsimp only [renameLookupsOpt]
    rw [Node.kind_renameLookups]
    generalize single.kind = k
    cases k
    case array _ | splat _ | argsCat _ _ | argsPush _ _ => exact hlist
    -- a single argument that is no list is passed as it is
    all_goals exact (hr.expr σ single).bind fun _ _ h => (Renamed.pure ⟨.cons h .nil, rfl⟩).bind hafterArgs

/-! ## Assignments -/

theorem localAssignment_renamed (name : String) (value : Option Node) (span : Span) :
    Renamed Op.Renamed (localAssignment r name value span)
      (localAssignment r name (renameLookupsOpt σ value) span) := by
  rw [renameLookupsOpt_eq_map]
  exact (assignmentSlot_renamed name).bind_eq fun slot => (valueOrDead_renamed hr σ value _).bind
    fun _ _ hv => atSpan_renamed (Op.Renamed.writeLocal hv slot) span

theorem assignAttribute_renamed (receiver : Node) (name : String) (args : Option Node) (lazy : Bool)
    {value value' : Op} (hv : value.Renamed value') (span : Span) :
    Renamed Op.Renamed (assignAttribute r receiver name args lazy value span)
      (assignAttribute r (receiver.renameLookups σ) name (renameLookupsOpt σ args) lazy value' span) := by
  unfold assignAttribute
  rw [attrFlags_renameLookups]
  refine (hr.expr σ receiver).bind fun recv recv' hrecv => ?_
  extract_lets afterArgs afterArgs'
  have hafterArgs : ∀ x x', RelFst (List.Forall₂ Op.Renamed) x x' →
      Renamed Op.Renamed (afterArgs x) (afterArgs' x') := by
    rintro ⟨arguments, splatted⟩ ⟨arguments', _⟩ ⟨hargs, rfl⟩
    exact finishCall_renamed hr σ hrecv name hargs _ .absent _ _
  cases args with
  | none => exact (Renamed.pure ⟨.cons hv .nil, rfl⟩).bind hafterArgs
  | some a =>
    dsimp only [renameLookupsOpt]
    rw [Node.kind_renameLookups]
    generalize a.kind = k
    cases k
    case array els =>
      dsimp only [Kind.renameLookups]
      rw [renameLookupsList_eq_map]
      exact (exprs_renamed hr σ els).bind fun _ _ hxs =>
        (Renamed.pure ⟨Op.Renamed.forall₂_append hxs (.cons hv .nil), rfl⟩).bind hafterArgs
    case splat _ | argsCat _ _ | argsPush _ _ =>
      exact (hr.expr σ a).bind fun l l' hl => (Renamed.pure ⟨.cons (Op.Renamed.ofPairs
        (.arrayAppend (Op.ofForm (.arrayDup l), Op.ofForm (.arrayDup l')) (value, value'))
        (Op.Renamed.children₂ (Op.Renamed.ofPairs (.arrayDup (l, l')) (Op.Renamed.children₁ hl))
          hv)) .nil, rfl⟩).bind hafterArgs
    all_goals exact (Renamed.fail _ _ _ _).bind hafterArgs

theorem masgnParallel_renamed (pre : List Node) {rhs rhs' : Op} (h : rhs.Renamed rhs') :
    Renamed Op.Renamed (masgnParallel r pre rhs)
      (masgnParallel r (pre.map (Node.renameLookups σ)) rhs') := by
  unfold masgnParallel
  split
  · next values heq =>
    obtain ⟨values', hb, hvalues⟩ := h.arrayLit_form heq
    rw [hb]
    dsimp only
    have htemps : Renamed (List.Forall₂ (RelSnd Op.Renamed))
        (values.mapM fun v => do let l ← temp "multi"; pure (l, v))
        (values'.mapM fun v => do let l ← temp "multi"; pure (l, v)) :=
      Renamed.mapM (fun v v' hv => (temp_renamed _).bind_eq fun s => Renamed.pure ⟨rfl, hv⟩) hvalues
    refine htemps.bind fun temps temps' htemps => ?_
    rw [List.zip_map_left]
    -- each target, renamed on the right, is assigned from the same temporary
    have hpairs : List.Forall₂ (fun a b : Node × Slot × Op => b.1 = a.1.renameLookups σ ∧ b.2.1 = a.2.1)
        (pre.zip temps) ((pre.zip temps').map (Prod.map (Node.renameLookups σ) id)) := by
      refine List.forall₂_map_right_iff.2 ((forall₂_zip_left pre htemps).imp fun _ _ hab => ?_)
      exact ⟨congrArg (Node.renameLookups σ) hab.1.symm, hab.2.1.symm⟩
    refine (Renamed.mapM (S := Op.Renamed) ?_ hpairs).bind fun assigns assigns' hassigns => ?_
    · rintro ⟨t, s, v⟩ ⟨t', s', v'⟩ ⟨ht, hs⟩
      dsimp only at ht hs
      subst ht hs
      exact hr.target σ t _ _ (Op.Renamed.refl _)
    obtain ⟨hreads, hwrites⟩ := forall₂_temps_renamed htemps
    exact Renamed.pure (Op.Renamed.ofPairs (.elidable (_, _) (_, _)) (Op.Renamed.children₂
      (Op.Renamed.sequence (Op.Renamed.forall₂_append hwrites hassigns)) (Op.Renamed.arrayLit hreads)))
  · next hne =>
    split
    · next values' heq =>
      obtain ⟨values, ha, _⟩ := h.symm.arrayLit_form heq
      exact absurd ha (hne values)
    · exact Renamed.pure h

theorem masgnIndexed_renamed (pre : List Node) (rest : Option Node) (post : List Node)
    {rhs rhs' : Op} (h : rhs.Renamed rhs') (useToAry : Bool) :
    Renamed Op.Renamed (masgnIndexed r pre rest post rhs useToAry)
      (masgnIndexed r (pre.map (Node.renameLookups σ)) (rest.map (Node.renameLookups σ))
        (post.map (Node.renameLookups σ)) rhs' useToAry) := by
  unfold masgnIndexed
  rw [List.length_map, List.length_map]
  refine (temp_renamed _).bind_eq fun rhsTemp => (temp_renamed _).bind_eq fun arrayTemp =>
    masgnNil_renamed.bind_eq fun nilAs => ?_
  extract_lets load preCount postCount
  rw [List.zip_map_right, List.zip_map_right]
  refine (Renamed.mapM_map (S := Op.Renamed) (fun x => ?_) _).bind fun leading leading' hleading => ?_
  · obtain ⟨n, t⟩ := x
    exact hr.target σ t _ _ (Op.Renamed.refl _)
  extract_lets afterMiddle afterMiddle'
  have hafterMiddle : ∀ middle middle', List.Forall₂ Op.Renamed middle middle' →
      Renamed Op.Renamed (afterMiddle middle) (afterMiddle' middle') := by
    intro middle middle' hmiddle
    dsimp -zeta only [afterMiddle, afterMiddle']
    refine (Renamed.mapM_map (S := Op.Renamed) (fun x => ?_) _).bind
      fun trailing trailing' htrailing => ?_
    · obtain ⟨n, t⟩ := x
      exact hr.target σ t _ _ (Op.Renamed.refl _)
    exact Renamed.pure (Op.Renamed.ofPairs (.elidable (_, _) (_, _)) (Op.Renamed.children₂
      (Op.Renamed.sequence (Op.Renamed.forall₂_append (Op.Renamed.forall₂_append
        (Op.Renamed.forall₂_append (.cons (Op.Renamed.writeLocal h rhsTemp)
          (.cons (Op.Renamed.refl load) .nil)) hleading) hmiddle) htrailing))
      (Op.Renamed.refl _)))
  cases rest with
  | some rn =>
    exact (hr.target σ rn _ _ (Op.Renamed.refl _)).bind fun _ _ hm =>
      (Renamed.pure (.cons hm .nil)).bind hafterMiddle
  | none => exact (Renamed.pure .nil).bind hafterMiddle

theorem masgnRestOnly_renamed (rest : Node) {rhs rhs' : Op} (h : rhs.Renamed rhs') :
    Renamed Op.Renamed (masgnRestOnly r rest rhs) (masgnRestOnly r (rest.renameLookups σ) rhs') := by
  rw [masgnRestOnly_eq, masgnRestOnly_eq]
  refine masgnNil_renamed.bind_eq fun dflt => ?_
  obtain ⟨hx, hn⟩ := splatSource_renamed h dflt
  generalize splatSource rhs dflt = src at hx hn ⊢
  generalize splatSource rhs' dflt = src' at hx hn ⊢
  obtain ⟨x, nilAs⟩ := src
  obtain ⟨x', _⟩ := src'
  obtain rfl : nilAs = _ := hn
  exact (temp_renamed _).bind_eq fun rhsTemp => (temp_renamed _).bind_eq fun splatTemp =>
    (hr.target σ rest _ _ (Op.Renamed.refl _)).bind fun _ _ ha =>
      Renamed.pure (Op.Renamed.ofPairs (.elidable (_, _) (_, _)) (Op.Renamed.children₂
        (Op.Renamed.sequence (.cons (Op.Renamed.writeLocal hx rhsTemp)
          (.cons (Op.Renamed.refl _) (.cons ha .nil))))
        (Op.Renamed.refl _)))

theorem masgn_renamed (m : MultiAsgn Node) {rhs rhs' : Op} (h : rhs.Renamed rhs')
    (rhsIsList : Bool) :
    Renamed Op.Renamed (masgn r m rhs rhsIsList) (masgn r (m.renameLookups σ) rhs' rhsIsList) := by
  obtain ⟨span, pre, rest, post, value⟩ := m
  show Renamed _ _ (masgn r ⟨span, pre.map (Node.renameLookups σ), rest.map (Node.renameLookups σ),
    post.map (Node.renameLookups σ), value.map (Node.renameLookups σ)⟩ rhs' rhsIsList)
  unfold masgn
  dsimp -zeta only
  rw [List.isEmpty_map, List.isEmpty_map, List.length_map, Option.isNone_map, Option.isSome_map]
  extract_lets sameArity afterResult sameArity'
  -- the right sides are list literals of the targets' length together
  have hsame : sameArity' = sameArity := by
    dsimp only [sameArity, sameArity']
    congr 1
    exact (arrayLitLength_eq_of_renamed h _).symm
  have hafterResult : ∀ x x', x.Renamed x' → Renamed Op.Renamed (afterResult x) (afterResult x') :=
    fun _ _ hx => atSpan_renamed (asAssignment_renamed hx) _
  rw [hsame]
  split
  · exact (masgnParallel_renamed hr σ _ h).bind hafterResult
  · split
    · exact (masgnIndexed_renamed hr σ _ _ _ h _).bind hafterResult
    · split
      · cases rest with
        | some rn =>
          dsimp only [Option.map]
          rw [Node.kind_renameLookups]
          generalize rn.kind = k
          cases k
          case star => exact (Renamed.pure h).bind hafterResult
          -- a rest target that is no bare star is assigned the whole right side
          all_goals
            cases rhsIsList with
            | true => exact (hr.target σ rn _ _ h).bind hafterResult
            | false => exact (masgnRestOnly_renamed hr σ rn h).bind hafterResult
        | none => exact (Renamed.fail _ _ _ _).bind hafterResult
      · split
        · exact (masgnIndexed_renamed hr σ _ _ _ h _).bind hafterResult
        · exact (Renamed.fail _ _ _ _).bind hafterResult

theorem multipleAssignment_renamed (m : MultiAsgn Node) :
    Renamed Op.Renamed (multipleAssignment r m) (multipleAssignment r (m.renameLookups σ)) := by
  obtain ⟨span, pre, rest, post, value⟩ := m
  show Renamed _ _ (multipleAssignment r ⟨span, pre.map (Node.renameLookups σ),
    rest.map (Node.renameLookups σ), post.map (Node.renameLookups σ), value.map (Node.renameLookups σ)⟩)
  unfold multipleAssignment
  cases value with
  | none => exact Renamed.fail _ _ _ _
  | some v =>
    dsimp -zeta only [Option.map]
    extract_lets isList isList'
    -- a list literal on the right renames to one
    have hlist : isList' = isList := by
      dsimp only [isList, isList']
      rw [Node.kind_renameLookups]
      generalize v.kind = k
      cases k <;> rfl
    rw [hlist]
    exact (hr.expr σ v).bind fun _ _ h => masgn_renamed hr σ ⟨span, pre, rest, post, some v⟩ h _

theorem target_renamed (t : Node) {value value' : Op} (hv : value.Renamed value') :
    Renamed Op.Renamed (target r t value) (target r (t.renameLookups σ) value') := by
  unfold target
  rw [Node.kind_renameLookups, Node.span_renameLookups]
  generalize t.kind = k
  cases k
  case localAsgn name _ _ | dasgn name _ _ =>
    exact (assignmentSlot_renamed _).bind_eq fun slot => atSpan_renamed (Op.Renamed.writeLocal hv slot) _
  case argument name =>
    exact frame_renamed.bind_eq fun f => (declare_renamed f _).bind_eq fun slot =>
      atSpan_renamed (Op.Renamed.writeLocal hv slot) _
  case instAsgn name _ =>
    exact atSpan_renamed (Op.Renamed.ofPairs (.writeIvar _ (_, _)) (Op.Renamed.children₁ hv)) _
  case classVarAsgn name _ =>
    -- the class variable's name is renamed, and erased
    exact classVarScope_renamed.bind fun s s' hs => atSpan_renamed (Op.Renamed.ofForm
      (by simp only [Form.nameless, Form.map, Form.unnamed, hs.eq, hv.eq])) _
  case globalAsgn name _ =>
    exact atSpan_renamed (Op.Renamed.ofPairs (.writeGlobal _ (_, _)) (Op.Renamed.children₁ hv)) _
  case constDecl path _ =>
    exact (constPathModule_renamed hr σ path).bind fun m m' hm => atSpan_renamed (Op.Renamed.ofForm
      (by simp only [Form.nameless, Form.map, Form.unnamed, hm.eq, hv.eq])) _
  case attrAssign receiver name args lazy => exact assignAttribute_renamed hr σ receiver name args lazy hv _
  case multipleAsgn m =>
    dsimp only [Kind.renameLookups]
    rw [MultiAsgn.renameLookups_eq_mk]
    exact masgn_renamed hr σ m hv false
  case splat inner => exact hr.target σ inner _ _ hv
  case star => exact Renamed.pure hv
  all_goals exact Renamed.fail _ _ _ _

theorem opAsgnAnd_renamed (first second : Node) (span : Span) :
    Renamed Op.Renamed (opAsgnAnd r first second span)
      (opAsgnAnd r (first.renameLookups σ) (second.renameLookups σ) span) :=
  (hr.expr σ first).bind fun _ _ ha => (hr.expr σ second).bind fun _ _ hb => atSpan_renamed
    (asAssignment_renamed (Op.Renamed.ofPairs (.and (_, _) (_, _)) (Op.Renamed.children₂ ha hb))) span

theorem opAsgnOr_renamed (first second : Node) (span : Span) :
    Renamed Op.Renamed (opAsgnOr r first second span)
      (opAsgnOr r (first.renameLookups σ) (second.renameLookups σ) span) := by
  unfold opAsgnOr
  rw [Node.needsDefinitionCheck_renameLookups, Node.kind_renameLookups]
  refine (hr.expr σ first).bind fun _ _ ha => (hr.expr σ second).bind fun _ _ hb => ?_
  extract_lets guarded left guarded' left'
  -- whether the read is guarded looks only at the target's shape
  have hguarded : guarded' = guarded := by
    dsimp only [guarded, guarded']
    generalize first.kind = k
    cases k <;> rfl
  have hleft : left.Renamed left' := by
    dsimp only [left, left']
    rw [hguarded]
    exact Op.Renamed.ite _ (guardDefined_renamed ha) ha
  exact atSpan_renamed (asAssignment_renamed (Op.Renamed.ofPairs (.or (_, _) (_, _))
    (Op.Renamed.children₂ hleft hb))) span

theorem opAsgnConstDecl_renamed (first : Node) (operator : String) (second : Node) (span : Span) :
    Renamed Op.Renamed (opAsgnConstDecl r first operator second span)
      (opAsgnConstDecl r (first.renameLookups σ) operator (second.renameLookups σ) span) := by
  unfold opAsgnConstDecl
  extract_lets valueNode valueNode'
  -- the value of a nested constant declaration renames to the renamed value
  have hvalue : valueNode' = valueNode.renameLookups σ := by
    dsimp only [valueNode, valueNode']
    rw [Node.kind_renameLookups]
    generalize second.kind = k
    cases k
    case constDecl path v => cases v <;> rfl
    all_goals rfl
  rw [hvalue]
  refine (hr.expr σ first).bind fun left left' hl => (hr.expr σ valueNode).bind fun v v' hv => ?_
  split
  · exact (constantWrite_renamed hl hv span).bind fun _ _ hw => atSpan_renamed
      (asAssignment_renamed (Op.Renamed.ofPairs (.and (_, _) (_, _)) (Op.Renamed.children₂ hl hw))) span
  · split
    · exact (constantWrite_renamed hl hv span).bind fun _ _ hw => atSpan_renamed
        (asAssignment_renamed (Op.Renamed.ofPairs (.or (_, _) (_, _))
          (Op.Renamed.children₂ (guardDefined_renamed hl) hw))) span
    · exact (constantWrite_renamed hl (Op.Renamed.call hl (.cons hv .nil) _ _) span).bind
        fun _ _ hw => atSpan_renamed hw span

theorem opAsgn_renamed (receiver : Node) (attr operator : String) (value : Node) (lazy : Bool)
    (span : Span) :
    Renamed Op.Renamed (opAsgn r receiver attr operator value lazy span)
      (opAsgn r (receiver.renameLookups σ) attr operator (value.renameLookups σ) lazy span) := by
  unfold opAsgn
  extract_lets flags setter flags'
  -- the call flags look only at whether the receiver is `self`
  have hflags : flags' = flags := by
    dsimp only [flags, flags']
    rw [Node.kind_renameLookups]
    generalize receiver.kind = k
    cases k <;> rfl
  rw [hflags]
  refine (hr.expr σ receiver).bind fun recv recv' hrecv => (hr.expr σ value).bind fun v v' hv =>
    (temp_renamed _).bind_eq fun t => ?_
  extract_lets getter body lazyBody body' lazyBody'
  have hgetter : getter.Renamed getter := Op.Renamed.refl _
  have hbody : body.Renamed body' := by
    dsimp only [body, body']
    exact Op.Renamed.ite _ (asAssignment_renamed (logical_renamed _ hgetter
      (Op.Renamed.call (Op.Renamed.refl _) (.cons hv .nil) _ _)))
      (Op.Renamed.call (Op.Renamed.refl _)
        (.cons (Op.Renamed.call hgetter (.cons hv .nil) _ _) .nil) _ _)
  -- with safe navigation nothing happens when the receiver is nil
  have hlazy : lazyBody.Renamed lazyBody' := by
    dsimp only [lazyBody, lazyBody']
    exact Op.Renamed.ite _ (Op.Renamed.ofPairs (.ifThen (_, _) (_, _)) (Op.Renamed.children₂
      (Op.Renamed.refl _) hbody)) hbody
  exact Renamed.pure ((Op.Renamed.sequence (.cons (Op.Renamed.writeLocal hrecv t)
    (.cons hlazy .nil))).ensureSpan span)

theorem opElementAsgn_renamed (receiver : Node) (args : Option Node) (operator : String)
    (value : Node) (span : Span) :
    Renamed Op.Renamed (opElementAsgn r receiver args operator value span)
      (opElementAsgn r (receiver.renameLookups σ) (renameLookupsOpt σ args) operator
        (value.renameLookups σ) span) := by
  refine (hr.expr σ receiver).bind fun recv recv' hrecv => (temp_renamed _).bind_eq fun recvTemp =>
    (arguments_renamed hr σ args span).bind_relFst fun ivs ivs' splatted hivs => ?_
  have htemps : Renamed (List.Forall₂ (RelSnd Op.Renamed))
      (ivs.mapM fun iv => do let l ← temp "index"; pure (l, iv))
      (ivs'.mapM fun iv => do let l ← temp "index"; pure (l, iv)) :=
    Renamed.mapM (fun v v' hv => (temp_renamed _).bind_eq fun s => Renamed.pure ⟨rfl, hv⟩) hivs
  refine htemps.bind fun temps temps' htemps => (hr.expr σ value).bind fun v v' hv => ?_
  obtain ⟨hreads, hwrites⟩ := forall₂_temps_renamed htemps
  dsimp only
  have hgetter := Op.Renamed.call (Op.Renamed.refl (Op.readLocal recvTemp)) hreads "[]" { splatted }
  exact Renamed.pure ((Op.Renamed.sequence (Op.Renamed.forall₂_append (Op.Renamed.forall₂_append
    (.cons (Op.Renamed.writeLocal hrecv recvTemp) .nil) hwrites) (.cons (Op.Renamed.ite _
      (asAssignment_renamed (logical_renamed _ hgetter (Op.Renamed.call (Op.Renamed.refl _)
        (setterArgs_renamed hreads hv splatted) _ _)))
      (Op.Renamed.call (Op.Renamed.refl _)
        (setterArgs_renamed hreads (Op.Renamed.call hgetter (.cons hv .nil) _ _) splatted) _ _))
      .nil))).ensureSpan span)

end Rules

end Lower

end RubyLower
