import RubyLower.Proofs.Annotate.Steps

/-!
# Every lowering rule runs alike under annotating options

Each rule, run at two places that differ only in the annotating options, runs alike
(`Lower.Alike`) when the recursive calls do: the same steps on the scope environment, the same
lines registered, the same error or alike results. Most rules are chains of steps that run
alike; what they build from alike parts is alike (`Op.Alike.ofPairs` and the builders below).

A few rules look into a node they have lowered, and do the same on both sides because the
look only sees what alike nodes share: an argument spread without a copy (`Lower.uncopied`), the
right side of a multiple assignment (a list literal or a splat of nil), and a constant read
turned into a write (`Lower.constantWrite`).
-/

namespace RubyLower

/-! ## Inverting plain forms -/

namespace Form

variable {f : Form Op}

theorem eq_splatCast_of_plain {nilAs : SplatNil} {toAry copy : Bool} {x : Op}
    (h : f.plain = .splatCast nilAs toAry copy x) :
    ∃ y, f = .splatCast nilAs toAry copy y ∧ y.plain = x := by
  cases f <;> simp_all [Form.plain, Form.map, Form.tracing]

theorem eq_arrayLit_of_plain {xs : List Op} (h : f.plain = .arrayLit xs) :
    ∃ ys, f = .arrayLit ys ∧ ys.map Op.plain = xs := by
  cases f <;> simp_all [Form.plain, Form.map, Form.tracing]

theorem eq_nil_of_plain (h : f.plain = .nil) : f = .nil := by
  cases f <;> simp_all [Form.plain, Form.map, Form.tracing]

theorem eq_readConst_of_plain {m : Op} {name : String} (h : f.plain = .readConst m name) :
    ∃ m', f = .readConst m' name ∧ m'.plain = m := by
  cases f <;> simp_all [Form.plain, Form.map, Form.tracing]

theorem eq_readConstLexical_of_plain {scope : Nat} {name : String}
    (h : f.plain = .readConstLexical scope name) : f = .readConstLexical scope name := by
  cases f <;> simp_all [Form.plain, Form.map, Form.tracing]

theorem eq_readConstDynamic_of_plain {name : String} (h : f.plain = .readConstDynamic name) :
    f = .readConstDynamic name := by
  cases f <;> simp_all [Form.plain, Form.map, Form.tracing]

end Form

/-! ## Building alike nodes -/

namespace Op.Alike

variable {c c' : Bool} {a a' b b' d d' : Op}

@[simp] theorem object_self (l : Literal) : Alike c c' (Op.object l) (Op.object l) := leaf _ rfl

@[simp] theorem selfValue_self : Alike c c' Op.selfValue Op.selfValue := leaf _ rfl

@[simp] theorem nil_self : Alike c c' Op.nil Op.nil := refl_nil

@[simp] theorem symbol_self (name : String) : Alike c c' (Op.symbol name) (Op.symbol name) :=
  leaf _ rfl

@[simp] theorem readLocal_self (s : Slot) : Alike c c' (Op.readLocal s) (Op.readLocal s) :=
  leaf _ rfl

@[simp] theorem readGlobal_self (name : String) :
    Alike c c' (Op.ofForm (.readGlobal name)) (Op.ofForm (.readGlobal name)) :=
  leaf _ rfl

@[simp] theorem integer_self (v : Int) : Alike c c' (Op.ofForm (.integer v)) (Op.ofForm (.integer v)) :=
  leaf _ rfl

@[simp] theorem boolean_self (v : Bool) : Alike c c' (Op.ofForm (.boolean v)) (Op.ofForm (.boolean v)) :=
  leaf _ rfl

/-- The children of a form over one, two or three pairs of alike nodes. -/
theorem children₁ (h : Alike c c' a a') : ∀ p ∈ [(a, a')], Alike c c' p.1 p.2 :=
  List.forall_mem_singleton.2 h

theorem children₂ (ha : Alike c c' a a') (hb : Alike c c' b b') :
    ∀ p ∈ [(a, a'), (b, b')], Alike c c' p.1 p.2 :=
  List.forall_mem_cons.2 ⟨ha, children₁ hb⟩

theorem children₃ (ha : Alike c c' a a') (hb : Alike c c' b b') (hd : Alike c c' d d') :
    ∀ p ∈ [(a, a'), (b, b'), (d, d')], Alike c c' p.1 p.2 :=
  List.forall_mem_cons.2 ⟨ha, children₂ hb hd⟩

@[simp] theorem writeLocal (h : Alike c c' a a') (s : Slot) :
    Alike c c' (Op.writeLocal s a) (Op.writeLocal s a') :=
  ofPairs (.writeLocal s (a, a')) (children₁ h)

@[simp] theorem not (h : Alike c c' a a') : Alike c c' (Op.not a) (Op.not a') :=
  ofPairs (.not (a, a')) (children₁ h)

@[simp] theorem ifElse (ha : Alike c c' a a') (hb : Alike c c' b b') (hd : Alike c c' d d') :
    Alike c c' (Op.ifElse a b d) (Op.ifElse a' b' d') :=
  ofPairs (.ifElse (a, a') (b, b') (d, d')) (children₃ ha hb hd)

@[simp] theorem call (h : Alike c c' a a') {xs ys : List Op} (hs : List.Forall₂ (Alike c c') xs ys)
    (name : String) (flags : CallFlags) :
    Alike c c' (Op.call a name xs flags) (Op.call a' name ys flags) := by
  obtain ⟨zs, rfl, rfl, hz⟩ := exists_pairs_of_forall₂ hs
  exact ofPairs (.call (a, a') name zs none flags) (by simpa [Form.children, h] using hz)

/-- Alike lists give alike sequences, and so do lists with an alike node added. -/
theorem forall₂_append {xs ys xs' ys' : List Op} (h : List.Forall₂ (Alike c c') xs ys)
    (h' : List.Forall₂ (Alike c c') xs' ys') : List.Forall₂ (Alike c c') (xs ++ xs') (ys ++ ys') :=
  List.rel_append h h'

theorem forall₂_map_self {α : Type} (g : α → Op) {l : List α} (h : ∀ x ∈ l, Alike c c' (g x) (g x)) :
    List.Forall₂ (Alike c c') (l.map g) (l.map g) :=
  List.forall₂_map_left_iff.2 (List.forall₂_map_right_iff.2 (List.forall₂_same.2 h))

theorem ite (p : Prop) [Decidable p] (ha : Alike c c' a a') (hb : Alike c c' b b') :
    Alike c c' (if p then a else b) (if p then a' else b') := by
  split
  · exact ha
  · exact hb

theorem symm (h : Alike c c' a b) : Alike c' c b a :=
  ⟨h.plain.symm, h.right, h.left⟩

theorem children_eq_of_form {o : Op} {f : Form Op} (h : o.form = f) : o.children = f.children := by
  rw [Op.children, h]

/-- Alike nodes are list literals together, with alike items. -/
theorem arrayLit_form (h : Alike c c' a b) {vs : List Op} (ha : a.form = .arrayLit vs) :
    ∃ ws, b.form = .arrayLit ws ∧ List.Forall₂ (Alike c c') vs ws := by
  have hf := h.form
  rw [ha] at hf
  obtain ⟨ws, hb, _⟩ := Form.eq_arrayLit_of_plain hf.symm
  have hch := h.children
  rw [children_eq_of_form ha, children_eq_of_form hb] at hch
  exact ⟨ws, hb, hch⟩

/-- Alike nodes are splats together, of alike nodes. -/
theorem splatCast_form (h : Alike c c' a b) {nilAs : SplatNil} {toAry copy : Bool} {x : Op}
    (ha : a.form = .splatCast nilAs toAry copy x) :
    ∃ y, b.form = .splatCast nilAs toAry copy y ∧ Alike c c' x y := by
  have hf := h.form
  rw [ha] at hf
  obtain ⟨y, hb, _⟩ := Form.eq_splatCast_of_plain hf.symm
  have hch := h.children
  rw [children_eq_of_form ha, children_eq_of_form hb] at hch
  exact ⟨y, hb, (List.forall₂_cons.1 hch).1⟩

theorem nil_form (h : Alike c c' a b) (ha : a.form = .nil) : b.form = .nil := by
  have hf := h.form
  rw [ha] at hf
  exact Form.eq_nil_of_plain hf.symm

end Op.Alike

/-- Lists related item by item are both empty or both not. -/
theorem isEmpty_eq_of_forall₂ {α β : Type} {R : α → β → Prop} {xs : List α} {ys : List β}
    (h : List.Forall₂ R xs ys) : xs.isEmpty = ys.isEmpty := by
  cases h <;> rfl

namespace Lower

open Op (Alike)

variable {c c' : Bool}

/-! ## Nodes the rules build -/

@[simp] theorem topConst_alike (name : String) : Op.Alike c c' (topConst name) (topConst name) :=
  Op.Alike.ofPairs (.readConst (Op.object .objectClass, Op.object .objectClass) name)
    (Op.Alike.children₁ (Op.Alike.object_self _))

@[simp] theorem arrayIndex_alike (a : Slot) (i : Int) :
    Op.Alike c c' (arrayIndex a i) (arrayIndex a i) :=
  Op.Alike.ofPairs (.arrayIndex (Op.readLocal a, Op.readLocal a) i)
    (Op.Alike.children₁ (Op.Alike.readLocal_self a))

@[simp] theorem defaultDefinee_alike : Op.Alike c c' defaultDefinee defaultDefinee :=
  Op.Alike.ofPairs (.raiseIfFrozen (Op.ofForm .defaultDefinee, Op.ofForm .defaultDefinee))
    (Op.Alike.children₁ (Op.Alike.leaf _ rfl))

section Builders

variable {a a' b b' : Op}

@[simp] theorem guardDefined_alike (h : Op.Alike c c' a a') :
    Op.Alike c c' (guardDefined a) (guardDefined a') :=
  have hdef : Op.Alike c c' (Op.ofForm (.defined a)) (Op.ofForm (.defined a')) :=
    Op.Alike.ofPairs (.defined (a, a')) (Op.Alike.children₁ h)
  Op.Alike.ofPairs (.and (Op.ofForm (.defined a), Op.ofForm (.defined a')) (a, a'))
    (Op.Alike.children₂ hdef h)

@[simp] theorem asAssignment_alike (h : Op.Alike c c' a a') :
    Op.Alike c c' (asAssignment a) (asAssignment a') :=
  Op.Alike.ofPairs (.definedAs .assignment (a, a')) (Op.Alike.children₁ h)

@[simp] theorem logical_alike (operator : String) (ha : Op.Alike c c' a a') (hb : Op.Alike c c' b b') :
    Op.Alike c c' (logical operator a b) (logical operator a' b') := by
  unfold logical
  split
  · exact Op.Alike.ofPairs (.or (a, a') (b, b')) (Op.Alike.children₂ ha hb)
  · exact Op.Alike.ofPairs (.and (a, a') (b, b')) (Op.Alike.children₂ ha hb)

theorem wrapLiteralBlock_alike (h : Op.Alike c c' a a') (literal : Option (Nat × Slot)) :
    Op.Alike c c' (wrapLiteralBlock a literal) (wrapLiteralBlock a' literal) := by
  cases literal with
  | none => exact h
  | some bm =>
    have hmarked : Op.Alike c c' (Op.ofForm (.frameOnStack bm.2 a)) (Op.ofForm (.frameOnStack bm.2 a')) :=
      Op.Alike.ofPairs (.frameOnStack bm.2 (a, a')) (Op.Alike.children₁ h)
    exact Op.Alike.ofPairs (.catchBreak bm.1 false (Op.ofForm (.frameOnStack bm.2 a),
      Op.ofForm (.frameOnStack bm.2 a'))) (Op.Alike.children₁ hmarked)

theorem uncopied_mk_of_ne {f : Form Op} {s : Option Span} {fl : OpFlags}
    (hf : ∀ nilAs toAry copy x, f ≠ .splatCast nilAs toAry copy x) :
    uncopied (Op.mk f s fl) = Op.mk f s fl := by
  unfold uncopied
  split
  · next nilAs toAry copy x _ _ heq =>
    cases heq
    exact absurd rfl (hf nilAs toAry copy x)
  · rfl

/-- Taking the copy off a spread argument and forgetting annotations can go in either order. -/
theorem plain_uncopied (o : Op) : (uncopied o).plain = uncopied o.plain := by
  obtain ⟨f, s, fl⟩ := o
  by_cases hs : ∃ nilAs toAry copy x, f = .splatCast nilAs toAry copy x
  · obtain ⟨nilAs, toAry, copy, x, rfl⟩ := hs
    rw [show uncopied (Op.mk (.splatCast nilAs toAry copy x) s fl) =
      Op.mk (.splatCast nilAs toAry false x) s fl from rfl, Op.plain_mk, Op.plain_mk]
    rfl
  · have hne : ∀ nilAs toAry copy x, f ≠ .splatCast nilAs toAry copy x :=
      fun nilAs toAry copy x he => hs ⟨nilAs, toAry, copy, x, he⟩
    have hne' : ∀ nilAs toAry copy x, f.plain ≠ .splatCast nilAs toAry copy x :=
      fun nilAs toAry copy x he =>
        let ⟨y, hy, _⟩ := Form.eq_splatCast_of_plain he
        hne nilAs toAry copy y hy
    rw [uncopied_mk_of_ne hne, Op.plain_mk, uncopied_mk_of_ne hne']

theorem coverageMarks_uncopied {o : Op} (h : o.CoverageMarks c) : (uncopied o).CoverageMarks c := by
  obtain ⟨f, s, fl⟩ := o
  by_cases hs : ∃ nilAs toAry copy x, f = .splatCast nilAs toAry copy x
  · obtain ⟨nilAs, toAry, copy, x, rfl⟩ := hs
    have hm := Op.coverageMarks_mk.1 h
    exact Op.coverageMarks_mk.2 hm
  · rw [uncopied_mk_of_ne fun nilAs toAry copy x he => hs ⟨nilAs, toAry, copy, x, he⟩]
    exact h

/-- Taking the copy off a spread argument sees only the form, which alike nodes share. -/
theorem uncopied_alike (h : Op.Alike c c' a a') : Op.Alike c c' (uncopied a) (uncopied a') :=
  ⟨by rw [plain_uncopied, plain_uncopied, h.plain], coverageMarks_uncopied h.left,
    coverageMarks_uncopied h.right⟩

/-- Arms alike condition by condition and body by body nest into alike conditionals. -/
theorem chainArms_alike {arms arms' : List (Op × Op)}
    (h : List.Forall₂ (fun x y => Op.Alike c c' x.1 y.1 ∧ Op.Alike c c' x.2 y.2) arms arms')
    (ho : Op.Alike c c' a a') : Op.Alike c c' (chainArms arms a) (chainArms arms' a') := by
  induction h with
  | nil => exact ho
  | cons hxy _ ih => exact Op.Alike.ifElse hxy.1 hxy.2 ih

end Builders

/-! ## Rules that read the place or the environment only -/

theorem bignum_alike (digits : String) (span : Span) :
    Alike c c' (Op.Alike c c') (bignum digits span) (bignum digits span) := by
  unfold bignum
  split
  · exact Alike.fail _ _ _ _
  · split
    · exact atSpan_alike (.leaf _ rfl) span
    · exact atSpan_alike (Op.Alike.object_self _) span

theorem fixnum_alike (v : Int) (span : Span) :
    Alike c c' (Op.Alike c c') (fixnum v span) (fixnum v span) := by
  unfold fixnum
  split <;> exact atSpan_alike (.leaf _ rfl) span

/-- Frozen string literals are the same option on both sides. -/
theorem str_alike (value : String) (frozen : Bool) (span : Span) :
    Alike c c' (Op.Alike c c') (str value frozen span) (str value frozen span) := by
  refine options_alike.bind fun o o' ho => ?_
  rw [ho.frozen]
  split
  · exact atSpan_alike (.ofPairs (.definedAs .expression
      (Op.object (.frozenString value), Op.object (.frozenString value)))
      (Op.Alike.children₁ (Op.Alike.object_self _)))
      span
  · exact atSpan_alike (.leaf _ rfl) span

/-- Whether a source is core is the same on both sides. -/
theorem vcall_alike (name : String) (span : Span) :
    Alike c c' (Op.Alike c c') (vcall name span) (vcall name span) := by
  refine source_alike.bind fun i i' hi => ?_
  rw [hi.isCore]
  split
  · exact atSpan_alike (Op.Alike.object_self _) span
  · exact atSpan_alike (by simp) span

theorem localRead_alike (name : String) (span : Span) :
    Alike c c' (Op.Alike c c') (localRead name span) (localRead name span) :=
  (resolveOrDeclare_alike name).bind_eq fun slot => atSpan_alike (Op.Alike.readLocal_self slot) span

theorem dvarRead_alike (name : String) (depth : Nat) (span : Span) :
    Alike c c' (Op.Alike c c') (dvarRead name depth span) (dvarRead name depth span) := by
  refine frame_alike.bind_eq fun f => (resolve_alike f name).bind_eq fun found => ?_
  dsimp only
  split
  · exact (Alike.pure rfl).bind_eq fun slot => atSpan_alike (Op.Alike.readLocal_self slot) span
  · exact env_alike.bind_eq fun _ => (declare_alike _ name).bind_eq fun _ =>
      (resolveOrDeclare_alike name).bind_eq fun slot => atSpan_alike (Op.Alike.readLocal_self slot) span

theorem captureSetters_alike (matchData : Slot) (declareIn : Nat) (name : String) :
    Alike c c' (fun x y => Op.Alike c c' x.1 y.1 ∧ Op.Alike c c' x.2 y.2)
      (captureSetters matchData declareIn name) (captureSetters matchData declareIn name) :=
  (declare_alike declareIn name).bind_eq fun _ => (resolveOrDeclare_alike name).bind_eq fun _ =>
    Alike.pure ⟨by simp, by simp⟩

/-- A unit body after alike preludes is alike; the flip-flop set-up is the same on both sides. -/
theorem withPrelude_alike {prelude prelude' : List Op}
    (hp : List.Forall₂ (Op.Alike c c') prelude prelude') {body body' : Op}
    (hb : Op.Alike c c' body body') :
    Alike c c' (Op.Alike c c') (withPrelude prelude body) (withPrelude prelude' body') := by
  refine frame_alike.bind_eq fun f => (frameData_alike f).bind_eq fun fr => ?_
  dsimp only
  rw [← isEmpty_eq_of_forall₂ hp]
  split
  · exact Alike.pure hb
  · refine Alike.pure (Op.Alike.sequence (Op.Alike.forall₂_append (Op.Alike.forall₂_append
      (Op.Alike.forall₂_map_self _ fun s _ => .leaf _ rfl) hp) (.cons hb .nil)))

theorem unitHead_alike (id : Nat) (name : String) (kind : UnitKind) (arity : Arity) :
    Alike c c' Eq (unitHead id name kind arity) (unitHead id name kind arity) :=
  (frameData_alike id).bind_eq fun _ => lexicalScope_alike.bind_eq fun _ => Alike.pure rfl

theorem restSlot_alike (rest : RestParam) (pfx : String) :
    Alike c c' Eq (restSlot rest pfx) (restSlot rest pfx) := by
  unfold restSlot
  split
  · exact frame_alike.bind_eq fun f => declare_alike f _
  · exact temp_alike pfx
  · exact temp_alike pfx

theorem masgnNil_alike : Alike c c' Eq masgnNil masgnNil :=
  modes_alike.bind_eq fun _ => Alike.pure rfl

/-- A constant read turned into a write: which read it is, the constant's module and name, alike
nodes share. -/
theorem constantWrite_alike {read read' value value' : Op} (hread : Op.Alike c c' read read')
    (hv : Op.Alike c c' value value') (span : Span) :
    Alike c c' (Op.Alike c c') (constantWrite read value span) (constantWrite read' value' span) := by
  have hf := hread.form
  have hch := hread.children
  unfold constantWrite
  split
  · next m name heq =>
    rw [heq] at hf
    obtain ⟨m', heq', hm⟩ := Form.eq_readConst_of_plain hf.symm
    rw [heq']
    rw [Op.children, Op.children, heq, heq'] at hch
    exact Alike.pure (.ofPairs (.writeConst (m, m') name (value, value'))
      (Op.Alike.children₂ (List.forall₂_cons.1 hch).1 hv))
  · next scope name heq =>
    rw [heq] at hf
    rw [Form.eq_readConstLexical_of_plain hf.symm]
    have hm : Op.Alike c c' (Op.ofForm (.lexicalScopeModule scope))
        (Op.ofForm (.lexicalScopeModule scope)) := .leaf _ rfl
    exact Alike.pure (.ofPairs (.writeConst (Op.ofForm (.lexicalScopeModule scope),
      Op.ofForm (.lexicalScopeModule scope)) name (value, value')) (Op.Alike.children₂ hm hv))
  · next name heq =>
    rw [heq] at hf
    rw [Form.eq_readConstDynamic_of_plain hf.symm]
    have hm : Op.Alike c c' (Op.ofForm .dynamicLexicalScopeModule)
        (Op.ofForm .dynamicLexicalScopeModule) := .leaf _ rfl
    exact Alike.pure (.ofPairs (.writeConst (Op.ofForm .dynamicLexicalScopeModule,
      Op.ofForm .dynamicLexicalScopeModule) name (value, value')) (Op.Alike.children₂ hm hv))
  · next h1 h2 h3 =>
    split
    · next m' name heq' =>
      rw [heq'] at hf
      obtain ⟨m, heq, _⟩ := Form.eq_readConst_of_plain hf
      exact absurd heq (h1 m name)
    · next scope name heq' =>
      rw [heq'] at hf
      exact absurd (Form.eq_readConstLexical_of_plain hf) (h2 scope name)
    · next name heq' =>
      rw [heq'] at hf
      exact absurd (Form.eq_readConstDynamic_of_plain hf) (h3 name)
    · exact Alike.fail _ _ _ _

theorem inBlock_alike : Alike c c' Eq inBlock inBlock :=
  frame_alike.bind_eq fun f => (frameData_alike f).bind_eq fun _ => Alike.pure rfl

theorem redo_alike (span : Span) : Alike c c' (Op.Alike c c') (redo span) (redo span) := by
  refine inBlock_alike.bind_eq fun _ => modes_alike.bind_eq fun _ => ?_
  split
  · exact Alike.fail _ _ _ _
  · exact atSpan_alike (.leaf _ rfl) span

theorem retry_alike (span : Span) : Alike c c' (Op.Alike c c') (retry span) (retry span) := by
  refine modes_alike.bind_eq fun _ => inBlock_alike.bind_eq fun _ => ?_
  split
  · exact Alike.fail _ _ _ _
  · exact atSpan_alike (.leaf _ rfl) span

theorem command_alike {text text' : Op} (h : Op.Alike c c' text text') (span : Span) :
    Alike c c' (Op.Alike c c') (command text span) (command text' span) :=
  atSpan_alike (by simp [h]) span

theorem interpolated_alike {xs ys : List Op} (h : List.Forall₂ (Op.Alike c c') xs ys) :
    Op.Alike c c' (Op.ofForm (.interpolated xs)) (Op.ofForm (.interpolated ys)) := by
  obtain ⟨zs, rfl, rfl, hz⟩ := Op.exists_pairs_of_forall₂ h
  exact .ofPairs (.interpolated zs) hz

/-- The parts finished and the pairs pending of a hash literal, alike on both sides. -/
def HashAcc.Alike (c c' : Bool) (acc acc' : List Op × List (Op × Op)) : Prop :=
  List.Forall₂ (Op.Alike c c') acc.1 acc'.1 ∧
    List.Forall₂ (fun x y => Op.Alike c c' x.1 y.1 ∧ Op.Alike c c' x.2 y.2) acc.2 acc'.2

theorem hashLit_alike {ps ps' : List (Op × Op)}
    (h : List.Forall₂ (fun x y => Op.Alike c c' x.1 y.1 ∧ Op.Alike c c' x.2 y.2) ps ps') :
    Op.Alike c c' (Op.ofForm (.hashLit ps)) (Op.ofForm (.hashLit ps')) := by
  -- the pairs' plain nodes agree, and their keys and values in order are alike
  have key : List.Forall₂ (Op.Alike c c') (ps.flatMap fun p => [p.1, p.2])
      (ps'.flatMap fun p => [p.1, p.2]) ∧
      ps.map (fun p => (p.1.plain, p.2.plain)) = ps'.map (fun p => (p.1.plain, p.2.plain)) := by
    induction h with
    | nil => exact ⟨.nil, rfl⟩
    | cons hxy _ ih =>
      exact ⟨.cons hxy.1 (.cons hxy.2 ih.1),
        by rw [List.map_cons, List.map_cons, ih.2, hxy.1.plain, hxy.2.plain]⟩
  have hm := Op.forall₂_alike_iff.1 key.1
  exact .ofForm (by simp only [Form.plain, Form.map, Form.tracing, key.2]) hm.2.1 hm.2.2

/-- Pairs whose first parts are related by `R` and whose second parts are equal. -/
def RelFst {α β γ : Type} (R : α → β → Prop) (x : α × γ) (y : β × γ) : Prop :=
  R x.1 y.1 ∧ x.2 = y.2

/-- Pairs whose first parts are equal and whose second parts are related by `R`. -/
def RelSnd {α β γ : Type} (R : β → γ → Prop) (x : α × β) (y : α × γ) : Prop :=
  x.1 = y.1 ∧ R x.2 y.2

section RelFst

variable {γ : Type} {l l' : List (Op × γ)}

theorem RelFst.forall₂_fst (h : List.Forall₂ (RelFst (Op.Alike c c')) l l') :
    List.Forall₂ (Op.Alike c c') (l.map Prod.fst) (l'.map Prod.fst) :=
  List.forall₂_map_left_iff.2 (List.forall₂_map_right_iff.2 (h.imp fun _ _ hxy => hxy.1))

theorem RelFst.map_snd (h : List.Forall₂ (RelFst (Op.Alike c c')) l l') :
    l.map Prod.snd = l'.map Prod.snd := by
  induction h with
  | nil => rfl
  | cons hxy _ ih => rw [List.map_cons, List.map_cons, hxy.2, ih]

theorem RelFst.filterMap_snd {l l' : List (Op × Option String)}
    (h : List.Forall₂ (RelFst (Op.Alike c c')) l l') : l.filterMap Prod.snd = l'.filterMap Prod.snd := by
  induction h with
  | nil => rfl
  | cons hxy _ ih => rw [List.filterMap_cons, List.filterMap_cons, hxy.2, ih]

end RelFst

/-- A keyword argument with alike defaults, or none on both sides. -/
theorem keywordArg_alike (name : String) {d d' : Option Op} (h : Option.Rel (Op.Alike c c') d d') :
    Op.Alike c c' (Op.ofForm (.keywordArg name d)) (Op.ofForm (.keywordArg name d')) := by
  cases h with
  | none => exact .leaf _ rfl
  | some h => exact .ofPairs (.keywordArg name (some (_, _))) (Op.Alike.children₁ h)

theorem Alike.bind_relFst {α β γ δ ε : Type} {R : α → β → Prop} {S : δ → ε → Prop}
    {x : Lower (α × γ)} {y : Lower (β × γ)} {k : α × γ → Lower δ} {k' : β × γ → Lower ε}
    (hx : Alike c c' (RelFst R) x y) (hk : ∀ a b v, R a b → Alike c c' S (k (a, v)) (k' (b, v))) :
    Alike c c' S (x >>= k) (y >>= k') :=
  hx.bind fun ⟨a, v⟩ ⟨b, w⟩ ⟨hab, hv⟩ => by
    obtain rfl : v = w := hv
    exact hk a b v hab

theorem Alike.bind_relSnd {α β γ δ ε : Type} {R : α → β → Prop} {S : δ → ε → Prop}
    {x : Lower (γ × α)} {y : Lower (γ × β)} {k : γ × α → Lower δ} {k' : γ × β → Lower ε}
    (hx : Alike c c' (RelSnd R) x y) (hk : ∀ v a b, R a b → Alike c c' S (k (v, a)) (k' (v, b))) :
    Alike c c' S (x >>= k) (y >>= k') :=
  hx.bind fun ⟨v, a⟩ ⟨w, b⟩ ⟨hv, hab⟩ => by
    obtain rfl : v = w := hv
    exact hk v a b hab

/-- A call with alike receivers, arguments and blocks. -/
theorem callForm_alike {recv recv' : Op} (hrecv : Op.Alike c c' recv recv') {args args' : List Op}
    (hargs : List.Forall₂ (Op.Alike c c') args args') {b b' : Option Op}
    (hb : Option.Rel (Op.Alike c c') b b') (name : String) (flags : CallFlags) :
    Op.Alike c c' (Op.ofForm (.call recv name args b flags)) (Op.ofForm (.call recv' name args' b' flags)) := by
  obtain ⟨zs, rfl, rfl, hz⟩ := Op.exists_pairs_of_forall₂ hargs
  cases hb with
  | none =>
    exact .ofPairs (.call (recv, recv') name zs none flags)
      (List.forall_mem_cons.2 ⟨hrecv, List.forall_mem_append.2 ⟨hz, fun _ h => by cases h⟩⟩)
  | some h =>
    exact .ofPairs (.call (recv, recv') name zs (some (_, _)) flags)
      (List.forall_mem_cons.2 ⟨hrecv, List.forall_mem_append.2 ⟨hz, Op.Alike.children₁ h⟩⟩)

/-- A `super` call with alike arguments and blocks. -/
theorem superForm_alike {args args' : List Op} (hargs : List.Forall₂ (Op.Alike c c') args args')
    {b b' : Option Op} (hb : Option.Rel (Op.Alike c c') b b') (splatted implicit : Bool) :
    Op.Alike c c' (Op.ofForm (.superCall args b splatted implicit))
      (Op.ofForm (.superCall args' b' splatted implicit)) := by
  obtain ⟨zs, rfl, rfl, hz⟩ := Op.exists_pairs_of_forall₂ hargs
  cases hb with
  | none =>
    exact .ofPairs (.superCall zs none splatted implicit)
      (List.forall_mem_append.2 ⟨hz, fun _ h => by cases h⟩)
  | some h =>
    exact .ofPairs (.superCall zs (some (_, _)) splatted implicit)
      (List.forall_mem_append.2 ⟨hz, Op.Alike.children₁ h⟩)

theorem arrayLit_alike {xs ys : List Op} (h : List.Forall₂ (Op.Alike c c') xs ys) :
    Op.Alike c c' (Op.ofForm (.arrayLit xs)) (Op.ofForm (.arrayLit ys)) := by
  obtain ⟨zs, rfl, rfl, hz⟩ := Op.exists_pairs_of_forall₂ h
  exact .ofPairs (.arrayLit zs) hz

theorem forall₂_toList {α β : Type} {R : α → β → Prop} {a : Option α} {b : Option β}
    (h : Option.Rel R a b) : List.Forall₂ R a.toList b.toList := by
  cases h with
  | none => exact .nil
  | some h => exact .cons h .nil

/-- Pairing a list with two related lists relates the pairs. -/
theorem forall₂_zip_left {γ α β : Type} {R : α → β → Prop} :
    ∀ (l : List γ) {xs : List α} {ys : List β}, List.Forall₂ R xs ys →
      List.Forall₂ (fun a b => a.1 = b.1 ∧ R a.2 b.2) (l.zip xs) (l.zip ys)
  | [], _, _, _ => by simp
  | _ :: _, _, _, .nil => by simp
  | g :: l, _, _, .cons hxy hrest => .cons ⟨rfl, hxy⟩ (forall₂_zip_left l hrest)

/-- Temporaries paired with alike values give the same reads and alike writes. -/
theorem forall₂_temps {temps temps' : List (Slot × Op)}
    (h : List.Forall₂ (RelSnd (Op.Alike c c')) temps temps') :
    List.Forall₂ (Op.Alike c c') (temps.map fun x => Op.readLocal x.1)
      (temps'.map fun x => Op.readLocal x.1) ∧
    List.Forall₂ (Op.Alike c c') (temps.map fun x => Op.writeLocal x.1 x.2)
      (temps'.map fun x => Op.writeLocal x.1 x.2) := by
  induction h with
  | nil => exact ⟨.nil, .nil⟩
  | @cons x y _ _ hxy _ ih =>
    obtain ⟨s, v⟩ := x
    obtain ⟨s', v'⟩ := y
    obtain ⟨hs, hv⟩ := hxy
    dsimp only at hs hv
    subst hs
    exact ⟨.cons (Op.Alike.readLocal_self s) ih.1, .cons (Op.Alike.writeLocal hv s) ih.2⟩

/-- Whether a right side is a list literal of a given length, alike nodes share. -/
theorem arrayLitLength_eq {rhs rhs' : Op} (h : Op.Alike c c' rhs rhs') (n : Nat) :
    (match rhs.form with
      | .arrayLit vs => vs.length == n
      | _ => false) =
    (match rhs'.form with
      | .arrayLit vs => vs.length == n
      | _ => false) := by
  split
  · next vs heq =>
    obtain ⟨ws, hb, hvw⟩ := h.arrayLit_form heq
    rw [hb, hvw.length_eq]
  · next hne =>
    split
    · next ws heq =>
      obtain ⟨vs, ha, _⟩ := h.symm.arrayLit_form heq
      exact absurd ha (hne vs)
    · rfl

/-- The right side a rest-only multiple assignment stores and how its splat converts nil: a
splat of nil stores nil and converts it, anything else is stored as it is. -/
def splatSource (rhs : Op) (dflt : SplatNil) : Op × SplatNil :=
  match rhs.form with
  | .splatCast _ _ _ child =>
    match child.form with
    | .nil => (child, .convert)
    | _ => (rhs, dflt)
  | _ => (rhs, dflt)

/-- The assignment of a rest target alone, given the right side it stores and how its splat
converts nil. -/
def restOnlyAssign (r : Recur) (rest : Node) (source : Op × SplatNil) : Lower Op := do
  let rhsTemp ← temp "rhs"
  let splatTemp ← temp "splat"
  let assign ← r.target rest (Op.readLocal splatTemp)
  let load := Op.writeLocal splatTemp
    (Op.ofForm (.splatCast source.2 true false (Op.readLocal rhsTemp)))
  let value := if source.2 == .convert then Op.readLocal splatTemp else Op.readLocal rhsTemp
  return Op.ofForm (.elidable (Op.sequence [Op.writeLocal rhsTemp source.1, load, assign]) value)

theorem masgnRestOnly_eq (r : Recur) (rest : Node) (rhs : Op) :
    masgnRestOnly r rest rhs = masgnNil >>= fun dflt => restOnlyAssign r rest (splatSource rhs dflt) :=
  rfl

/-- A splat of nil on one side is one on the other, so alike right sides store alike nodes and
convert nil the same way. -/
theorem splatSource_alike {rhs rhs' : Op} (h : Op.Alike c c' rhs rhs') (dflt : SplatNil) :
    RelFst (Op.Alike c c') (splatSource rhs dflt) (splatSource rhs' dflt) := by
  unfold splatSource
  split
  · next nilAs toAry copy child heq =>
    obtain ⟨child', hb, hchild⟩ := h.splatCast_form heq
    rw [hb]
    dsimp only
    split
    · next hnil =>
      rw [hchild.nil_form hnil]
      exact ⟨hchild, rfl⟩
    · next hnn =>
      split
      · next hnil' => exact absurd (hchild.symm.nil_form hnil') hnn
      · exact ⟨h, rfl⟩
  · next hne =>
    split
    · next nilAs toAry copy child' heq' =>
      obtain ⟨child, ha, _⟩ := h.symm.splatCast_form heq'
      exact absurd ha (hne nilAs toAry copy child)
    · exact ⟨h, rfl⟩

/-- The arguments of an element setter: the indices and the value, or one array of them when the
indices are spread. -/
theorem setterArgs_alike {reads reads' : List Op} (hreads : List.Forall₂ (Op.Alike c c') reads reads')
    {x x' : Op} (hx : Op.Alike c c' x x') (splatted : Bool) :
    List.Forall₂ (Op.Alike c c')
      (if splatted = true then [Op.ofForm (.arrayAppend (Op.ofForm (.arrayDup (Op.sequence reads))) x)]
        else reads ++ [x])
      (if splatted = true then [Op.ofForm (.arrayAppend (Op.ofForm (.arrayDup (Op.sequence reads'))) x')]
        else reads' ++ [x']) := by
  split
  · exact .cons (.ofPairs (.arrayAppend (_, _) (_, _)) (Op.Alike.children₂
      (.ofPairs (.arrayDup (_, _)) (Op.Alike.children₁ (Op.Alike.sequence hreads))) hx)) .nil
  · exact Op.Alike.forall₂_append hreads (.cons hx .nil)

section Rules

variable {r : Recur} (hr : r.Alike c c')
include hr

/-! ## Literals -/

theorem rational_alike (a b : Node) (span : Span) :
    Alike c c' (Op.Alike c c') (rational r a b span) (rational r a b span) :=
  (hr.expr a).bind fun n n' hn => (hr.expr b).bind fun d d' hd => atSpan_alike (by simp [hn, hd]) span

theorem complex_alike (a : Node) (span : Span) :
    Alike c c' (Op.Alike c c') (complex r a span) (complex r a span) :=
  (hr.expr a).bind fun n n' hn => atSpan_alike (by simp [hn]) span

theorem dstr_alike (parts : List Node) (span : Span) :
    Alike c c' (Op.Alike c c') (dstr r parts span) (dstr r parts span) :=
  (exprs_alike hr parts).bind fun _ _ h => atSpan_alike (interpolated_alike h) span

theorem dsymbol_alike (parts : List Node) (span : Span) :
    Alike c c' (Op.Alike c c') (dsymbol r parts span) (dsymbol r parts span) :=
  (exprs_alike hr parts).bind fun xs ys h => atSpan_alike (.ofPairs (.toSymbol
    (Op.ofForm (.interpolated xs), Op.ofForm (.interpolated ys)))
    (Op.Alike.children₁ (interpolated_alike h))) span

theorem dxstr_alike (parts : List Node) (span : Span) :
    Alike c c' (Op.Alike c c') (dxstr r parts span) (dxstr r parts span) :=
  (exprs_alike hr parts).bind fun _ _ h => command_alike (interpolated_alike h) span

theorem evstr_alike (body : Option Node) (span : Span) :
    Alike c c' (Op.Alike c c') (evstr r body span) (evstr r body span) := by
  unfold evstr
  split
  · exact atSpan_alike (.leaf _ rfl) span
  · exact (hr.expr _).bind fun v v' hv =>
      atSpan_alike (.ofPairs (.toS (v, v')) (Op.Alike.children₁ hv)) span

theorem dregexp_alike (parts : List Node) (flags : RegexpFlags) (span : Span) :
    Alike c c' (Op.Alike c c') (dregexp r parts flags span) (dregexp r parts flags span) :=
  (exprs_alike hr parts).bind fun xs ys h => by
    obtain ⟨zs, rfl, rfl, hz⟩ := Op.exists_pairs_of_forall₂ h
    have hre : Op.Alike c c' _ _ := Op.Alike.ofPairs (.interpolatedRegexp zs flags.withoutOnce) hz
    dsimp only
    split
    · exact atSpan_alike (.ofPairs (.once (_, _)) (Op.Alike.children₁ hre)) span
    · exact atSpan_alike hre span

theorem matchLastLine_alike (re : Node) (span : Span) :
    Alike c c' (Op.Alike c c') (matchLastLine r re span) (matchLastLine r re span) :=
  (hr.expr re).bind fun v v' hv => atSpan_alike (by simp [hv]) span

theorem match2_alike (receiver value : Node) (span : Span) :
    Alike c c' (Op.Alike c c') (match2 r receiver value span) (match2 r receiver value span) := by
  refine (hr.expr receiver).bind fun re re' hre => (hr.expr value).bind fun v v' hv =>
    (atSpan_alike (Op.Alike.call hre (.cons hv .nil) "=~" {}) span).bind fun m m' hm => ?_
  dsimp only
  split
  · split
    · exact Alike.pure hm
    · refine (temp_alike _).bind_eq fun md => env_alike.bind_eq fun _ => frame_alike.bind_eq
        fun _ => (Alike.mapM_same (captureSetters_alike md _) _).bind fun setters setters' hs =>
          Alike.pure ?_
      have hfst : List.Forall₂ (Op.Alike c c') (setters.map Prod.fst) (setters'.map Prod.fst) :=
        List.forall₂_map_left_iff.2 (List.forall₂_map_right_iff.2 (hs.imp fun _ _ h => h.1))
      have hsnd : List.Forall₂ (Op.Alike c c') (setters.map Prod.snd) (setters'.map Prod.snd) :=
        List.forall₂_map_left_iff.2 (List.forall₂_map_right_iff.2 (hs.imp fun _ _ h => h.2))
      obtain ⟨zs, hz1, hz2, hz⟩ := Op.exists_pairs_of_forall₂ hfst
      obtain ⟨ws, hw1, hw2, hw⟩ := Op.exists_pairs_of_forall₂ hsnd
      rw [← hz1, ← hz2, ← hw1, ← hw2]
      have hread : Op.Alike c c' (Op.writeLocal md (Op.ofForm (.readGlobal "$~")))
          (Op.writeLocal md (Op.ofForm (.readGlobal "$~"))) := by simp
      exact .ofPairs (.namedCaptures (m, m') (_, _) zs ws)
        (List.forall_mem_cons.2 ⟨hm, List.forall_mem_cons.2 ⟨hread, List.forall_mem_append.2 ⟨hz, hw⟩⟩⟩)
  · exact Alike.pure hm

theorem hashStep_alike {acc acc' : List Op × List (Op × Op)} (hacc : HashAcc.Alike c c' acc acc')
    (pair : Option Node × Node) :
    Alike c c' (HashAcc.Alike c c') (hashStep r acc pair) (hashStep r acc' pair) := by
  unfold hashStep
  split
  · exact (hr.expr _).bind fun k k' hk => (hr.expr _).bind fun v v' hv =>
      Alike.pure ⟨hacc.1, List.rel_append hacc.2 (.cons ⟨hk, hv⟩ .nil)⟩
  · refine (hr.expr _).bind fun v v' hv => Alike.pure ⟨?_, .nil⟩
    have hcast : Op.Alike c c' (Op.ofForm (.hashCast v)) (Op.ofForm (.hashCast v')) :=
      .ofPairs (.hashCast (v, v')) (Op.Alike.children₁ hv)
    dsimp only
    rw [← isEmpty_eq_of_forall₂ hacc.2]
    split
    · exact List.rel_append hacc.1 (.cons hcast .nil)
    · exact List.rel_append (List.rel_append hacc.1 (.cons (hashLit_alike hacc.2) .nil))
        (.cons hcast .nil)

theorem hash_alike (pairs : List (Option Node × Node)) (span : Span) :
    Alike c c' (Op.Alike c c') (hash r pairs span) (hash r pairs span) := by
  refine (Alike.foldlM (fun _ _ pair h => hashStep_alike hr h pair) pairs
    (show HashAcc.Alike c c' ([], []) ([], []) from ⟨.nil, .nil⟩)).bind fun acc acc' hacc => ?_
  obtain ⟨parts, pending⟩ := acc
  obtain ⟨parts', pending'⟩ := acc'
  obtain ⟨hparts, hpending⟩ := hacc
  dsimp -zeta only
  extract_lets withPending withPending'
  -- the parts, with the pending pairs as a last hash when there are any
  have hps : List.Forall₂ (Op.Alike c c') withPending withPending' := by
    dsimp only [withPending, withPending']
    rw [← isEmpty_eq_of_forall₂ hparts, ← isEmpty_eq_of_forall₂ hpending]
    split
    · exact List.rel_append hparts (.cons (hashLit_alike hpending) .nil)
    · exact hparts
  clear_value withPending withPending'
  obtain ⟨zs, rfl, rfl, hz⟩ := Op.exists_pairs_of_forall₂ hps
  rcases zs with _ | ⟨p, _ | ⟨q, zs⟩⟩
  · exact atSpan_alike (.ofPairs (.concatHash []) hz) span
  · exact atSpan_alike (hz p (List.mem_singleton_self p)) span
  · exact atSpan_alike (.ofPairs (.concatHash (p :: q :: zs)) hz) span

theorem range_alike (low high : Option Node) (exclusive : Bool) (span : Span) :
    Alike c c' (Op.Alike c c') (range r low high exclusive span) (range r low high exclusive span) := by
  unfold range
  extract_lets afterLow
  have hafterLow : ∀ lo lo', Op.Alike c c' lo lo' →
      Alike c c' (Op.Alike c c') (afterLow lo) (afterLow lo') := by
    intro lo lo' hlo
    dsimp -zeta only [afterLow]
    extract_lets afterHigh afterHigh'
    have hafterHigh : ∀ hi hi', Op.Alike c c' hi hi' →
        Alike c c' (Op.Alike c c') (afterHigh hi) (afterHigh' hi') := fun hi hi' hhi =>
      atSpan_alike (.ofPairs (.range (lo, lo') (hi, hi') exclusive) (Op.Alike.children₂ hlo hhi)) span
    split
    · exact (hr.expr _).bind hafterHigh
    · exact (Alike.pure Op.Alike.refl_nil).bind hafterHigh
  split
  · exact (hr.expr _).bind hafterLow
  · exact (Alike.pure Op.Alike.refl_nil).bind hafterLow

theorem flipFlop_alike (low high : Node) (exclusive : Bool) (span : Span) :
    Alike c c' (Op.Alike c c') (flipFlop r low high exclusive span) (flipFlop r low high exclusive span) :=
  (hr.expr low).bind fun lo lo' hlo => (hr.expr high).bind fun hi hi' hhi => frame_alike.bind_eq
    fun _ => (onEnv_alike _).bind_eq fun st => atSpan_alike
      (.ofPairs (.flipFlop (lo, lo') (hi, hi') exclusive st) (Op.Alike.children₂ hlo hhi)) span

/-! ## Parameters -/

theorem bindParameter_alike (param : Node) {value value' : Op} (hv : Op.Alike c c' value value') :
    Alike c c' (RelFst (Op.Alike c c')) (bindParameter r param value) (bindParameter r param value') := by
  unfold bindParameter
  split
  · exact frame_alike.bind_eq fun f => (declare_alike f _).bind_eq fun slot =>
      (atSpan_alike (Op.Alike.writeLocal hv slot) _).bind fun _ _ hw => Alike.pure ⟨hw, rfl⟩
  · exact (temp_alike _).bind_eq fun t => (hr.target _ _ _ (Op.Alike.readLocal_self t)).bind
      fun _ _ hd => Alike.pure ⟨Op.Alike.sequence (.cons (Op.Alike.writeLocal hv t) (.cons hd .nil)), rfl⟩
  · exact (hr.target _ _ _ hv).bind fun _ _ hd => Alike.pure ⟨hd, rfl⟩

theorem preBinding_alike (missing : MissingArg) (src : ArgSource) (index : Nat) (param : Node) :
    Alike c c' (RelFst (Op.Alike c c')) (preBinding r missing src index param)
      (preBinding r missing src index param) := by
  unfold preBinding
  refine bindParameter_alike hr param ?_
  split
  · exact .leaf _ rfl
  · exact arrayIndex_alike _ _

theorem optionalBinding_alike (params : Params Node) (src : ArgSource) (offset : Nat) (param : Node) :
    Alike c c' (RelFst (Op.Alike c c')) (optionalBinding r params src offset param)
      (optionalBinding r params src offset param) := by
  unfold optionalBinding
  extract_lets index afterName
  have hafterName : ∀ x, Alike c c' (RelFst (Op.Alike c c')) (afterName x) (afterName x) := by
    rintro ⟨name, default?⟩
    dsimp -zeta only [afterName]
    extract_lets afterDefault
    have hafterDefault : ∀ d d', Op.Alike c c' d d' →
        Alike c c' (RelFst (Op.Alike c c')) (afterDefault d) (afterDefault d') := by
      intro d d' hd
      dsimp -zeta only [afterDefault]
      extract_lets value value'
      -- the value read for the parameter holds the default, on both sides alike
      have hvalue : Op.Alike c c' value value' := by
        dsimp only [value, value']
        cases src with
        | arguments => exact .ofPairs (.optionalArg index _ (d, d')) (Op.Alike.children₁ hd)
        | array a =>
          exact Op.Alike.ifElse (.ofPairs (.arraySizeAtLeast (Op.readLocal a, Op.readLocal a) _)
            (Op.Alike.children₁ (Op.Alike.readLocal_self a))) (arrayIndex_alike a _) hd
      exact frame_alike.bind_eq fun f => (declare_alike f name).bind_eq fun slot =>
        (atSpan_alike (Op.Alike.writeLocal hvalue slot) _).bind fun _ _ hw => Alike.pure ⟨hw, rfl⟩
    split
    · exact (hr.expr _).bind hafterDefault
    · exact (Alike.pure Op.Alike.refl_nil).bind hafterDefault
  split
  · exact (Alike.pure rfl).bind_eq hafterName
  · exact (Alike.pure rfl).bind_eq hafterName
  · exact (Alike.fail _ _ _ _).bind_eq hafterName

theorem postBinding_alike (params : Params Node) (src : ArgSource) (n : Nat) (param : Node) :
    Alike c c' (RelFst (Op.Alike c c')) (postBinding r params src n param)
      (postBinding r params src n param) := by
  unfold postBinding
  refine bindParameter_alike hr param ?_
  split
  · exact .leaf _ rfl
  · exact Op.Alike.ifElse (.ofPairs (.arraySizeAtLeast (Op.readLocal _, Op.readLocal _) _)
      (Op.Alike.children₁ (Op.Alike.readLocal_self _))) (arrayIndex_alike _ _) (arrayIndex_alike _ _)

theorem positional_alike (params : Params Node) (kind : UnitKind) (src : ArgSource)
    (names : MethodParams) :
    Alike c c' (RelFst (List.Forall₂ (Op.Alike c c'))) (positional r params kind src names)
      (positional r params kind src names) := by
  unfold positional
  refine (Alike.mapM_same (S := RelFst (Op.Alike c c')) ?pres _).bind fun pres pres' hpres =>
    (Alike.mapM_same (S := RelFst (Op.Alike c c')) ?optionals _).bind fun opts opts' hopts => ?_
  case pres =>
    rintro ⟨i, param⟩
    exact preBinding_alike hr _ src i param
  case optionals =>
    rintro ⟨i, param⟩
    exact optionalBinding_alike hr params src i param
  extract_lets afterRest value afterRest'
  have hafterRest : ∀ rest rest', Option.Rel (RelFst (Op.Alike c c')) rest rest' →
      Alike c c' (RelFst (List.Forall₂ (Op.Alike c c'))) (afterRest rest) (afterRest' rest') := by
    intro rest rest' hrest
    dsimp -zeta only [afterRest, afterRest']
    refine (Alike.mapM_same (S := RelFst (Op.Alike c c')) (fun x => ?_) _).bind
      fun posts posts' hposts => ?_
    · obtain ⟨i, param⟩ := x
      exact postBinding_alike hr params src i param
    -- the bindings alike, and the parameter names the same on both sides
    have hrestFst : List.Forall₂ (Op.Alike c c') (rest.map Prod.fst).toList
        (rest'.map Prod.fst).toList := by
      cases hrest with
      | none => exact .nil
      | some h => exact .cons h.1 .nil
    have hrestSnd : rest.map Prod.snd = rest'.map Prod.snd := by
      cases hrest with
      | none => rfl
      | some h => rw [Option.map_some, Option.map_some, h.2]
    refine Alike.pure ⟨Op.Alike.forall₂_append (Op.Alike.forall₂_append (Op.Alike.forall₂_append
      (RelFst.forall₂_fst hpres) (RelFst.forall₂_fst hopts)) hrestFst) (RelFst.forall₂_fst hposts), ?_⟩
    dsimp only
    rw [RelFst.filterMap_snd hpres, RelFst.map_snd hopts, RelFst.filterMap_snd hposts, hrestSnd]
  have hvalue : Op.Alike c c' value value := by
    dsimp only [value]
    split
    · exact .leaf _ rfl
    · exact .ofPairs (.arraySlice (Op.readLocal _, Op.readLocal _) _ _)
        (Op.Alike.children₁ (Op.Alike.readLocal_self _))
  split
  · exact (Alike.pure .none).bind hafterRest
  · exact (Alike.pure .none).bind hafterRest
  · exact (restSlot_alike _ _).bind_eq fun slot =>
      (Alike.pure (.some ⟨Op.Alike.writeLocal hvalue slot, rfl⟩)).bind hafterRest

theorem keywordBinding_alike (kw : String × Option Node) :
    Alike c c' (Op.Alike c c') (keywordBinding r kw) (keywordBinding r kw) :=
  (Alike.optionMapM hr.expr kw.2).bind fun _ _ hd => frame_alike.bind_eq fun f =>
    (declare_alike f _).bind_eq fun slot => Alike.pure (Op.Alike.writeLocal (keywordArg_alike _ hd) slot)

theorem parameters_alike (params : Params Node) (kind : UnitKind) :
    Alike c c' (RelSnd (List.Forall₂ (Op.Alike c c'))) (parameters r params kind)
      (parameters r params kind) := by
  unfold parameters
  extract_lets required optional arity check afterKeep
  have hcheck : List.Forall₂ (Op.Alike c c') check check := by
    dsimp only [check]
    split
    · exact .nil
    · exact .cons (.leaf _ rfl) .nil
  -- each join point of the rule runs alike on alike parts, from the last one back
  have hafterKeep : ∀ keep keep', List.Forall₂ (Op.Alike c c') keep keep' →
      Alike c c' (RelSnd (List.Forall₂ (Op.Alike c c'))) (afterKeep keep) (afterKeep keep') := by
    intro keep keep' hkeep
    dsimp -zeta only [afterKeep]
    extract_lets afterPositional afterPositional'
    have hafterPositional : ∀ pn pn', RelFst (List.Forall₂ (Op.Alike c c')) pn pn' →
        Alike c c' (RelSnd (List.Forall₂ (Op.Alike c c'))) (afterPositional pn)
          (afterPositional' pn') := by
      rintro ⟨positionals, names⟩ ⟨positionals', _⟩ ⟨hpos, rfl⟩
      dsimp -zeta only [afterPositional, afterPositional']
      refine (Alike.mapM_same (keywordBinding_alike hr) _).bind fun kws kws' hkws => ?_
      extract_lets names₁ afterKeywordRest afterKeywordRest'
      have hafterKeywordRest : ∀ kr kr', RelFst (List.Forall₂ (Op.Alike c c')) kr kr' →
          Alike c c' (RelSnd (List.Forall₂ (Op.Alike c c'))) (afterKeywordRest kr)
            (afterKeywordRest' kr') := by
        rintro ⟨keywordRest, names₂⟩ ⟨keywordRest', _⟩ ⟨hkr, rfl⟩
        dsimp -zeta only [afterKeywordRest, afterKeywordRest']
        extract_lets afterBlock afterBlock'
        have hafterBlock : ∀ bp bp', RelFst (List.Forall₂ (Op.Alike c c')) bp bp' →
            Alike c c' (RelSnd (List.Forall₂ (Op.Alike c c'))) (afterBlock bp) (afterBlock' bp') := by
          rintro ⟨blockParam, names₃⟩ ⟨blockParam', _⟩ ⟨hbp, rfl⟩
          dsimp -zeta only [afterBlock, afterBlock']
          extract_lets finish finish'
          have hfinish : ∀ u, Alike c c' (RelSnd (List.Forall₂ (Op.Alike c c'))) (finish u)
              (finish' u) := fun _ => Alike.pure ⟨rfl, Op.Alike.forall₂_append
                (Op.Alike.forall₂_append (Op.Alike.forall₂_append (Op.Alike.forall₂_append
                  (Op.Alike.forall₂_append hcheck hkeep) hpos) hkws) hkr) hbp⟩
          split
          · exact frame_alike.bind_eq fun _ => (modifyFrame_alike _ _).bind_eq hfinish
          · exact hfinish ()
        split
        · exact frame_alike.bind_eq fun f => (declare_alike f _).bind_eq fun slot =>
            (Alike.pure ⟨.cons (Op.Alike.writeLocal (.leaf _ rfl) slot) .nil, rfl⟩).bind hafterBlock
        · exact (Alike.pure ⟨.nil, rfl⟩).bind hafterBlock
      split
      · exact (restSlot_alike _ _).bind_eq fun slot =>
          (Alike.pure ⟨.cons (Op.Alike.writeLocal (.leaf _ rfl) slot) .nil, rfl⟩).bind
            hafterKeywordRest
      · exact (Alike.pure ⟨.nil, rfl⟩).bind hafterKeywordRest
    split
    · -- a block that spreads an array chooses at run time between the two bindings
      refine (positional_alike hr _ _ _ _).bind fun x x' hx => ?_
      obtain ⟨direct, names⟩ := x
      obtain ⟨direct', _⟩ := x'
      obtain ⟨hdirect, rfl⟩ := hx
      refine (temp_alike _).bind_eq fun array => (positional_alike hr _ _ _ _).bind fun y y' hy => ?_
      obtain ⟨spread, _⟩ := y
      obtain ⟨spread', _⟩ := y'
      have hload : Op.Alike c c' (Op.writeLocal array (Op.ofForm (.splatCast .arrayWithNil true false
          (Op.ofForm (.preArg 0 .nil))))) (Op.writeLocal array (Op.ofForm (.splatCast .arrayWithNil true
          false (Op.ofForm (.preArg 0 .nil))))) :=
        Op.Alike.writeLocal (.ofPairs (.splatCast .arrayWithNil true false (_, _))
          (Op.Alike.children₁ (.leaf _ rfl))) array
      exact (Alike.pure ⟨.cons (Op.Alike.ifElse (.leaf _ rfl) (Op.Alike.sequence (.cons hload hy.1))
        (Op.Alike.sequence hdirect)) .nil, rfl⟩).bind hafterPositional
    · exact (positional_alike hr _ _ _ _).bind hafterPositional
  split
  · exact frame_alike.bind_eq fun f => (declare_alike f _).bind_eq fun slot =>
      (Alike.pure (.cons (Op.Alike.writeLocal (.leaf _ rfl) slot) .nil)).bind hafterKeep
  · exact (Alike.pure .nil).bind hafterKeep

/-! ## Blocks and calls -/

theorem forParameter_alike (var : Node) :
    Alike c c' (RelSnd (List.Forall₂ (Op.Alike c c'))) (forParameter r var) (forParameter r var) :=
  (onEnv_alike _).bind_eq fun name => frame_alike.bind_eq fun f => (declare_alike f name).bind_eq
    fun t => (hr.target var _ _ (Op.Alike.readLocal_self t)).bind fun _ _ ha =>
      Alike.pure ⟨rfl, .cons (Op.Alike.writeLocal (.leaf _ rfl) t) (.cons ha .nil)⟩

theorem block_alike (spec : BlockSpec) (kind : ProcKind) :
    Alike c c' (RelFst (Op.Alike c c')) (block r spec kind) (block r spec kind) := by
  unfold block
  extract_lets isLambda unitKind
  refine modes_alike.bind_eq fun _ => ?_
  extract_lets ownScope
  refine frame_alike.bind_eq fun f => ?_
  extract_lets afterReturn
  have hafterReturn : ∀ ret, Alike c c' (RelFst (Op.Alike c c')) (afterReturn ret) (afterReturn ret) := by
    intro ret
    dsimp -zeta only [afterReturn]
    refine allocBreak_alike.bind_eq fun breakId => (onEnv_alike _).bind_eq fun bf =>
      (modifyFrame_alike _ _).bind_eq fun _ => ?_
    refine (Alike.forIn (fun l _ => (declare_alike bf l).bind_eq fun _ => Alike.pure rfl) _ _).bind_eq
      fun _ => ?_
    extract_lets afterMarker
    have hafterMarker : ∀ marker, Alike c c' (RelFst (Op.Alike c c')) (afterMarker marker)
        (afterMarker marker) := by
      intro marker
      dsimp -zeta only [afterMarker]
      refine Alike.inFrame ?_ bf
      extract_lets afterParams
      have hafterParams : ∀ x x', RelSnd (List.Forall₂ (Op.Alike c c')) x x' →
          Alike c c' (RelFst (Op.Alike c c')) (afterParams x) (afterParams x') := by
        rintro ⟨arity, prelude⟩ ⟨_, prelude'⟩ ⟨rfl, hpre⟩
        dsimp -zeta only [afterParams]
        refine (exprOrNil_alike hr _ _).bind fun body body' hbody => ?_
        have hnext : Op.Alike c c' (Op.ofForm (.catchNext body)) (Op.ofForm (.catchNext body')) :=
          .ofPairs (.catchNext (body, body')) (Op.Alike.children₁ hbody)
        dsimp only
        refine (withPrelude_alike hpre ?_).bind fun b b' hb => (frameData_alike bf).bind_eq fun _ =>
          (unitHead_alike _ _ _ _).bind_eq fun head => (atSpan_alike (.ofPairs
            (.blockDef kind head (b, b') breakId marker) (Op.Alike.children₁ hb)) _).bind
            fun _ _ hd => Alike.pure ⟨hd, rfl⟩
        -- a lambda also catches its own breaks and returns
        split
        · exact .ofPairs (.catchBreak breakId false (_, _)) (Op.Alike.children₁
            (.ofPairs (.catchReturn (ret.getD 0) (_, _)) (Op.Alike.children₁ hnext)))
        · exact hnext
      split
      · exact (forParameter_alike hr _).bind hafterParams
      · exact (parameters_alike hr _ _).bind hafterParams
    split
    · exact (Alike.pure rfl).bind_eq hafterMarker
    · exact currentMarker_alike.bind_eq hafterMarker
  split
  · exact (allocReturn_alike.map fun _ _ h => congrArg some h).bind_eq hafterReturn
  · exact (frameData_alike f).bind_eq fun _ => (Alike.pure rfl).bind_eq hafterReturn

theorem lambda_alike (b : BlockLit Node) : Alike c c' (Op.Alike c c') (lambda r b) (lambda r b) :=
  ((block_alike hr _ _).withMarker _).bind_relFst fun _ _ _ hd => Alike.pure hd

theorem literalBlock_alike (spec : BlockSpec) :
    Alike c c' (RelFst (Option.Rel (Op.Alike c c'))) (literalBlock r spec) (literalBlock r spec) :=
  (temp_alike _).bind_eq fun _ => ((block_alike hr spec .proc).withMarker _).bind_relFst
    fun _ _ _ hd => Alike.pure ⟨.some hd, rfl⟩

theorem blockArg_alike (b : BlockArg) :
    Alike c c' (RelFst (Option.Rel (Op.Alike c c'))) (blockArg r b) (blockArg r b) := by
  unfold blockArg
  split
  · exact Alike.pure ⟨.none, rfl⟩
  · split
    · exact literalBlock_alike hr _
    · exact (hr.expr _).bind fun v v' hv => (atSpan_alike (.ofPairs (.toProc (v, v'))
        (Op.Alike.children₁ hv)) _).bind fun _ _ hp => Alike.pure ⟨.some hp, rfl⟩
    · exact (hr.expr _).bind fun _ _ hv => Alike.pure ⟨.some hv, rfl⟩
  · exact literalBlock_alike hr _

theorem arguments_alike (args : Option Node) (span : Span) :
    Alike c c' (RelFst (List.Forall₂ (Op.Alike c c'))) (arguments r args span) (arguments r args span) := by
  unfold arguments
  split
  · exact Alike.pure ⟨.nil, rfl⟩
  · split
    · exact (exprs_alike hr _).bind fun _ _ h => Alike.pure ⟨h, rfl⟩
    all_goals first
      | exact (hr.expr _).bind fun _ _ h => Alike.pure ⟨.cons (uncopied_alike h) .nil, rfl⟩
      | split
        · exact Alike.fail _ _ _ _
        · exact Alike.throw _

theorem finishCall_alike {receiver receiver' : Op} (hrecv : Op.Alike c c' receiver receiver')
    (name : String) {args args' : List Op} (hargs : List.Forall₂ (Op.Alike c c') args args')
    (splatted : Bool) (block : BlockArg) (flags : CallFlags) (span : Span) :
    Alike c c' (Op.Alike c c') (finishCall r receiver name args splatted block flags span)
      (finishCall r receiver' name args' splatted block flags span) :=
  modes_alike.bind_eq fun _ => (blockArg_alike hr block).bind_relFst fun _ _ literal hv =>
    (atSpan_alike (callForm_alike hrecv hargs hv _ _) span).bind fun _ _ hcall =>
      Alike.pure (wrapLiteralBlock_alike hcall literal)

theorem callNode_alike {receiver receiver' : Op} (hrecv : Op.Alike c c' receiver receiver')
    (name : String) (args : Option Node) (block : BlockArg) (flags : CallFlags) (span : Span) :
    Alike c c' (Op.Alike c c') (callNode r receiver name args block flags span)
      (callNode r receiver' name args block flags span) :=
  (arguments_alike hr args span).bind_relFst fun _ _ _ hargs =>
    finishCall_alike hr hrecv name hargs _ block flags span

theorem argsCat_alike (first second : Node) (span : Span) :
    Alike c c' (Op.Alike c c') (argsCat r first second span) (argsCat r first second span) := by
  unfold argsCat
  split
  refine (hr.expr _).bind fun h h' hh => (Alike.mapM_same (S := Op.Alike c c') (fun n =>
    (hr.expr n).bind fun v v' hv => Alike.pure (.ofPairs (.splatCast .convert false true (v, v'))
      (Op.Alike.children₁ hv))) _).bind fun xs ys hxs => ?_
  obtain ⟨zs, hz1, hz2, hz⟩ := Op.exists_pairs_of_forall₂ (List.Forall₂.cons hh hxs)
  rw [← hz1, ← hz2]
  exact atSpan_alike (.ofPairs (.arrayConcat zs) hz) span

theorem argsPush_alike (first second : Node) (span : Span) :
    Alike c c' (Op.Alike c c') (argsPush r first second span) (argsPush r first second span) :=
  (hr.expr first).bind fun a a' ha => (hr.expr second).bind fun v v' hv => atSpan_alike
    (.ofPairs (.arrayAppend (Op.ofForm (.arrayDup a), Op.ofForm (.arrayDup a')) (v, v'))
      (Op.Alike.children₂ (.ofPairs (.arrayDup (a, a')) (Op.Alike.children₁ ha)) hv)) span

theorem primitive_alike (name : String) (args : Option Node) (span : Span) :
    Alike c c' (Op.Alike c c') (primitive r name args span) (primitive r name args span) := by
  refine source_alike.bind fun i i' hi => ?_
  rw [hi.isCore]
  split
  · exact Alike.fail _ _ _ _
  · refine (arguments_alike hr args span).bind_relFst fun xs ys splatted hxs => ?_
    dsimp only
    split
    · exact Alike.fail _ _ _ _
    · obtain ⟨zs, rfl, rfl, hz⟩ := Op.exists_pairs_of_forall₂ hxs
      exact atSpan_alike (.ofPairs (.primitive name zs) hz) span

theorem internalCall_alike (name : String) (iter : Option Node) (span : Span) :
    Alike c c' (Option.Rel (Op.Alike c c')) (internalCall r name iter span)
      (internalCall r name iter span) := by
  unfold internalCall
  split
  · split
    · exact ((exprOrNil_alike hr _ _).withModes _).bind fun _ _ h => Alike.pure (.some h)
    · exact Alike.fail _ _ _ _
  · split
    · exact (atSpan_alike (.leaf _ rfl) span).bind fun _ _ h => Alike.pure (.some h)
    · split
      · exact (atSpan_alike (.ofPairs (.raiseIfFrozen (Op.selfValue, Op.selfValue))
          (Op.Alike.children₁ Op.Alike.selfValue_self)) span).bind fun _ _ h => Alike.pure (.some h)
      · exact Alike.pure .none

theorem notProvidedTest_alike (args : Option Node) (span : Span) :
    Alike c c' (Op.Alike c c') (notProvidedTest r args span) (notProvidedTest r args span) := by
  unfold notProvidedTest
  split
  · exact (hr.expr _).bind fun v v' hv =>
      atSpan_alike (.ofPairs (.isNotProvided (v, v')) (Op.Alike.children₁ hv)) span
  · exact Alike.fail _ _ _ _

theorem call_alike (receiver : Node) (name : String) (args iter : Option Node) (lazy : Bool)
    (span : Span) :
    Alike c c' (Op.Alike c c') (call r receiver name args iter lazy span)
      (call r receiver name args iter lazy span) := by
  unfold call
  extract_lets frozenLiteral afterExpand
  have hafter : ∀ e e', Option.Rel (Op.Alike c c') e e' →
      Alike c c' (Op.Alike c c') (afterExpand e) (afterExpand e') := by
    intro e e' he
    dsimp -zeta only [afterExpand]
    cases he with
    | none => exact (hr.expr receiver).bind fun _ _ h => callNode_alike hr h _ _ _ _ _
    | some h => exact Alike.pure h
  clear_value frozenLiteral
  cases frozenLiteral with
  | some value =>
    exact atSpan_alike (.ofPairs (.definedAs .method (_, _)) (Op.Alike.children₁
      (Op.Alike.object_self _))) span
  | none =>
    dsimp only
    split
    · split
      · exact ((primitive_alike hr name args span).map fun _ _ h => Option.Rel.some h).bind hafter
      · split
        · exact (internalCall_alike hr name iter span).bind hafter
        · exact (Alike.pure .none).bind hafter
    · refine source_alike.bind fun i i' hi => ?_
      rw [hi.isCore]
      split
      · exact ((notProvidedTest_alike hr args span).map fun _ _ h => Option.Rel.some h).bind hafter
      · exact (Alike.pure .none).bind hafter
    · exact (Alike.pure .none).bind hafter

theorem fcall_alike (name : String) (args iter : Option Node) (span : Span) :
    Alike c c' (Op.Alike c c') (fcall r name args iter span) (fcall r name args iter span) :=
  callNode_alike hr Op.Alike.selfValue_self _ _ _ _ _

theorem attrAssign_alike (receiver : Node) (name : String) (args : Option Node) (lazy : Bool)
    (span : Span) :
    Alike c c' (Op.Alike c c') (attrAssign r receiver name args lazy span)
      (attrAssign r receiver name args lazy span) :=
  (hr.expr receiver).bind fun _ _ h => callNode_alike hr h _ _ _ _ _

theorem superCall_alike (args iter : Option Node) (span : Span) :
    Alike c c' (Op.Alike c c') (superCall r args iter span) (superCall r args iter span) :=
  (arguments_alike hr args span).bind_relFst fun _ _ _ hargs => (blockArg_alike hr _).bind_relFst
    fun _ _ literal hb => (atSpan_alike (superForm_alike hargs hb _ _) span).bind fun _ _ h =>
      Alike.pure (wrapLiteralBlock_alike h literal)

theorem postExe_alike (body : Option Node) (span : Span) :
    Alike c c' (Op.Alike c c') (postExe r body span) (postExe r body span) :=
  finishCall_alike hr (Op.Alike.object_self _) _ (.cons (Op.Alike.boolean_self true) .nil) _ _ _ _

end Rules

theorem methodBlockRead_alike :
    Alike c c' (Option.Rel (Op.Alike c c')) methodBlockRead methodBlockRead :=
  frame_alike.bind_eq fun f => (resolve_alike f _).bind_eq fun found => Alike.pure (by
    cases found with
    | none => exact .none
    | some slot => exact .some (Op.Alike.readLocal_self slot))

theorem readParam_alike (name : String) : Alike c c' (Op.Alike c c') (readParam name) (readParam name) :=
  (resolveOrDeclare_alike name).bind_eq fun slot => Alike.pure (Op.Alike.readLocal_self slot)

theorem forwardedKeywords_alike (ps : MethodParams) :
    Alike c c' (Option.Rel (Op.Alike c c')) (forwardedKeywords ps) (forwardedKeywords ps) := by
  unfold forwardedKeywords
  split
  · exact Alike.pure .none
  · refine (Alike.mapM_same (S := fun x y => Op.Alike c c' x.1 y.1 ∧ Op.Alike c c' x.2 y.2)
      (fun n => (readParam_alike n).bind fun _ _ h => Alike.pure ⟨Op.Alike.symbol_self n, h⟩) _).bind
      fun pairs pairs' hpairs => ?_
    have hh := hashLit_alike hpairs
    dsimp only
    split
    · exact (readParam_alike _).bind fun _ _ h => Alike.pure (.some (.ofPairs
        (.concatHash [(_, _), (Op.ofForm (.hashCast _), Op.ofForm (.hashCast _))])
        (Op.Alike.children₂ hh (.ofPairs (.hashCast (_, _)) (Op.Alike.children₁ h)))))
    · exact Alike.pure (.some hh)







section Rules

variable {r : Recur} (hr : r.Alike c c')
include hr

theorem zsuper_alike (iter : Option Node) (span : Span) :
    Alike c c' (Op.Alike c c') (zsuper r iter span) (zsuper r iter span) := by
  unfold zsuper
  refine env_alike.bind_eq fun _ => frame_alike.bind_eq fun _ => ?_
  extract_lets m afterArgs
  refine (frameData_alike _).bind_eq fun _ => ?_
  extract_lets ps
  have hafterArgs : ∀ x x', RelFst (List.Forall₂ (Op.Alike c c')) x x' →
      Alike c c' (Op.Alike c c') (afterArgs x) (afterArgs x') := by
    rintro ⟨arguments, splatted⟩ ⟨arguments', _⟩ ⟨hargs, rfl⟩
    dsimp -zeta only [afterArgs]
    extract_lets afterBlock afterBlock'
    have hafterBlock : ∀ y y', RelFst (Option.Rel (Op.Alike c c')) y y' →
        Alike c c' (Op.Alike c c') (afterBlock y) (afterBlock' y') := by
      rintro ⟨value, literal⟩ ⟨value', _⟩ ⟨hb, rfl⟩
      dsimp -zeta only [afterBlock, afterBlock']
      exact (atSpan_alike (superForm_alike hargs hb _ _) span).bind fun _ _ h =>
        Alike.pure (wrapLiteralBlock_alike h literal)
    split
    · exact (blockArg_alike hr _).bind hafterBlock
    · exact methodBlockRead_alike.bind fun _ _ h => (Alike.pure ⟨h, rfl⟩).bind hafterBlock
  refine (Alike.mapM_same readParam_alike _).bind fun leading leading' hleading =>
    (Alike.mapM_same readParam_alike _).bind fun post post' hpost =>
      (forwardedKeywords_alike ps).bind fun keywords keywords' hkeywords => ?_
  split
  · -- with a rest parameter, one array of the parameters spread into the call
    refine (readParam_alike _).bind fun restOp restOp' hrest => (Alike.pure ⟨.cons ?_ .nil, rfl⟩).bind
      hafterArgs
    have hkw : List.Forall₂ (Op.Alike c c') ((keywords.map fun k => Op.ofForm (.arrayLit [k])).toList)
        ((keywords'.map fun k => Op.ofForm (.arrayLit [k])).toList) := by
      cases hkeywords with
      | none => exact .nil
      | some h => exact .cons (arrayLit_alike (.cons h .nil)) .nil
    have hpostPart : List.Forall₂ (Op.Alike c c')
        (if post.isEmpty then [] else [Op.ofForm (.arrayLit post)])
        (if post'.isEmpty then [] else [Op.ofForm (.arrayLit post')]) := by
      rw [← isEmpty_eq_of_forall₂ hpost]
      split
      · exact .nil
      · exact .cons (arrayLit_alike hpost) .nil
    have hsplat : Op.Alike c c' (Op.ofForm (.splatCast .convert false false restOp))
        (Op.ofForm (.splatCast .convert false false restOp')) :=
      .ofPairs (.splatCast .convert false false (restOp, restOp')) (Op.Alike.children₁ hrest)
    have hparts := Op.Alike.forall₂_append (Op.Alike.forall₂_append
      (.cons (arrayLit_alike hleading) (.cons hsplat .nil)) hpostPart) hkw
    obtain ⟨zs, hz1, hz2, hz⟩ := Op.exists_pairs_of_forall₂ hparts
    rw [← hz1, ← hz2]
    exact .ofPairs (.arrayConcat zs) hz
  · exact (Alike.pure ⟨Op.Alike.forall₂_append (Op.Alike.forall₂_append hleading hpost)
      (forall₂_toList hkeywords), rfl⟩).bind hafterArgs

theorem yieldCall_alike (args : Option Node) (span : Span) :
    Alike c c' (Op.Alike c c') (yieldCall r args span) (yieldCall r args span) := by
  unfold yieldCall
  extract_lets afterArgs
  have hafterArgs : ∀ x x', RelFst (List.Forall₂ (Op.Alike c c')) x x' →
      Alike c c' (Op.Alike c c') (afterArgs x) (afterArgs x') := by
    rintro ⟨arguments, splatted⟩ ⟨arguments', _⟩ ⟨hargs, rfl⟩
    dsimp -zeta only [afterArgs]
    refine methodBlockRead_alike.bind fun b b' hb => ?_
    have hblk : Op.Alike c c' (b.getD Op.nil) (b'.getD Op.nil) := by
      cases hb with
      | none => exact Op.Alike.refl_nil
      | some h => exact h
    obtain ⟨zs, rfl, rfl, hz⟩ := Op.exists_pairs_of_forall₂ hargs
    exact atSpan_alike (.ofPairs (.yieldCall zs splatted (_, _))
      (List.forall_mem_append.2 ⟨hz, Op.Alike.children₁ hblk⟩)) span
  have hlist := (arguments_alike hr args span).bind hafterArgs
  split
  · split
    all_goals first
      | exact hlist
      | exact (hr.expr _).bind fun _ _ h => (Alike.pure ⟨.cons h .nil, rfl⟩).bind hafterArgs
  · exact hlist

/-! ## Assignments -/

theorem localAssignment_alike (name : String) (value : Option Node) (span : Span) :
    Alike c c' (Op.Alike c c') (localAssignment r name value span) (localAssignment r name value span) :=
  (assignmentSlot_alike name).bind_eq fun slot => (valueOrDead_alike hr value _).bind fun _ _ hv =>
    atSpan_alike (Op.Alike.writeLocal hv slot) span

theorem assignAttribute_alike (receiver : Node) (name : String) (args : Option Node) (lazy : Bool)
    {value value' : Op} (hv : Op.Alike c c' value value') (span : Span) :
    Alike c c' (Op.Alike c c') (assignAttribute r receiver name args lazy value span)
      (assignAttribute r receiver name args lazy value' span) := by
  refine (hr.expr receiver).bind fun recv recv' hrecv => ?_
  extract_lets afterArgs afterArgs'
  have hafterArgs : ∀ x x', RelFst (List.Forall₂ (Op.Alike c c')) x x' →
      Alike c c' (Op.Alike c c') (afterArgs x) (afterArgs' x') := by
    rintro ⟨arguments, splatted⟩ ⟨arguments', _⟩ ⟨hargs, rfl⟩
    exact finishCall_alike hr hrecv name hargs _ _ _ _
  split
  · exact (Alike.pure ⟨.cons hv .nil, rfl⟩).bind hafterArgs
  · split
    · exact (exprs_alike hr _).bind fun _ _ hxs =>
        (Alike.pure ⟨Op.Alike.forall₂_append hxs (.cons hv .nil), rfl⟩).bind hafterArgs
    all_goals first
      | exact (hr.expr _).bind fun l l' hl => (Alike.pure ⟨.cons (.ofPairs (.arrayAppend
          (Op.ofForm (.arrayDup l), Op.ofForm (.arrayDup l')) (value, value'))
          (Op.Alike.children₂ (.ofPairs (.arrayDup (l, l')) (Op.Alike.children₁ hl)) hv)) .nil,
          rfl⟩).bind hafterArgs
      | exact (Alike.fail _ _ _ _).bind hafterArgs

theorem masgnParallel_alike (pre : List Node) {rhs rhs' : Op} (h : Op.Alike c c' rhs rhs') :
    Alike c c' (Op.Alike c c') (masgnParallel r pre rhs) (masgnParallel r pre rhs') := by
  unfold masgnParallel
  split
  · next values heq =>
    obtain ⟨values', hb, hvalues⟩ := h.arrayLit_form heq
    rw [hb]
    dsimp only
    have htemps : Alike c c' (List.Forall₂ (RelSnd (Op.Alike c c')))
        (values.mapM fun v => do let l ← temp "multi"; pure (l, v))
        (values'.mapM fun v => do let l ← temp "multi"; pure (l, v)) :=
      Alike.mapM (fun v v' hv => (temp_alike _).bind_eq fun s => Alike.pure ⟨rfl, hv⟩) hvalues
    refine htemps.bind fun temps temps' htemps => ?_
    refine (Alike.mapM (S := Op.Alike c c') ?_ (forall₂_zip_left pre htemps)).bind
      fun assigns assigns' hassigns => ?_
    · rintro ⟨t, s, v⟩ ⟨t', s', v'⟩ ⟨ht, hs, _⟩
      dsimp only at ht hs
      subst ht hs
      exact hr.target t _ _ (Op.Alike.readLocal_self s)
    obtain ⟨hreads, hwrites⟩ := forall₂_temps htemps
    exact Alike.pure (.ofPairs (.elidable (_, _) (_, _)) (Op.Alike.children₂
      (Op.Alike.sequence (Op.Alike.forall₂_append hwrites hassigns)) (arrayLit_alike hreads)))
  · next hne =>
    split
    · next values' heq =>
      obtain ⟨values, ha, _⟩ := h.symm.arrayLit_form heq
      exact absurd ha (hne values)
    · exact Alike.pure h

theorem masgnIndexed_alike (pre : List Node) (rest : Option Node) (post : List Node)
    {rhs rhs' : Op} (h : Op.Alike c c' rhs rhs') (useToAry : Bool) :
    Alike c c' (Op.Alike c c') (masgnIndexed r pre rest post rhs useToAry)
      (masgnIndexed r pre rest post rhs' useToAry) := by
  refine (temp_alike _).bind_eq fun rhsTemp => (temp_alike _).bind_eq fun arrayTemp =>
    masgnNil_alike.bind_eq fun nilAs => ?_
  extract_lets load preCount postCount
  have hload : Op.Alike c c' load load :=
    Op.Alike.writeLocal (.ofPairs (.splatCast nilAs useToAry false (_, _))
      (Op.Alike.children₁ (Op.Alike.readLocal_self rhsTemp))) arrayTemp
  refine (Alike.mapM_same (S := Op.Alike c c') (fun x => ?_) _).bind fun leading leading' hleading => ?_
  · obtain ⟨n, t⟩ := x
    exact hr.target t _ _ (arrayIndex_alike _ _)
  extract_lets afterMiddle afterMiddle'
  have hafterMiddle : ∀ middle middle', List.Forall₂ (Op.Alike c c') middle middle' →
      Alike c c' (Op.Alike c c') (afterMiddle middle) (afterMiddle' middle') := by
    intro middle middle' hmiddle
    dsimp -zeta only [afterMiddle, afterMiddle']
    refine (Alike.mapM_same (S := Op.Alike c c') (fun x => ?_) _).bind
      fun trailing trailing' htrailing => ?_
    · obtain ⟨n, t⟩ := x
      exact hr.target t _ _ (Op.Alike.ifElse (.ofPairs (.arraySizeAtLeast (_, _) _)
        (Op.Alike.children₁ (Op.Alike.readLocal_self arrayTemp))) (arrayIndex_alike _ _)
        (arrayIndex_alike _ _))
    exact Alike.pure (.ofPairs (.elidable (_, _) (_, _)) (Op.Alike.children₂
      (Op.Alike.sequence (Op.Alike.forall₂_append (Op.Alike.forall₂_append (Op.Alike.forall₂_append
        (.cons (Op.Alike.writeLocal h rhsTemp) (.cons hload .nil)) hleading) hmiddle) htrailing))
      (Op.Alike.readLocal_self rhsTemp)))
  split
  · exact (hr.target _ _ _ (.ofPairs (.arraySlice (_, _) _ _)
      (Op.Alike.children₁ (Op.Alike.readLocal_self arrayTemp)))).bind fun _ _ hm =>
      (Alike.pure (.cons hm .nil)).bind hafterMiddle
  · exact (Alike.pure .nil).bind hafterMiddle

theorem masgnRestOnly_alike (rest : Node) {rhs rhs' : Op} (h : Op.Alike c c' rhs rhs') :
    Alike c c' (Op.Alike c c') (masgnRestOnly r rest rhs) (masgnRestOnly r rest rhs') := by
  rw [masgnRestOnly_eq, masgnRestOnly_eq]
  refine masgnNil_alike.bind_eq fun dflt => ?_
  obtain ⟨hx, hn⟩ := splatSource_alike h dflt
  generalize splatSource rhs dflt = src at hx hn ⊢
  generalize splatSource rhs' dflt = src' at hx hn ⊢
  obtain ⟨x, nilAs⟩ := src
  obtain ⟨x', _⟩ := src'
  obtain rfl : nilAs = _ := hn
  exact (temp_alike _).bind_eq fun rhsTemp => (temp_alike _).bind_eq fun splatTemp =>
    (hr.target _ _ _ (Op.Alike.readLocal_self splatTemp)).bind fun _ _ ha =>
      Alike.pure (.ofPairs (.elidable (_, _) (_, _)) (Op.Alike.children₂ (Op.Alike.sequence
        (.cons (Op.Alike.writeLocal hx rhsTemp) (.cons (Op.Alike.writeLocal (.ofPairs
          (.splatCast nilAs true false (_, _)) (Op.Alike.children₁ (Op.Alike.readLocal_self rhsTemp)))
          splatTemp) (.cons ha .nil))))
        (Op.Alike.ite _ (Op.Alike.readLocal_self _) (Op.Alike.readLocal_self _))))

theorem masgn_alike (m : MultiAsgn Node) {rhs rhs' : Op} (h : Op.Alike c c' rhs rhs')
    (rhsIsList : Bool) :
    Alike c c' (Op.Alike c c') (masgn r m rhs rhsIsList) (masgn r m rhs' rhsIsList) := by
  unfold masgn
  extract_lets sameArity afterResult sameArity'
  have hsame : sameArity = sameArity' := by
    simp only [sameArity, sameArity']
    congr 1
    exact arrayLitLength_eq h _
  have hafterResult : ∀ x x', Op.Alike c c' x x' →
      Alike c c' (Op.Alike c c') (afterResult x) (afterResult x') :=
    fun _ _ hx => atSpan_alike (asAssignment_alike hx) _
  rw [← hsame]
  split
  · exact (masgnParallel_alike hr _ h).bind hafterResult
  · split
    · exact (masgnIndexed_alike hr _ _ _ h _).bind hafterResult
    · split
      · split
        · split
          · exact (Alike.pure h).bind hafterResult
          · split
            · exact (hr.target _ _ _ h).bind hafterResult
            · exact (masgnRestOnly_alike hr _ h).bind hafterResult
        · exact (Alike.fail _ _ _ _).bind hafterResult
      · split
        · exact (masgnIndexed_alike hr _ _ _ h _).bind hafterResult
        · exact (Alike.fail _ _ _ _).bind hafterResult

theorem multipleAssignment_alike (m : MultiAsgn Node) :
    Alike c c' (Op.Alike c c') (multipleAssignment r m) (multipleAssignment r m) := by
  unfold multipleAssignment
  split
  · exact Alike.fail _ _ _ _
  · exact (hr.expr _).bind fun _ _ h => masgn_alike hr _ h _

theorem target_alike (t : Node) {value value' : Op} (hv : Op.Alike c c' value value') :
    Alike c c' (Op.Alike c c') (target r t value) (target r t value') := by
  unfold target
  split
  · exact (assignmentSlot_alike _).bind_eq fun slot => atSpan_alike (Op.Alike.writeLocal hv slot) _
  · exact (assignmentSlot_alike _).bind_eq fun slot => atSpan_alike (Op.Alike.writeLocal hv slot) _
  · exact frame_alike.bind_eq fun f => (declare_alike f _).bind_eq fun slot =>
      atSpan_alike (Op.Alike.writeLocal hv slot) _
  · exact atSpan_alike (.ofPairs (.writeIvar _ (_, _)) (Op.Alike.children₁ hv)) _
  · exact classVarScope_alike.bind fun _ _ hs =>
      atSpan_alike (.ofPairs (.writeCvar (_, _) _ (_, _)) (Op.Alike.children₂ hs hv)) _
  · exact atSpan_alike (.ofPairs (.writeGlobal _ (_, _)) (Op.Alike.children₁ hv)) _
  · exact (constPathModule_alike hr _).bind fun _ _ hm =>
      atSpan_alike (.ofPairs (.writeConst (_, _) _ (_, _)) (Op.Alike.children₂ hm hv)) _
  · exact assignAttribute_alike hr _ _ _ _ hv _
  · exact masgn_alike hr _ hv _
  · exact hr.target _ _ _ hv
  · exact Alike.pure hv
  · exact Alike.fail _ _ _ _

theorem opAsgnAnd_alike (first second : Node) (span : Span) :
    Alike c c' (Op.Alike c c') (opAsgnAnd r first second span) (opAsgnAnd r first second span) :=
  (hr.expr first).bind fun _ _ ha => (hr.expr second).bind fun _ _ hb =>
    atSpan_alike (asAssignment_alike (.ofPairs (.and (_, _) (_, _)) (Op.Alike.children₂ ha hb))) span

theorem opAsgnOr_alike (first second : Node) (span : Span) :
    Alike c c' (Op.Alike c c') (opAsgnOr r first second span) (opAsgnOr r first second span) := by
  refine (hr.expr first).bind fun _ _ ha => (hr.expr second).bind fun _ _ hb => ?_
  dsimp only
  exact atSpan_alike (asAssignment_alike (.ofPairs (.or (_, _) (_, _))
    (Op.Alike.children₂ (Op.Alike.ite _ (guardDefined_alike ha) ha) hb))) span

theorem opAsgnConstDecl_alike (first : Node) (operator : String) (second : Node) (span : Span) :
    Alike c c' (Op.Alike c c') (opAsgnConstDecl r first operator second span)
      (opAsgnConstDecl r first operator second span) := by
  refine (hr.expr _).bind fun left left' hl => (hr.expr _).bind fun v v' hv => ?_
  split
  · exact (constantWrite_alike hl hv span).bind fun _ _ hw =>
      atSpan_alike (asAssignment_alike (.ofPairs (.and (_, _) (_, _)) (Op.Alike.children₂ hl hw))) span
  · split
    · exact (constantWrite_alike hl hv span).bind fun _ _ hw => atSpan_alike (asAssignment_alike
        (.ofPairs (.or (_, _) (_, _)) (Op.Alike.children₂ (guardDefined_alike hl) hw))) span
    · exact (constantWrite_alike hl (Op.Alike.call hl (.cons hv .nil) _ _) span).bind
        fun _ _ hw => atSpan_alike hw span

theorem opAsgn_alike (receiver : Node) (attr operator : String) (value : Node) (lazy : Bool)
    (span : Span) :
    Alike c c' (Op.Alike c c') (opAsgn r receiver attr operator value lazy span)
      (opAsgn r receiver attr operator value lazy span) := by
  refine (hr.expr receiver).bind fun recv recv' hrecv => (hr.expr value).bind fun v v' hv =>
    (temp_alike _).bind_eq fun t => ?_
  extract_lets setterName getter body lazyBody body' lazyBody'
  have hgetter : Op.Alike c c' getter getter := Op.Alike.call (Op.Alike.readLocal_self t) .nil _ _
  have hbody : Op.Alike c c' body body' := by
    dsimp only [body, body']
    exact Op.Alike.ite _ (asAssignment_alike (logical_alike _ hgetter
      (Op.Alike.call (Op.Alike.readLocal_self t) (.cons hv .nil) _ _)))
      (Op.Alike.call (Op.Alike.readLocal_self t) (.cons (Op.Alike.call hgetter (.cons hv .nil) _ _) .nil)
        _ _)
  -- with safe navigation nothing happens when the receiver is nil
  have hlazy : Op.Alike c c' lazyBody lazyBody' := by
    dsimp only [lazyBody, lazyBody']
    exact Op.Alike.ite _ (.ofPairs (.ifThen (_, _) (_, _)) (Op.Alike.children₂ (Op.Alike.not
      (.ofPairs (.isNil (_, _)) (Op.Alike.children₁ (Op.Alike.readLocal_self t)))) hbody)) hbody
  exact Alike.pure ((Op.Alike.sequence (.cons (Op.Alike.writeLocal hrecv t) (.cons hlazy .nil))).ensureSpan
    span)

theorem opElementAsgn_alike (receiver : Node) (args : Option Node) (operator : String)
    (value : Node) (span : Span) :
    Alike c c' (Op.Alike c c') (opElementAsgn r receiver args operator value span)
      (opElementAsgn r receiver args operator value span) := by
  refine (hr.expr receiver).bind fun recv recv' hrecv => (temp_alike _).bind_eq fun recvTemp =>
    (arguments_alike hr args span).bind_relFst fun ivs ivs' splatted hivs => ?_
  have htemps : Alike c c' (List.Forall₂ (RelSnd (Op.Alike c c')))
      (ivs.mapM fun iv => do let l ← temp "index"; pure (l, iv))
      (ivs'.mapM fun iv => do let l ← temp "index"; pure (l, iv)) :=
    Alike.mapM (fun v v' hv => (temp_alike _).bind_eq fun s => Alike.pure ⟨rfl, hv⟩) hivs
  refine htemps.bind fun temps temps' htemps => (hr.expr value).bind fun v v' hv => ?_
  obtain ⟨hreads, hwrites⟩ := forall₂_temps htemps
  dsimp only
  have hgetter := Op.Alike.call (Op.Alike.readLocal_self recvTemp) hreads "[]" { splatted }
  exact Alike.pure ((Op.Alike.sequence (Op.Alike.forall₂_append (Op.Alike.forall₂_append
    (.cons (Op.Alike.writeLocal hrecv recvTemp) .nil) hwrites) (.cons (Op.Alike.ite _
      (asAssignment_alike (logical_alike _ hgetter (Op.Alike.call (Op.Alike.readLocal_self _)
        (setterArgs_alike hreads hv splatted) _ _)))
      (Op.Alike.call (Op.Alike.readLocal_self _)
        (setterArgs_alike hreads (Op.Alike.call hgetter (.cons hv .nil) _ _) splatted) _ _)) .nil))).ensureSpan
    span)

end Rules

end Lower

end RubyLower
