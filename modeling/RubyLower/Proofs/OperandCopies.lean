import RubyLower.Proofs.SuperArgs

/-!
# How often an operator assignment uses its operands

`recv.attr op= value`, `recv[index] op= value` and `Scope::Name op= value` lower each operand
once, with the recursion, and build the assignment around the results. To see where each result
lands, lower with `Recur.tagging`: it stands every operand for a tag, an integer node holding the
operand's start offset, and lowers `e::Name` to the read of the constant in the tag of `e`, as a
constant read is lowered. The tags of an output (`Op.tags`, in pre-order) are then the places the
operands went to.

The attribute and element forms write the receiver and each index into a temporary and read the
temporaries back for the getter and the setter: each operand's tags occur once, in the order the
operands are evaluated (`Lower.opAsgn_tags`, `Lower.opElementAsgn_tags`). The constant form hands
the lowered constant read to both the read and the write, so the scope `e` of `e::Name` occurs
twice, three times for `||=`, which also asks `defined?` of it (`Lower.opAsgnConstDecl_tags`).
`Node.operandUses` lists the operands of each form as often as its lowering uses them, and
`Lower.operatorAssignment_operandTags` says that the lowering of the node holds exactly their
tags. A scope that calls a method, as in `foo::B += 1`, calls it twice
(`compileUnit_opAsgnConstDecl_callsScopeTwice`).
-/

namespace RubyLower

namespace Op

/-- The tag of an integer node. -/
def tag (o : Op) : Option Int :=
  match o.form with
  | .integer k => some k
  | _ => none

/-- The name a call node calls. -/
def calledName (o : Op) : Option String :=
  match o.form with
  | .call _ name _ _ _ => some name
  | _ => none

/-- The tags of a tree, in pre-order. -/
def tags (o : Op) : List Int :=
  o.nodes.filterMap tag

theorem nodes_mk_eq (f : Form Op) (sp : Option Span) (fl : OpFlags) :
    (Op.mk f sp fl).nodes = Op.mk f sp fl :: f.children.flatMap nodes := by
  rw [nodes, List.flatMap_subtype fun _ _ => rfl, List.unattach_attach]

@[simp] theorem tags_mk (f : Form Op) (sp : Option Span) (fl : OpFlags) :
    (Op.mk f sp fl).tags = (Op.mk f sp fl).tag.toList ++ f.children.flatMap tags := by
  rw [tags, nodes_mk_eq, List.filterMap_cons, List.filterMap_flatMap]
  cases (Op.mk f sp fl).tag <;> rfl

@[simp] theorem tags_withSpan (o : Op) (s : Span) : (o.withSpan s).tags = o.tags := by
  cases o
  simp only [withSpan, form, flags, tags_mk, tag]

@[simp] theorem tags_markNewline (o : Op) : o.markNewline.tags = o.tags := by
  cases o
  simp only [markNewline, form, tags_mk, tag]

@[simp] theorem tags_markCoverage (o : Op) : o.markCoverage.tags = o.tags := by
  cases o
  simp only [markCoverage, form, tags_mk, tag]

@[simp] theorem tags_ensureSpan (o : Op) (s : Span) : (o.ensureSpan s).tags = o.tags := by
  unfold ensureSpan
  split
  · rfl
  · exact tags_withSpan o s

@[simp] theorem tags_readLocal (slot : Slot) : (Op.readLocal slot).tags = [] := by
  simp only [readLocal, ofForm, tags_mk, tag, form, Form.children, Option.toList_none,
    List.flatMap_nil, List.append_nil]

@[simp] theorem tags_writeLocal (slot : Slot) (v : Op) : (Op.writeLocal slot v).tags = v.tags := by
  simp only [writeLocal, ofForm, tags_mk, tag, form, Form.children, Option.toList_none,
    List.flatMap_cons, List.flatMap_nil, List.append_nil, List.nil_append]

@[simp] theorem tags_call (recv : Op) (name : String) (args : List Op) (fl : CallFlags) :
    (Op.call recv name args fl).tags = recv.tags ++ args.flatMap tags := by
  simp only [call, ofForm, tags_mk, tag, form, Form.children, List.flatMap_cons, List.nil_append,
    Option.toList, List.append_nil]

/-- A sequence carries the tags of the items it keeps. -/
theorem tags_sequence (os : List Op) :
    (Op.sequence os).tags = (dropIdle (splice os)).flatMap tags := by
  unfold sequence
  split
  · next h =>
    simp only [h, Op.nil, ofForm, tags_mk, tag, form, Form.children, List.flatMap_nil,
      Option.toList_none, List.append_nil]
  · next o h => rw [h, List.flatMap_singleton]
  · simp only [ofForm, tags_mk, tag, form, Form.children, Option.toList_none, List.nil_append]

/-- A sequence of items that are neither spliced nor dropped carries all their tags. -/
theorem tags_sequence_of_kept {os : List Op}
    (h : ∀ o ∈ os, o.spliceable = none ∧ o.isDroppable = false) :
    (Op.sequence os).tags = os.flatMap tags := by
  rw [tags_sequence, splice_of_forall fun o ho => (h o ho).1,
    dropIdle_of_kept fun o ho => (h o ho).2]

/-- Items that carry no tags, and are no sequences to splice, leave none in their sequence. -/
theorem tags_sequence_of_untagged {os : List Op}
    (h : ∀ o ∈ os, o.spliceable = none ∧ o.tags = []) : (Op.sequence os).tags = [] := by
  rw [tags_sequence, splice_of_forall fun o ho => (h o ho).1, List.flatMap_eq_nil_iff]
  exact fun o ho => (h o (mem_of_mem_dropIdle ho)).2

end Op

namespace Node

/-- An operand stood for by its tag. A constant read is lowered as one: `e::Name` to the read in
the tag of `e`, `::Name` to the read in `Object`, and `Name` to a read with no operand. -/
def tagged (n : Node) : Op :=
  match n.kind with
  | .colon2 left name => Op.ofForm (.readConst (Op.ofForm (.integer left.span.start)) name)
  | .const name => Op.ofForm (.readConstDynamic name)
  | .colon3 name => Op.ofForm (.readConst (Op.object .objectClass) name)
  | _ => Op.ofForm (.integer n.span.start)

/-- The index operands of `recv[args] op= value`: the items of a list, or one spread argument. -/
def indexOperands : Option Node → List Node
  | none => []
  | some a =>
    match a.kind with
    | .array els => els
    | _ => [a]

/-- The value of `A::B op= value`, unwrapped from the constant declaration the parser may give. -/
def constOpValue (second : Node) : Node :=
  match second.kind with
  | .constDecl _ (some v) => v
  | _ => second

/-- The operands of an operator assignment, each as often as its lowering uses it: the receiver,
the indices and the value once; the target of a constant form, whose tag is that of its scope,
twice, three times for `||=`. -/
def operandUses (n : Node) : Option (List Node) :=
  match n.kind with
  | .opAsgn receiver _ _ value _ => some [receiver, value]
  | .opElementAsgn receiver args _ value => some (receiver :: indexOperands args ++ [value])
  | .opAsgnConstDecl first operator second =>
    some (List.replicate (if operator == "||" then 3 else 2) first ++ [constOpValue second])
  | _ => none

end Node

/-- The recursion that stands every operand for its tag. -/
def Recur.tagging : Recur where
  expr n := pure n.tagged
  target _ v := pure v

namespace Lower

section Tags

variable {p : Place} {s : Progress}

theorem tags_logical (operator : String) (l r : Op) :
    (logical operator l r).tags = l.tags ++ r.tags := by
  unfold logical
  split <;> simp [Op.ofForm, Op.tag, Op.form, Form.children]

theorem tags_asAssignment (o : Op) : (asAssignment o).tags = o.tags := by
  simp [asAssignment, Op.ofForm, Op.tag, Op.form, Form.children]

theorem tags_guardDefined (o : Op) : (guardDefined o).tags = o.tags ++ o.tags := by
  simp [guardDefined, Op.ofForm, Op.tag, Op.form, Form.children]

/-- The receiver goes to a temporary, which the getter and the setter read: the output holds
the receiver's tags, then the value's, once each. -/
theorem opAsgn_tags (receiver : Node) (attr operator : String) (value : Node) (lazy : Bool)
    (span : Span) :
    (opAsgn Recur.tagging receiver attr operator value lazy span).Post p s fun o _ =>
      o.tags = receiver.tagged.tags ++ value.tagged.tags := by
  unfold opAsgn
  extract_lets flags
  refine Post.bind_read (Post.pure ⟨rfl, rfl⟩) (Post.bind_read (Post.pure ⟨rfl, rfl⟩) ?_)
  refine (Post.true _).bind fun t _ _ => Post.pure ?_
  rw [Op.tags_ensureSpan, Op.tags_sequence_of_kept]
  · split_ifs <;> simp [tags_asAssignment, tags_logical, Op.not, Op.ofForm, Op.tag, Op.form,
      Form.children]
  · simp only [List.mem_cons, List.not_mem_nil, or_false, forall_eq_or_imp, forall_eq]
    split_ifs <;> simp [Op.call, Op.readLocal, Op.writeLocal, Op.ofForm, Op.not, asAssignment,
      logical, Op.spliceable, Op.isDroppable, Op.form, Op.flags]

theorem exprs_tagging (ns : List Node) : exprs Recur.tagging ns = pure (ns.map Node.tagged) :=
  List.mapM_pure

theorem uncopied_tagged (n : Node) : uncopied n.tagged = n.tagged := by
  unfold Node.tagged
  split <;> rfl

/-- The index values are the index operands, each stood for by its tag. -/
theorem arguments_tagging (args : Option Node) (span : Span) :
    (arguments Recur.tagging args span).Post p s fun res _ =>
      res.1 = (Node.indexOperands args).map Node.tagged := by
  unfold arguments
  split
  · exact Post.pure rfl
  · next a =>
    split
    · next els hels =>
      rw [exprs_tagging]
      exact Post.bind_read (Post.pure ⟨rfl, rfl⟩) (Post.pure (by simp [Node.indexOperands, hels]))
    -- a spread argument is one operand
    case h_2 | h_3 | h_4 =>
      exact Post.bind_read (Post.pure ⟨rfl, rfl⟩)
        (Post.pure (by simp [Node.indexOperands, *, uncopied_tagged]))
    case h_5 =>
      split
      · exact Post.fail
      · exact Post.throw

/-- Giving each value a temporary keeps the values, in order. -/
theorem mapM_temp_post (pfx : String) :
    ∀ (vs : List Op) (s : Progress),
      (vs.mapM fun iv => do return (← temp pfx, iv)).Post p s fun ts _ => ts.map Prod.snd = vs
  | [], _ => Post.pure rfl
  | v :: vs, s => by
    rw [List.mapM_cons]
    refine ((Post.true _).bind fun t _ _ => Post.pure (Q := fun (tv : Slot × Op) _ => tv.2 = v) rfl).bind
      fun tv s1 htv => ?_
    refine (mapM_temp_post pfx vs s1).bind fun ts _ hts => Post.pure ?_
    simp only [List.map_cons, hts, htv]

/-- The receiver and each index go to temporaries, which the getter and the setter read: the
output holds the receiver's tags, the indices', then the value's, once each. -/
theorem opElementAsgn_tags (receiver : Node) (args : Option Node) (operator : String)
    (value : Node) (span : Span) :
    (opElementAsgn Recur.tagging receiver args operator value span).Post p s fun o _ =>
      o.tags = receiver.tagged.tags ++ (Node.indexOperands args).flatMap (·.tagged.tags) ++
        value.tagged.tags := by
  unfold opElementAsgn
  refine Post.bind_read (Post.pure ⟨rfl, rfl⟩) ?_
  refine (Post.true _).bind fun recvTemp _ _ => ?_
  refine (arguments_tagging args span).bind fun ⟨indexValues, splatted⟩ _ hidx => ?_
  refine (mapM_temp_post "index" indexValues _).bind fun indexTemps _ htemps => ?_
  refine Post.bind_read (Post.pure ⟨rfl, rfl⟩) ?_
  extract_lets indices flags getter setterArgs body
  refine Post.pure ?_
  -- the getter and the setter reach the receiver and the indices through their temporaries
  have hindices : ∀ x ∈ indices, x.spliceable = none ∧ x.tags = [] := by
    intro x hx
    obtain ⟨⟨slot, iv⟩, -, rfl⟩ := List.mem_map.1 hx
    exact ⟨rfl, Op.tags_readLocal slot⟩
  have hgetter : getter.tags = [] := by
    simp only [getter, Op.tags_call, Op.tags_readLocal, List.nil_append, List.flatMap_eq_nil_iff]
    exact fun x hx => (hindices x hx).2
  have hsetter : ∀ x, (setterArgs x).flatMap Op.tags = x.tags := by
    intro x
    simp only [setterArgs]
    split
    · simp [Op.ofForm, Op.tag, Op.form, Form.children, Op.tags_sequence_of_untagged hindices]
    · simp only [List.flatMap_append, List.flatMap_eq_nil_iff.2 fun x hx => (hindices x hx).2,
        List.flatMap_singleton, List.nil_append]
  have hbody : body.tags = value.tagged.tags := by
    simp only [body]
    split <;> simp [tags_asAssignment, tags_logical, hgetter, hsetter]
  have hwrites : (indexTemps.map fun t => Op.writeLocal t.1 t.2).flatMap Op.tags =
      (Node.indexOperands args).flatMap (·.tagged.tags) :=
    calc (indexTemps.map fun t => Op.writeLocal t.1 t.2).flatMap Op.tags
        = (indexTemps.map Prod.snd).flatMap Op.tags := by
          simp only [List.flatMap_map, Op.tags_writeLocal]
      _ = ((Node.indexOperands args).map Node.tagged).flatMap Op.tags := by rw [htemps, ← hidx]
      _ = (Node.indexOperands args).flatMap (·.tagged.tags) := List.flatMap_map _ _ _
  rw [Op.tags_ensureSpan, Op.tags_sequence_of_kept]
  · simp only [List.flatMap_append, List.flatMap_singleton, Op.tags_writeLocal, hwrites, hbody]
  · simp only [List.mem_append, List.mem_singleton, List.mem_map]
    rintro o ((rfl | ⟨⟨slot, iv⟩, -, rfl⟩) | rfl)
    · exact ⟨rfl, rfl⟩
    · exact ⟨rfl, rfl⟩
    · simp only [body]
      split <;> simp [Op.call, Op.ofForm, asAssignment, Op.spliceable, Op.isDroppable, Op.form,
        Op.flags]

/-- A constant read turned into a write keeps the read's module: the write holds the target's
tags, then the value's. -/
theorem constantWrite_tagged (first : Node) (v : Op) (span : Span) :
    (constantWrite first.tagged v span).Post p s fun w _ =>
      w.tags = first.tagged.tags ++ v.tags := by
  unfold Node.tagged
  split
  -- the three constant reads turn into writes in their module; any other operand is refused
  case h_1 | h_2 | h_3 => exact Post.pure (by simp [Op.ofForm, Op.object, Op.tag, Op.form, Form.children])
  case h_4 => exact Post.fail

/-- The lowered constant read goes to both the read and the write: the output holds the target's
tags twice, three times for `||=`, then the value's once. -/
theorem opAsgnConstDecl_tags (first : Node) (operator : String) (second : Node) (span : Span) :
    (opAsgnConstDecl Recur.tagging first operator second span).Post p s fun o _ =>
      o.tags = (List.replicate (if operator == "||" then 3 else 2) first.tagged.tags).flatten ++
        (Node.constOpValue second).tagged.tags := by
  unfold opAsgnConstDecl
  extract_lets valueNode
  refine Post.bind_read (Post.pure ⟨rfl, rfl⟩) (Post.bind_read (Post.pure ⟨rfl, rfl⟩) ?_)
  have hvalue : valueNode = Node.constOpValue second := rfl
  by_cases hand : (operator == "&&") = true
  · have hor : (operator == "||") = false := by
      rw [beq_iff_eq] at hand
      simp [hand]
    rw [if_pos hand]
    refine (constantWrite_tagged first _ span).bind fun w _ hw => Post.atSpan ?_
    simp [tags_asAssignment, hw, hor, hvalue, Op.ofForm, Op.tag, Op.form, Form.children]
  rw [if_neg hand]
  by_cases hor : (operator == "||") = true
  · rw [if_pos hor]
    refine (constantWrite_tagged first _ span).bind fun w _ hw => Post.atSpan ?_
    simp [tags_asAssignment, tags_guardDefined, hw, hor, hvalue, Op.ofForm, Op.tag, Op.form,
      Form.children]
  · rw [if_neg hor]
    extract_lets combined
    refine (constantWrite_tagged first _ span).bind fun w _ hw => Post.atSpan ?_
    simp [hw, hor, combined, hvalue]

/-- Flagging a line start keeps the tags. -/
theorem addNewline_tags (n : Node) (o : Op) :
    (addNewline n o).Post p s fun o' _ => o'.tags = o.tags := by
  unfold addNewline markLineStart
  split
  · split
    · refine Post.bind_read options_post ?_
      split
      · refine Post.bind_read source_post ((Post.true _).bind fun _ _ _ => Post.pure ?_)
        simp only [Op.tags_markCoverage, Op.tags_markNewline]
      · exact Post.pure (Op.tags_markNewline o)
    · exact Post.pure rfl
    · exact Post.throw
  · exact Post.pure rfl

theorem bind_addNewline_tags {x : Lower Op} {t : List Int} (hx : x.Post p s fun o _ => o.tags = t)
    (n : Node) : (x >>= addNewline n).Post p s fun o _ => o.tags = t :=
  hx.bind fun o _ ho => (addNewline_tags n o).mono fun _ _ h => h.trans ho

/-- An operator assignment, lowered with every operand stood for by its tag, holds the operands'
tags as often as it uses them, in the order it evaluates them, and no other integer node. -/
theorem operatorAssignment_operandTags {n : Node} {uses : List Node}
    (h : n.operandUses = some uses) :
    (dispatch Recur.tagging n).Post p s fun o _ => o.tags = uses.flatMap (·.tagged.tags) := by
  unfold Node.operandUses at h
  unfold dispatch
  split at h
  · next receiver attr operator value lazy hk =>
    cases h
    simp only [hk]
    refine bind_addNewline_tags ((opAsgn_tags receiver attr operator value lazy _).mono ?_) n
    intro o _ ho
    simp only [ho, List.flatMap_cons, List.flatMap_nil, List.append_nil]
  · next receiver args operator value hk =>
    cases h
    simp only [hk]
    refine bind_addNewline_tags ((opElementAsgn_tags receiver args operator value _).mono ?_) n
    intro o _ ho
    simp only [ho, List.flatMap_cons, List.flatMap_append, List.flatMap_nil, List.append_nil,
      List.append_assoc]
  · next first operator second hk =>
    cases h
    simp only [hk]
    refine bind_addNewline_tags ((opAsgnConstDecl_tags first operator second _).mono ?_) n
    intro o _ ho
    simp only [ho, List.flatMap_append, List.flatMap_replicate, List.flatMap_cons, List.flatMap_nil,
      List.append_nil]
  · cases h

/-- In `foo::B += 1` the scope `foo`, at offset 0, is used twice and the value, at offset 9,
once. -/
theorem operatorAssignment_operandTags_scopeTwice :
    ∃ n uses, n = Node.mk ⟨0, 10⟩ false (.opAsgnConstDecl
        (.mk ⟨0, 6⟩ false (.colon2 (.mk ⟨0, 3⟩ false (.vcall "foo")) "B")) "+"
        (.mk ⟨9, 1⟩ false (.fixnum 1))) ∧
      n.operandUses = some uses ∧ uses.flatMap (·.tagged.tags) = [0, 0, 9] ∧
      (dispatch Recur.tagging n).Post { source := SourceInfo.ofUnit {} "t.rb" "", frame := 0 }
        { env := Env.initial } fun o _ => o.tags = uses.flatMap (·.tagged.tags) :=
  ⟨_, _, rfl, rfl, by simp [Node.tagged, Node.constOpValue, Node.kind, Node.span, Op.ofForm, Op.tag, Op.form,
    Form.children],
    operatorAssignment_operandTags rfl⟩

end Tags

end Lower

/-- `foo::B += 1` lowers to a write of `B` in `foo` of the read of `B` in `foo` plus one: the
output calls `foo` at two places. -/
theorem compileUnit_opAsgnConstDecl_callsScopeTwice :
    ∃ c, compileUnit {} { file := "t.rb", root := some (.mk ⟨0, 0⟩ false (.opAsgnConstDecl
        (.mk ⟨0, 0⟩ false (.colon2 (.mk ⟨0, 0⟩ false (.vcall "foo")) "B")) "+"
        (.mk ⟨0, 0⟩ false (.fixnum 1)))) } = .ok c ∧
      ∃ π₁ π₂, π₁ ≠ π₂ ∧ (∃ x ∈ c.root.body.atPath π₁, x.calledName = some "foo") ∧
        ∃ y ∈ c.root.body.atPath π₂, y.calledName = some "foo" := by
  -- the scope of the write, and the receiver of the read that the sum adds one to
  have hrun : ∃ c, compileUnit {} { file := "t.rb", root := some (.mk ⟨0, 0⟩ false (.opAsgnConstDecl
        (.mk ⟨0, 0⟩ false (.colon2 (.mk ⟨0, 0⟩ false (.vcall "foo")) "B")) "+"
        (.mk ⟨0, 0⟩ false (.fixnum 1)))) } = .ok c ∧
      (∃ x ∈ c.root.body.atPath [0, 0], x.calledName = some "foo") ∧
        ∃ y ∈ c.root.body.atPath [0, 1, 0, 0], y.calledName = some "foo" := by
    set_option synthInstance.maxSize 1024 in
    decide +kernel
  obtain ⟨c, hc, hwrite, hread⟩ := hrun
  exact ⟨c, hc, [0, 0], [0, 1, 0, 0], by decide, hwrite, hread⟩

end RubyLower
