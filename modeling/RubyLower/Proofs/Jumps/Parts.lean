import RubyLower.Proofs.ConcatChain

/-!
# The parts of a tree that lowering visits

The lowering of a node visits some of the nodes below it, and allows a jump keyword only in some
surroundings. This module says both on the tree alone, as the lowering rules do them.

* `JumpScope` is what decides whether a jump is allowed: being in a block scope (the body and
  parameters of a block, lambda, `for` or `END`), in a loop body, or in a rescue clause. It also
  records whether the source is a core library source, which decides what some calls visit. A
  method or module body starts afresh; a `Garnet.privately` block is no scope of its own.
* `Node.parts c ρ n` lists what lowering `n` in role `ρ` (an expression, an assignment target, a
  rescue clause's exception list) at scope `c` visits: the nodes it lowers, each with its scope
  and role, the jump keyword of `n` itself, and the spans it joins.
* `Visit.Misplaced` holds of a visit that reaches a jump keyword where it is not allowed;
  `Visit.OutOf h` of one that reaches a node too high for `h` levels of lowering or a span past
  the largest offset.

The parts are below their node (`Visit.Under`), so a visit out of range makes its node out of
range one level up (`Visit.Under.outOf`).
-/

namespace RubyLower

/-! ## Children and spans of a tree -/

/-- The nodes of a parameter list: leading, optional and trailing parameters, keyword defaults. -/
def Params.nodes (p : Params Node) : List Node :=
  p.pre ++ p.optional ++ p.post ++ p.keywords.flatMap fun kw => kw.2.toList

/-- The node of a constant path, for `left::Name`. -/
def ConstPath.nodes : ConstPath Node → List Node
  | .scoped l _ => [l]
  | _ => []

/-- The nodes a kind holds directly. -/
def Kind.children : Kind Node → List Node
  | .rational a b => [a, b]
  | .complex a => [a]
  | .dstr ps => ps
  | .dsymbol ps => ps
  | .dxstr ps => ps
  | .dregexp ps _ => ps
  | .evstr b => b.toList
  | .array xs => xs
  | .hash ps => ps.flatMap fun kv => kv.1.toList ++ [kv.2]
  | .dot a b _ => a.toList ++ b.toList
  | .flip a b _ => [a, b]
  | .localAsgn _ _ v => v.toList
  | .dasgn _ _ v => v.toList
  | .instAsgn _ v => v.toList
  | .classVarAsgn _ v => v.toList
  | .globalAsgn _ v => v.toList
  | .colon2 l _ => [l]
  | .constDecl p v => p.nodes ++ v.toList
  | .call r _ a i _ => r :: (a.toList ++ i.toList)
  | .fcall _ a i => a.toList ++ i.toList
  | .attrAssign r _ a _ => r :: a.toList
  | .superCall a i => a.toList ++ i.toList
  | .zsuper i => i.toList
  | .yieldCall a => a.toList
  | .blockPass b => [b]
  | .iter b => b.params.nodes ++ b.body.toList
  | .lambda b => b.params.nodes ++ b.body.toList
  | .splat v => [v]
  | .argsCat a b => [a, b]
  | .argsPush a b => [a, b]
  | .svalue v => [v]
  | .matchLastLine r => [r]
  | .match2 a b => [a, b]
  | .match3 a b => [a, b]
  | .defined e => [e]
  | .begin b => b.toList
  | .block cs => cs
  | .preExe b => b.toList
  | .postExe b => b.toList
  | .conditional c t e => c :: (t.toList ++ e.toList)
  | .and a b => [a, b]
  | .or a b => [a, b]
  | .whileLoop c b _ => c :: b.toList
  | .untilLoop c b _ => c :: b.toList
  | .forLoop v i b => v :: i :: b.toList
  | .caseWhen s ws e => s.toList ++ ws.flatMap (fun w => w.pattern :: w.body.toList) ++ e.toList
  | .breakJump v => v.toList
  | .nextJump v => v.toList
  | .returnJump v => v.toList
  | .rescue b cs e =>
    b.toList ++ cs.flatMap (fun c => c.exceptions.toList ++ c.body.toList) ++ e.toList
  | .ensure b e => b.toList ++ e.toList
  | .opAsgn r _ _ v _ => [r, v]
  | .opAsgnAnd a b => [a, b]
  | .opAsgnOr a b => [a, b]
  | .opElementAsgn r a _ v => r :: (a.toList ++ [v])
  | .opAsgnConstDecl a _ b => [a, b]
  | .multipleAsgn m => m.pre ++ m.rest.toList ++ m.post ++ m.value.toList
  | .defn _ p b => p.nodes ++ b.toList
  | .defs r _ p b => r :: (p.nodes ++ b.toList)
  | .classDef p s b => p.nodes ++ s.toList ++ b.toList
  | .moduleDef p b => p.nodes ++ b.toList
  | .sclass r b => r :: b.toList
  | .alias a b => [a, b]
  | .undef n => [n]
  | _ => []

/-- `m` is `n` or a node below it. -/
inductive Node.Within : Node → Node → Prop
  | refl (n : Node) : Node.Within n n
  | child {m c : Node} {sp : Span} {nl : Bool} {k : Kind Node} :
      c ∈ k.children → Node.Within m c → Node.Within m (.mk sp nl k)

/-- Every span in the tree stops at an offset. -/
def Node.SpansFit (n : Node) : Prop :=
  ∀ m : Node, m.Within n → m.span.fits = true

/-- A tree lowered with `h` levels of recursion runs out of them, or has a span past the largest
offset. -/
def Node.OutOf (h : Nat) (n : Node) : Prop :=
  h ≤ n.height ∨ ¬ n.SpansFit

/-! ### Heights of children -/

section Height

theorem le_listHeight {n : Node} : ∀ {ns : List Node}, n ∈ ns → n.height ≤ listHeight ns
  | m :: ms, h => by
    rw [listHeight]
    rcases List.mem_cons.1 h with rfl | h
    · exact Nat.le_max_left _ _
    · exact Nat.le_trans (le_listHeight h) (Nat.le_max_right _ _)

theorem le_optHeight {n : Node} {o : Option Node} (h : n ∈ o.toList) : n.height ≤ optHeight o := by
  cases o with
  | none => cases h
  | some m =>
    rw [Option.toList_some, List.mem_singleton] at h
    subst h
    exact Nat.le_refl _

theorem le_pairsHeight {n : Node} :
    ∀ {ps : List (Option Node × Node)}, n ∈ ps.flatMap (fun kv => kv.1.toList ++ [kv.2]) →
      n.height ≤ pairsHeight ps
  | (k, v) :: ps, h => by
    rw [pairsHeight]
    rcases List.mem_append.1 (List.flatMap_cons ▸ h) with h | h
    · rcases List.mem_append.1 h with h | h
      · exact Nat.le_trans (le_optHeight h) (Nat.le_max_left _ _)
      · rw [List.mem_singleton.1 h]
        exact Nat.le_trans (Nat.le_max_left _ _) (Nat.le_max_right _ _)
    · exact Nat.le_trans (le_pairsHeight h)
        (Nat.le_trans (Nat.le_max_right _ _) (Nat.le_max_right _ _))

theorem le_keywordsHeight {n : Node} :
    ∀ {ks : List (String × Option Node)}, n ∈ ks.flatMap (fun kw => kw.2.toList) →
      n.height ≤ keywordsHeight ks
  | (_, d) :: ks, h => by
    rw [keywordsHeight]
    rcases List.mem_append.1 (List.flatMap_cons ▸ h) with h | h
    · exact Nat.le_trans (le_optHeight h) (Nat.le_max_left _ _)
    · exact Nat.le_trans (le_keywordsHeight h) (Nat.le_max_right _ _)

theorem le_paramsHeight {n : Node} {p : Params Node} (h : n ∈ p.nodes) : n.height ≤ paramsHeight p := by
  simp only [Params.nodes, List.mem_append] at h
  rw [paramsHeight]
  rcases h with ((h | h) | h) | h
  · exact Nat.le_trans (le_listHeight h) (Nat.le_max_left _ _)
  · have := le_listHeight h
    omega
  · have := le_listHeight h
    omega
  · have := le_keywordsHeight h
    omega

theorem le_whensHeight {n : Node} :
    ∀ {ws : List (WhenArm Node)}, n ∈ ws.flatMap (fun w => w.pattern :: w.body.toList) →
      n.height ≤ whensHeight ws
  | w :: ws, h => by
    rw [whensHeight]
    rcases List.mem_append.1 (List.flatMap_cons ▸ h) with h | h
    · rcases List.mem_cons.1 h with rfl | h
      · exact Nat.le_max_left _ _
      · have := le_optHeight h
        omega
    · have := le_whensHeight h
      omega

theorem le_rescuesHeight {n : Node} :
    ∀ {cs : List (RescueArm Node)}, n ∈ cs.flatMap (fun c => c.exceptions.toList ++ c.body.toList) →
      n.height ≤ rescuesHeight cs
  | c :: cs, h => by
    rw [rescuesHeight]
    rcases List.mem_append.1 (List.flatMap_cons ▸ h) with h | h
    · rcases List.mem_append.1 h with h | h
      · exact Nat.le_trans (le_optHeight h) (Nat.le_max_left _ _)
      · have := le_optHeight h
        omega
    · have := le_rescuesHeight h
      omega

theorem le_pathHeight {n : Node} : ∀ {path : ConstPath Node}, n ∈ path.nodes →
    n.height ≤ pathHeight path
  | .scoped l _, h => by
    rw [ConstPath.nodes, List.mem_singleton] at h
    subst h
    exact Nat.le_refl _

/-- A child is no higher than the layer holding it. -/
theorem Kind.height_le_of_mem_children {k : Kind Node} {c : Node} (h : c ∈ k.children) :
    c.height ≤ k.height := by
  cases k <;> simp only [Kind.children, List.mem_cons, List.mem_append, List.not_mem_nil,
    or_false] at h <;> rw [Kind.height]
  all_goals first
    | exact le_listHeight h
    | exact le_optHeight h
    | exact le_pairsHeight h
    | (rcases h with rfl | rfl <;> omega)
    | grind [optHeight, → le_listHeight, → le_paramsHeight, → le_pathHeight, → le_whensHeight,
        → le_rescuesHeight]

/-- A child is lower than its node. -/
theorem Node.height_lt_of_mem_children {c : Node} {sp : Span} {nl : Bool} {k : Kind Node}
    (h : c ∈ k.children) : c.height < (Node.mk sp nl k).height :=
  Nat.lt_succ_of_le (Kind.height_le_of_mem_children h)

end Height

namespace Node

theorem Within.of_mem_children {m d : Node} (h : m ∈ d.kind.children) : m.Within d := by
  cases d
  exact .child h (.refl m)

theorem Within.trans {m d n : Node} (hm : m.Within d) (hd : d.Within n) : m.Within n := by
  induction hd with
  | refl => exact hm
  | child hc _ ih => exact .child hc ih

theorem Within.height_le {m n : Node} (h : m.Within n) : m.height ≤ n.height := by
  induction h with
  | refl => exact Nat.le_refl _
  | child hc _ ih => exact Nat.le_of_lt (Nat.lt_of_le_of_lt ih (height_lt_of_mem_children hc))

theorem SpansFit.of_within {m n : Node} (hn : n.SpansFit) (h : m.Within n) : m.SpansFit :=
  fun m' hm' => hn m' (hm'.trans h)

theorem SpansFit.fits {n : Node} (hn : n.SpansFit) : n.span.fits = true :=
  hn n (.refl n)

/-- `m` lies below `n`: within one of its children. -/
def Below (m n : Node) : Prop :=
  ∃ d ∈ n.kind.children, m.Within d

theorem Below.height_lt {m n : Node} (h : m.Below n) : m.height < n.height := by
  obtain ⟨d, hd, hm⟩ := h
  cases n
  exact Nat.lt_of_le_of_lt hm.height_le (height_lt_of_mem_children hd)

theorem Below.spansFit {m n : Node} (h : m.Below n) (hn : n.SpansFit) : m.SpansFit := by
  obtain ⟨d, hd, hm⟩ := h
  exact hn.of_within (hm.trans (.of_mem_children hd))

theorem below_of_mem_children {m n : Node} (h : m ∈ n.kind.children) : m.Below n :=
  ⟨m, h, .refl m⟩

theorem Below.of_within {m d n : Node} (hm : m.Within d) (hd : d.Below n) : m.Below n := by
  obtain ⟨e, he, hd⟩ := hd
  exact ⟨e, he, hm.trans hd⟩

theorem Below.of_child {m d n : Node} (hm : m ∈ d.kind.children) (hd : d.Below n) : m.Below n :=
  hd.of_within (.of_mem_children hm)

/-- The head and the spread parts of a chain of concatenations lie within it. -/
theorem within_of_mem_catParts {n m : Node} (h : m ∈ (Lower.catParts n).1 :: (Lower.catParts n).2) :
    m.Within n := by
  fun_induction Lower.catParts n with
  | case1 sp nl first second head seconds hcat ih =>
    rw [hcat] at ih
    simp only [List.mem_cons, List.mem_append, List.not_mem_nil, or_false] at h ih
    rcases h with h | h | h
    · exact .child (by simp [Kind.children]) (ih (.inl h))
    · exact .child (by simp [Kind.children]) (ih (.inr h))
    · exact .child (by simp [Kind.children, h]) (.refl m)
  | case2 n _ =>
    simp only [List.mem_cons, List.not_mem_nil, or_false] at h
    exact h ▸ .refl n

end Node

/-! ## Scopes and visits -/

/-- What decides the jumps allowed where a node is lowered, and what some calls visit. -/
structure JumpScope where
  /-- The source is a core library source. -/
  core : Bool
  /-- In the parameters or body of a block, a lambda, a `for` loop or an `END` block. -/
  block : Bool := false
  /-- In the body of a `while` or `until` loop. -/
  loop : Bool := false
  /-- In the body of a rescue clause. -/
  rescue : Bool := false
  deriving DecidableEq

namespace JumpScope

/-- The scope of a block's parameters and body: a block scope and nothing else. -/
def enterBlock (c : JumpScope) : JumpScope :=
  { core := c.core, block := true }

/-- The scope of a method's or module's parameters and body: none of the three. -/
def enterUnit (c : JumpScope) : JumpScope :=
  { core := c.core }

/-- The scope of a loop body. -/
def enterLoop (c : JumpScope) : JumpScope :=
  { c with loop := true }

/-- The scope of a rescue clause's body. -/
def enterRescue (c : JumpScope) : JumpScope :=
  { c with rescue := true }

end JumpScope

/-- The jump keywords. -/
inductive Jump where
  | breakJump
  | nextJump
  | redo
  | retry
  deriving DecidableEq

/-- `break`, `next` and `redo` are allowed in a block scope or a loop body, `retry` also in a
rescue clause. -/
def Jump.allowedIn (k : Jump) (c : JumpScope) : Bool :=
  match k with
  | .retry => c.block || c.loop || c.rescue
  | _ => c.block || c.loop

/-- How lowering reaches a node: as an expression, as an assignment target, or as the exception
list of a rescue clause. -/
inductive Role where
  | expr
  | target
  | exceptions
  deriving DecidableEq

/-- What lowering a node looks at: a node it lowers, in a scope and a role; the node's own jump
keyword, in the node's scope; a span it joins with another. -/
inductive Visit where
  | node (scope : JumpScope) (role : Role) (n : Node)
  | jump (scope : JumpScope) (keyword : Jump)
  | span (s : Span)

namespace Visit

/-- Lowering each node of a list as an expression. -/
def exprs (c : JumpScope) (ns : List Node) : List Visit :=
  ns.map (.node c .expr)

/-- Assigning to each node of a list as a target. -/
def targets (c : JumpScope) (ns : List Node) : List Visit :=
  ns.map (.node c .target)

/-- The left side of `left::Name`. -/
def ofPath (c : JumpScope) : ConstPath Node → List Visit
  | .scoped l _ => [.node c .expr l]
  | _ => []

/-- The default of an optional parameter. -/
def ofDefault (c : JumpScope) (param : Node) : List Visit :=
  match param.kind with
  | .localAsgn _ _ v | .dasgn _ _ v => exprs c v.toList
  | _ => []

/-- A parameter list: leading and trailing patterns as targets, the defaults of optional and
keyword parameters. -/
def ofParams (c : JumpScope) (ps : Params Node) : List Visit :=
  targets c ps.pre ++ ps.optional.flatMap (ofDefault c) ++ targets c ps.post ++
    ps.keywords.flatMap fun kw => exprs c kw.2.toList

/-- A literal block: its parameters and body, in a block scope. -/
def ofBlock (c : JumpScope) (b : BlockLit Node) : List Visit :=
  ofParams c.enterBlock b.params ++ exprs c.enterBlock b.body.toList

/-- An argument list: the elements of a list, or the one spread node; of another kind only its
span, joined with the call's. -/
def ofArgs (c : JumpScope) (span : Span) : Option Node → List Visit
  | none => []
  | some a =>
    match a.kind with
    | .array els => exprs c els
    | .splat _ | .argsCat _ _ | .argsPush _ _ => [.node c .expr a]
    | _ => [.span span, .span a.span]

/-- The block of a call: a literal block, the value passed with `&`, or another node. -/
def ofIter (c : JumpScope) : Option Node → List Visit
  | none => []
  | some n =>
    match n.kind with
    | .iter b => ofBlock c b
    | .blockPass body => [.node c .expr body]
    | _ => [.node c .expr n]

/-- The argument of `undefined.equal?(v)` in a core library source: `v`, when it is the one
element of the argument list. -/
def ofNotProvided (c : JumpScope) (args : Option Node) : List Visit :=
  match args.map Node.kind with
  | some (.array [v]) => [.node c .expr v]
  | _ => []

/-- A call with a receiver. `"s".freeze` visits nothing; a primitive call only its arguments; of
the calls on the internal module, `privately` only its block's body, in the same scope, and
`single_block_arg` and `check_frozen` nothing; in a core library source `undefined.equal?(v)`
only `v`. -/
def ofCall (c : JumpScope) (span : Span) (receiver : Node) (name : String) (args iter : Option Node) :
    List Visit :=
  let plain := .node c .expr receiver :: (ofArgs c span args ++ ofIter c iter)
  let frozenLiteral := name == "freeze" && args.isNone && iter.isNone &&
    match receiver.kind with
    | .str _ _ => true
    | _ => false
  if frozenLiteral then []
  else
    match receiver.kind with
    | .const m =>
      if m == primitiveModuleName then ofArgs c span args
      else if m == internalModuleName then
        if name == "privately" then
          match iter.map Node.kind with
          | some (.iter b) => exprs c b.body.toList
          | _ => []
        else if name == "single_block_arg" || name == "check_frozen" then []
        else plain
      else plain
    | .vcall "undefined" => if name == "equal?" && c.core then ofNotProvided c args else plain
    | _ => plain

/-- The arguments of `yield`: a single one that is no list is lowered as it is. -/
def ofYield (c : JumpScope) (span : Span) : Option Node → List Visit
  | some single =>
    match single.kind with
    | .array _ | .splat _ | .argsCat _ _ | .argsPush _ _ => ofArgs c span (some single)
    | _ => [.node c .expr single]
  | none => []

/-- A method name of `alias` or `undef`: lowered when it is a symbol. -/
def ofName (c : JumpScope) (n : Node) : List Visit :=
  match n.kind with
  | .symbol _ | .dsymbol _ => [.node c .expr n]
  | _ => []

/-- The targets of a multiple assignment. -/
def ofPattern (c : JumpScope) (m : MultiAsgn Node) : List Visit :=
  targets c m.pre ++ targets c m.rest.toList ++ targets c m.post

/-- A rescue clause: its exception list, and its body in the clause's scope. -/
def ofRescueArm (c : JumpScope) (arm : RescueArm Node) : List Visit :=
  arm.exceptions.toList.map (.node c .exceptions) ++ exprs c.enterRescue arm.body.toList

end Visit

/-- What lowering a node of kind `k` at `span` as an expression visits, rule by rule. -/
def Kind.exprParts (c : JumpScope) (span : Span) : Kind Node → List Visit
  | .rational a b => Visit.exprs c [a, b]
  | .complex a => Visit.exprs c [a]
  | .dstr ps => Visit.exprs c ps
  | .dsymbol ps => Visit.exprs c ps
  | .dxstr ps => Visit.exprs c ps
  | .dregexp ps _ => Visit.exprs c ps
  | .evstr b => Visit.exprs c b.toList
  | .array els => Visit.exprs c els
  | .hash ps => ps.flatMap fun kv => Visit.exprs c kv.1.toList ++ [.node c .expr kv.2]
  | .dot lo hi _ => Visit.exprs c lo.toList ++ Visit.exprs c hi.toList
  | .flip lo hi _ => Visit.exprs c [lo, hi]
  | .matchLastLine re => Visit.exprs c [re]
  | .match2 a b => Visit.exprs c [a, b]
  | .match3 a b => Visit.exprs c [a, b]
  | .defined e => Visit.exprs c [e]
  | .localAsgn _ _ v => Visit.exprs c v.toList
  | .dasgn _ _ v => Visit.exprs c v.toList
  | .instAsgn _ v => Visit.exprs c v.toList
  | .classVarAsgn _ v => Visit.exprs c v.toList
  | .globalAsgn _ v => Visit.exprs c v.toList
  | .colon2 l _ => Visit.exprs c [l]
  | .constDecl path v => Visit.ofPath c path ++ Visit.exprs c v.toList
  | .call receiver name args blk _ => Visit.ofCall c span receiver name args blk
  | .fcall _ args blk => Visit.ofArgs c span args ++ Visit.ofIter c blk
  | .attrAssign receiver _ args _ => .node c .expr receiver :: Visit.ofArgs c span args
  | .superCall args blk => Visit.ofArgs c span args ++ Visit.ofIter c blk
  | .zsuper blk => Visit.ofIter c blk
  | .yieldCall args => Visit.ofYield c span args
  | .blockPass body => Visit.exprs c [body]
  | .lambda b => Visit.ofBlock c b
  | .splat v => Visit.exprs c [v]
  | .argsCat a b => Visit.exprs c ((Lower.catParts a).1 :: ((Lower.catParts a).2 ++ [b]))
  | .argsPush a b => Visit.exprs c [a, b]
  | .svalue v => Visit.exprs c [v]
  | .begin b => Visit.exprs c b.toList
  | .block cs => Visit.exprs c cs
  | .preExe b => Visit.exprs c b.toList
  | .postExe b => Visit.exprs c.enterBlock b.toList
  | .conditional cond t e => .node c .expr cond :: (Visit.exprs c t.toList ++ Visit.exprs c e.toList)
  | .and a b => Visit.exprs c [a, b]
  | .or a b => Visit.exprs c [a, b]
  | .whileLoop cond b _ => .node c .expr cond :: Visit.exprs c.enterLoop b.toList
  | .untilLoop cond b _ => .node c .expr cond :: Visit.exprs c.enterLoop b.toList
  | .forLoop v it b =>
    .node c .expr it :: .node c.enterBlock .target v :: Visit.exprs c.enterBlock b.toList
  | .caseWhen s ws e =>
    Visit.exprs c s.toList ++ ws.flatMap (fun w => .node c .expr w.pattern :: Visit.exprs c w.body.toList) ++
      Visit.exprs c e.toList
  | .breakJump v => .jump c .breakJump :: Visit.exprs c v.toList
  | .nextJump v => .jump c .nextJump :: Visit.exprs c v.toList
  | .redo => [.jump c .redo]
  | .retry => [.jump c .retry]
  | .returnJump v => Visit.exprs c v.toList
  | .rescue b arms e => Visit.exprs c b.toList ++ arms.flatMap (Visit.ofRescueArm c) ++ Visit.exprs c e.toList
  | .ensure b e => Visit.exprs c b.toList ++ Visit.exprs c e.toList
  | .opAsgn receiver _ _ v _ => Visit.exprs c [receiver, v]
  | .opAsgnAnd a b => Visit.exprs c [a, b]
  | .opAsgnOr a b => Visit.exprs c [a, b]
  | .opElementAsgn receiver args _ v =>
    .node c .expr receiver :: (Visit.ofArgs c span args ++ [.node c .expr v])
  | .opAsgnConstDecl a _ b =>
    Visit.exprs c [a, match b.kind with
      | .constDecl _ (some v) => v
      | _ => b]
  | .multipleAsgn m =>
    match m.value with
    | none => []
    | some v => .node c .expr v :: Visit.ofPattern c m
  | .defn _ ps b => Visit.ofParams c.enterUnit ps ++ Visit.exprs c.enterUnit b.toList
  | .defs receiver _ ps b =>
    .node c .expr receiver :: (Visit.ofParams c.enterUnit ps ++ Visit.exprs c.enterUnit b.toList)
  | .classDef path sup b => Visit.ofPath c path ++ Visit.exprs c sup.toList ++ Visit.exprs c.enterUnit b.toList
  | .moduleDef path b => Visit.ofPath c path ++ Visit.exprs c.enterUnit b.toList
  | .sclass receiver b => .node c .expr receiver :: Visit.exprs c.enterUnit b.toList
  | .alias a b => Visit.ofName c b ++ Visit.ofName c a
  | .undef n => Visit.ofName c n
  | _ => []

/-- What assigning to a target of kind `k` at `span` visits. -/
def Kind.targetParts (c : JumpScope) (span : Span) : Kind Node → List Visit
  | .constDecl path _ => Visit.ofPath c path
  | .attrAssign receiver _ args _ => .node c .expr receiver :: Visit.ofArgs c span args
  | .multipleAsgn m => Visit.ofPattern c m
  | .splat inner => [.node c .target inner]
  | _ => []

/-- What lowering an exception list of kind `k` visits. -/
def Kind.exceptionParts (c : JumpScope) : Kind Node → List Visit
  | .array els => Visit.exprs c els
  | .splat v => [.node c .expr v]
  | .argsCat first second => [.node c .exceptions first, .node c .expr second]
  | .argsPush first second => [.node c .exceptions first, .node c .expr second]
  | _ => []

/-- What lowering `n` in role `ρ` at scope `c` visits. -/
def Node.parts (c : JumpScope) (ρ : Role) (n : Node) : List Visit :=
  match ρ with
  | .expr => Kind.exprParts c n.span n.kind
  | .target => Kind.targetParts c n.span n.kind
  | .exceptions => Kind.exceptionParts c n.kind

namespace Visit

/-- What a visit goes on to visit. -/
def parts : Visit → List Visit
  | .node c ρ n => n.parts c ρ
  | _ => []

/-- A visit reaches a jump keyword where it is not allowed. -/
inductive Misplaced : Visit → Prop
  | jump {c : JumpScope} {k : Jump} : k.allowedIn c = false → Misplaced (.jump c k)
  | part {v w : Visit} : w ∈ v.parts → Misplaced w → Misplaced v

/-- A visit needs more than `h` levels of lowering, or reaches a span past the largest offset. -/
def OutOf (h : Nat) : Visit → Prop
  | .node _ _ n => n.OutOf h
  | .jump _ _ => False
  | .span s => s.fits = false

/-- A visit lies below a node: a node below it, or a span that fits when the tree's spans do. -/
def Under (v : Visit) (n : Node) : Prop :=
  match v with
  | .node _ _ m => m.Below n
  | .jump _ _ => True
  | .span s => n.SpansFit → s.fits = true

/-! ### Parts lie below their node -/

/-- A visit out of range below a node puts the node out of range one level up. -/
theorem Under.outOf {v : Visit} {n : Node} {h : Nat} (hv : v.Under n) (ho : v.OutOf h) :
    n.OutOf (h + 1) := by
  cases v with
  | node c ρ m =>
    rcases ho with ho | ho
    · exact .inl (Nat.lt_of_le_of_lt ho (Node.Below.height_lt hv))
    · exact .inr fun hn => ho (Node.Below.spansFit hv hn)
  | jump => exact ho.elim
  | span sp =>
    refine .inr fun hn => ?_
    have hfit : sp.fits = true := hv hn
    simp [OutOf, hfit] at ho

section Under

variable {c : JumpScope} {n : Node}

theorem under_exprs {ns : List Node} (h : ∀ m ∈ ns, m.Below n) : ∀ v ∈ exprs c ns, v.Under n := by
  intro v hv
  obtain ⟨m, hm, rfl⟩ := List.mem_map.1 hv
  exact h m hm

theorem under_targets {ns : List Node} (h : ∀ m ∈ ns, m.Below n) : ∀ v ∈ targets c ns, v.Under n := by
  intro v hv
  obtain ⟨m, hm, rfl⟩ := List.mem_map.1 hv
  exact h m hm

theorem under_ofPath {path : ConstPath Node} (h : ∀ m ∈ path.nodes, m.Below n) :
    ∀ v ∈ ofPath c path, v.Under n := by
  intro v hv
  rcases path with _ | ⟨l, _⟩ | _
  · cases hv
  · rw [ofPath, List.mem_singleton] at hv
    subst hv
    exact h l (List.mem_singleton_self l)
  · cases hv

theorem under_ofParams {ps : Params Node} (h : ∀ m ∈ ps.nodes, m.Below n) :
    ∀ v ∈ ofParams c ps, v.Under n := by
  simp only [Params.nodes, List.mem_append, List.mem_flatMap] at h
  intro v hv
  simp only [ofParams, List.mem_append, List.mem_flatMap] at hv
  rcases hv with ((hv | ⟨param, hp, hv⟩) | hv) | ⟨kw, hk, hv⟩
  · exact under_targets (fun m hm => h m (.inl (.inl (.inl hm)))) v hv
  · -- a default is a child of its parameter
    have hparam := h param (.inl (.inl (.inr hp)))
    unfold ofDefault at hv
    split at hv
    · next v' hk => exact under_exprs (fun m hm => hparam.of_child (by simp [hk, Kind.children, hm])) v hv
    · next v' hk => exact under_exprs (fun m hm => hparam.of_child (by simp [hk, Kind.children, hm])) v hv
    · cases hv
  · exact under_targets (fun m hm => h m (.inl (.inr hm))) v hv
  · exact under_exprs (fun m hm => h m (.inr ⟨kw, hk, hm⟩)) v hv

theorem under_ofBlock {b : BlockLit Node} (h : ∀ m ∈ b.params.nodes ++ b.body.toList, m.Below n) :
    ∀ v ∈ ofBlock c b, v.Under n := by
  intro v hv
  rcases List.mem_append.1 hv with hv | hv
  · exact under_ofParams (fun m hm => h m (List.mem_append_left _ hm)) v hv
  · exact under_exprs (fun m hm => h m (List.mem_append_right _ hm)) v hv

theorem under_ofArgs {span : Span} {args : Option Node} (hspan : n.SpansFit → span.fits = true)
    (h : ∀ a ∈ args.toList, a.Below n) : ∀ v ∈ ofArgs c span args, v.Under n := by
  intro v hv
  cases args with
  | none => simp [ofArgs] at hv
  | some a =>
    have ha := h a (by simp)
    simp only [ofArgs] at hv
    split at hv
    · next els hk => exact under_exprs (fun m hm => ha.of_child (by simp [hk, Kind.children, hm])) v hv
    · rw [List.mem_singleton.1 hv]; exact ha
    · rw [List.mem_singleton.1 hv]; exact ha
    · rw [List.mem_singleton.1 hv]; exact ha
    · simp only [List.mem_cons, List.not_mem_nil, or_false] at hv
      rcases hv with rfl | rfl
      · exact hspan
      · exact fun hn => (ha.spansFit hn).fits

theorem under_ofIter {iter : Option Node} (h : ∀ i ∈ iter.toList, i.Below n) :
    ∀ v ∈ ofIter c iter, v.Under n := by
  intro v hv
  cases iter with
  | none => simp [ofIter] at hv
  | some i =>
    have hi := h i (by simp)
    simp only [ofIter] at hv
    split at hv
    · next b hk =>
      exact under_ofBlock (fun m hm => hi.of_child (by simpa [hk, Kind.children] using hm)) v hv
    · next body hk =>
      rw [List.mem_singleton.1 hv]
      exact hi.of_child (by simp [hk, Kind.children])
    · rw [List.mem_singleton.1 hv]; exact hi

theorem under_ofName {m : Node} (h : m.Below n) : ∀ v ∈ ofName c m, v.Under n := by
  intro v hv
  unfold ofName at hv
  split at hv <;> simp only [List.mem_singleton, List.not_mem_nil] at hv
  all_goals (subst hv; exact h)

theorem under_ofCall {span : Span} {receiver : Node} {name : String} {args iter : Option Node}
    (hspan : n.SpansFit → span.fits = true) (hr : receiver.Below n)
    (ha : ∀ a ∈ args.toList, a.Below n) (hi : ∀ i ∈ iter.toList, i.Below n) :
    ∀ v ∈ ofCall c span receiver name args iter, v.Under n := by
  have hplain : ∀ v ∈ Visit.node c .expr receiver :: (ofArgs c span args ++ ofIter c iter),
      v.Under n := by
    intro v hv
    rcases List.mem_cons.1 hv with rfl | hv
    · exact hr
    rcases List.mem_append.1 hv with hv | hv
    · exact under_ofArgs hspan ha v hv
    · exact under_ofIter hi v hv
  intro v hv
  unfold ofCall at hv
  dsimp only at hv
  -- a frozen string literal visits nothing; past that test the visits depend on the receiver
  have skip : ∀ {b : Bool} {L : List Visit}, v ∈ (if b = true then [] else L) → v ∈ L := by
    intro b L h
    cases b <;> simp_all
  replace hv := skip hv
  split at hv
  · -- a call on a constant: a primitive, the internal module, or a plain call
    split at hv
    · exact under_ofArgs hspan ha v hv
    split at hv
    · split at hv
      · split at hv
        · next b hk =>
          obtain ⟨i, hi', hik⟩ := Option.map_eq_some_iff.1 hk
          exact under_exprs (fun m hm => (hi i (by simp [hi'])).of_child
            (by simp [hik, Kind.children, hm])) v hv
        · cases hv
      split at hv
      · cases hv
      · exact hplain v hv
    · exact hplain v hv
  · split at hv
    · unfold ofNotProvided at hv
      split at hv
      · next w hk =>
        obtain ⟨a, ha', hak⟩ := Option.map_eq_some_iff.1 hk
        rw [List.mem_singleton.1 hv]
        exact (ha a (by simp [ha'])).of_child (by simp [hak, Kind.children])
      · cases hv
    · exact hplain v hv
  · exact hplain v hv

theorem under_ofYield {span : Span} {args : Option Node} (hspan : n.SpansFit → span.fits = true)
    (h : ∀ a ∈ args.toList, a.Below n) : ∀ v ∈ ofYield c span args, v.Under n := by
  intro v hv
  cases args with
  | none => simp [ofYield] at hv
  | some a =>
    simp only [ofYield] at hv
    split at hv
    all_goals first
      | exact under_ofArgs hspan h v hv
      | (rw [List.mem_singleton.1 hv]; exact h a (by simp))

theorem under_ofPattern {m : MultiAsgn Node} (h : ∀ t ∈ m.pre ++ m.rest.toList ++ m.post, t.Below n) :
    ∀ v ∈ ofPattern c m, v.Under n := by
  unfold ofPattern targets
  rw [← List.map_append, ← List.map_append]
  exact under_targets h

theorem under_ofRescueArm {arm : RescueArm Node}
    (h : ∀ m ∈ arm.exceptions.toList ++ arm.body.toList, m.Below n) :
    ∀ v ∈ ofRescueArm c arm, v.Under n := by
  intro v hv
  rcases List.mem_append.1 hv with hv | hv
  · obtain ⟨m, hm, rfl⟩ := List.mem_map.1 hv
    exact h m (List.mem_append_left _ hm)
  · exact under_exprs (fun m hm => h m (List.mem_append_right _ hm)) v hv

end Under

end Visit

section Under

open Visit

variable {c : JumpScope} {sp : Span} {nl : Bool}

/-- Everything lowering a node as an expression visits lies below the node. -/
theorem Kind.exprParts_under {k : Kind Node} : ∀ v ∈ k.exprParts c sp, v.Under (.mk sp nl k) := by
  have hb : ∀ m ∈ k.children, m.Below (.mk sp nl k) := fun m hm => Node.below_of_mem_children hm
  have hspan : (Node.mk sp nl k).SpansFit → sp.fits = true := Node.SpansFit.fits
  cases k
  -- the kinds whose parts are not plain lists of children
  case hash ps =>
    intro v hv
    obtain ⟨kv, hkv, hv⟩ := List.mem_flatMap.1 hv
    have hkid : ∀ m ∈ kv.1.toList ++ [kv.2], m.Below _ := fun m hm =>
      hb m (List.mem_flatMap.2 ⟨kv, hkv, hm⟩)
    rcases List.mem_append.1 hv with hv | hv
    · exact under_exprs (fun m hm => hkid m (List.mem_append_left _ hm)) v hv
    · rw [List.mem_singleton.1 hv]
      exact hkid kv.2 (by simp)
  case caseWhen subject ws e =>
    simp only [Kind.children, List.mem_append, List.mem_flatMap] at hb
    intro v hv
    simp only [Kind.exprParts, List.mem_append, List.mem_flatMap] at hv
    rcases hv with (hv | ⟨w, hw, hv⟩) | hv
    · exact under_exprs (fun m hm => hb m (.inl (.inl hm))) v hv
    · rcases List.mem_cons.1 hv with rfl | hv
      · exact hb _ (.inl (.inr ⟨w, hw, List.mem_cons_self⟩))
      · exact under_exprs (fun m hm => hb m (.inl (.inr ⟨w, hw, List.mem_cons_of_mem _ hm⟩))) v hv
    · exact under_exprs (fun m hm => hb m (.inr hm)) v hv
  case rescue body arms e =>
    simp only [Kind.children, List.mem_append, List.mem_flatMap] at hb
    intro v hv
    simp only [Kind.exprParts, List.mem_append, List.mem_flatMap] at hv
    rcases hv with (hv | ⟨arm, harm, hv⟩) | hv
    · exact under_exprs (fun m hm => hb m (.inl (.inl hm))) v hv
    · exact under_ofRescueArm (fun m hm => hb m (.inl (.inr ⟨arm, harm, List.mem_append.1 hm⟩))) v hv
    · exact under_exprs (fun m hm => hb m (.inr hm)) v hv
  case multipleAsgn m =>
    intro v hv
    simp only [Kind.exprParts] at hv
    split at hv
    · cases hv
    · next w hw =>
      rcases List.mem_cons.1 hv with rfl | hv
      · exact hb w (by simp [Kind.children, hw])
      · exact under_ofPattern (fun t ht => hb t (by
          simp only [Kind.children, List.mem_append] at ht ⊢
          exact .inl ht)) v hv
  case argsCat a b =>
    -- the flattened list of a splat chain comes from below its first part
    refine under_exprs fun m hm => ?_
    simp only [List.mem_cons, List.mem_append, List.not_mem_nil, or_false] at hm
    rcases hm with hm | hm | rfl
    · exact (hb a (by simp [Kind.children])).of_within (Node.within_of_mem_catParts (by simp [hm]))
    · exact (hb a (by simp [Kind.children])).of_within (Node.within_of_mem_catParts (by simp [hm]))
    · exact hb _ (by simp [Kind.children])
  case opAsgnConstDecl a _ b =>
    refine under_exprs fun m hm => ?_
    simp only [List.mem_cons, List.not_mem_nil, or_false] at hm
    rcases hm with rfl | rfl
    · exact hb _ (by simp [Kind.children])
    · have hbb : b.Below _ := hb b (by simp [Kind.children])
      split
      · next v hk => exact hbb.of_child (by simp [hk, Kind.children])
      · exact hbb
  all_goals simp only [Kind.children] at hb
  all_goals simp only [Kind.exprParts, List.forall_mem_append, List.forall_mem_cons,
    List.not_mem_nil, false_implies, implies_true]
  all_goals and_intros
  all_goals first
    | trivial
    | (refine hb _ ?_; simp)
    | (refine under_exprs fun m hm => hb m ?_; simp_all)
    | (refine under_ofPath fun m hm => hb m ?_; simp_all)
    | (refine under_ofArgs hspan fun m hm => hb m ?_; simp_all)
    | (refine under_ofIter fun m hm => hb m ?_; simp_all)
    | (refine under_ofYield hspan fun m hm => hb m ?_; simp_all)
    | (refine under_ofName (hb _ ?_); simp)
    | (refine under_ofParams fun m hm => hb m ?_; simp_all)
    | (refine under_ofBlock fun m hm => hb m ?_; simp_all)
    | (refine under_ofCall hspan (hb _ ?_) (fun m hm => hb m ?_) (fun m hm => hb m ?_) <;> simp_all)

/-- Everything assigning to a target visits lies below it. -/
theorem Kind.targetParts_under {k : Kind Node} : ∀ v ∈ k.targetParts c sp, v.Under (.mk sp nl k) := by
  have hb : ∀ m ∈ k.children, m.Below (.mk sp nl k) := fun m hm => Node.below_of_mem_children hm
  have hspan : (Node.mk sp nl k).SpansFit → sp.fits = true := Node.SpansFit.fits
  intro v hv
  cases k
  case constDecl path _ =>
    exact under_ofPath (fun m hm => hb m (List.mem_append_left _ hm)) v hv
  case attrAssign r _ args _ =>
    rcases List.mem_cons.1 hv with rfl | hv
    · exact hb r List.mem_cons_self
    · exact under_ofArgs hspan (fun a ha => hb a (List.mem_cons_of_mem _ ha)) v hv
  case multipleAsgn m =>
    exact under_ofPattern (fun t ht => hb t (List.mem_append_left _ ht)) v hv
  case splat inner =>
    rw [Kind.targetParts, List.mem_singleton] at hv
    subst hv
    exact hb inner List.mem_cons_self
  all_goals simp [Kind.targetParts] at hv

/-- Everything lowering an exception list visits lies below it. -/
theorem Kind.exceptionParts_under {k : Kind Node} :
    ∀ v ∈ k.exceptionParts c, v.Under (.mk sp nl k) := by
  have hb : ∀ m ∈ k.children, m.Below (.mk sp nl k) := fun m hm => Node.below_of_mem_children hm
  intro v hv
  cases k
  case array els => exact under_exprs hb v hv
  case splat x =>
    rw [Kind.exceptionParts, List.mem_singleton] at hv
    subst hv
    exact hb x List.mem_cons_self
  case argsCat a b | argsPush a b =>
    simp only [Kind.exceptionParts, List.mem_cons, List.not_mem_nil, or_false] at hv
    rcases hv with rfl | rfl
    · exact hb a (by simp [Kind.children])
    · exact hb b (by simp [Kind.children])
  all_goals simp [Kind.exceptionParts] at hv

/-- Everything lowering a node visits lies below it. -/
theorem Node.parts_under {ρ : Role} {n : Node} : ∀ v ∈ n.parts c ρ, v.Under n := by
  obtain ⟨sp, nl, k⟩ := n
  cases ρ
  · exact Kind.exprParts_under
  · exact Kind.targetParts_under
  · exact Kind.exceptionParts_under

end Under

namespace Visit

@[simp] theorem misplaced_jump_iff {c : JumpScope} {k : Jump} :
    (Visit.jump c k).Misplaced ↔ k.allowedIn c = false := by
  constructor
  · rintro (h | ⟨hw, _⟩)
    · exact h
    · simp [parts] at hw
  · exact .jump

@[simp] theorem not_misplaced_span {s : Span} : ¬ (Visit.span s).Misplaced := by
  rintro (_ | ⟨hw, _⟩)
  simp [parts] at hw

theorem misplaced_node_iff {c : JumpScope} {ρ : Role} {n : Node} :
    (Visit.node c ρ n).Misplaced ↔ ∃ w ∈ n.parts c ρ, w.Misplaced := by
  constructor
  · rintro (_ | ⟨hw, hm⟩)
    exact ⟨_, hw, hm⟩
  · rintro ⟨w, hw, hm⟩
    exact .part hw hm

/-- A node whose lowering visits nothing is never misplaced. -/
theorem not_misplaced_of_parts_nil {c : JumpScope} {ρ : Role} {n : Node} (h : n.parts c ρ = []) :
    ¬ (Visit.node c ρ n).Misplaced := by
  rw [misplaced_node_iff, h]
  rintro ⟨w, hw, _⟩
  cases hw

end Visit

end RubyLower
