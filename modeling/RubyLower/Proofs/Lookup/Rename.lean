import Mathlib.Logic.Basic
import RubyLower.Lower.Call

/-!
# Renaming the constants of a parse tree

`Node.renameLookups σ` renames, by `σ`, every name that is looked up as an unqualified constant or
in a class variable scope: constant reads (`Const`), class variable reads and writes, and the
names of constant paths without a scope (`X = ...`, `class X`, `module X`). Nothing else changes:
the tree keeps its shape, its spans and every other name, and so its height
(`Node.height_renameLookups`).

One constant keeps its name: the receiver of a call that the lowering expands in place, on the
primitive module or the internal module (`expandsCall`), is not renamed when the old name or the
new one would have the call expanded. So renaming never changes which rule lowers a node.
-/

namespace RubyLower

/-- The lowering expands a call named `name` on the constant `c` in place: every call on the
primitive module, and the calls on the internal module that have a form of their own. -/
def expandsCall (c name : String) : Bool :=
  c == primitiveModuleName || (c == internalModuleName &&
    (name == "privately" || name == "single_block_arg" || name == "check_frozen"))

/-- The receiver of a call named `name` after renaming: `renamed`, unless the receiver is a
constant whose name, or whose name under `σ`, has the lowering expand the call in place. -/
def renamedReceiver (σ : String → String) (name : String) (receiver renamed : Node) : Node :=
  match receiver.kind with
  | .const c => if expandsCall c name || expandsCall (σ c) name then receiver else renamed
  | _ => renamed

mutual

/-- The tree with every constant and class variable name looked up renamed by `σ`. -/
def Node.renameLookups (σ : String → String) : Node → Node
  | .mk sp nl k => .mk sp nl (Kind.renameLookups σ k)

/-- One layer renamed: its own looked-up name, if it has one, and its children. -/
def Kind.renameLookups (σ : String → String) : Kind Node → Kind Node
  | .rational a b => .rational (a.renameLookups σ) (b.renameLookups σ)
  | .complex a => .complex (a.renameLookups σ)
  | .dstr ps => .dstr (renameLookupsList σ ps)
  | .dsymbol ps => .dsymbol (renameLookupsList σ ps)
  | .dxstr ps => .dxstr (renameLookupsList σ ps)
  | .dregexp ps flags => .dregexp (renameLookupsList σ ps) flags
  | .evstr b => .evstr (renameLookupsOpt σ b)
  | .array xs => .array (renameLookupsList σ xs)
  | .hash ps => .hash (renameLookupsPairs σ ps)
  | .dot a b ex => .dot (renameLookupsOpt σ a) (renameLookupsOpt σ b) ex
  | .flip a b ex => .flip (a.renameLookups σ) (b.renameLookups σ) ex
  | .localAsgn n d v => .localAsgn n d (renameLookupsOpt σ v)
  | .dasgn n d v => .dasgn n d (renameLookupsOpt σ v)
  | .instAsgn n v => .instAsgn n (renameLookupsOpt σ v)
  | .classVar n => .classVar (σ n)
  | .classVarAsgn n v => .classVarAsgn (σ n) (renameLookupsOpt σ v)
  | .globalAsgn n v => .globalAsgn n (renameLookupsOpt σ v)
  | .const n => .const (σ n)
  | .colon2 l n => .colon2 (l.renameLookups σ) n
  | .constDecl p v => .constDecl (ConstPath.renameLookups σ p) (renameLookupsOpt σ v)
  | .call r name a i lz =>
    .call (renamedReceiver σ name r (r.renameLookups σ)) name (renameLookupsOpt σ a)
      (renameLookupsOpt σ i) lz
  | .fcall name a i => .fcall name (renameLookupsOpt σ a) (renameLookupsOpt σ i)
  | .attrAssign r name a lz => .attrAssign (r.renameLookups σ) name (renameLookupsOpt σ a) lz
  | .superCall a i => .superCall (renameLookupsOpt σ a) (renameLookupsOpt σ i)
  | .zsuper i => .zsuper (renameLookupsOpt σ i)
  | .yieldCall a => .yieldCall (renameLookupsOpt σ a)
  | .blockPass b => .blockPass (b.renameLookups σ)
  | .iter b => .iter
    { b with params := Params.renameLookups σ b.params, body := renameLookupsOpt σ b.body }
  | .lambda b => .lambda
    { b with params := Params.renameLookups σ b.params, body := renameLookupsOpt σ b.body }
  | .splat v => .splat (v.renameLookups σ)
  | .argsCat a b => .argsCat (a.renameLookups σ) (b.renameLookups σ)
  | .argsPush a b => .argsPush (a.renameLookups σ) (b.renameLookups σ)
  | .svalue v => .svalue (v.renameLookups σ)
  | .matchLastLine r => .matchLastLine (r.renameLookups σ)
  | .match2 a b => .match2 (a.renameLookups σ) (b.renameLookups σ)
  | .match3 a b => .match3 (a.renameLookups σ) (b.renameLookups σ)
  | .defined e => .defined (e.renameLookups σ)
  | .begin b => .begin (renameLookupsOpt σ b)
  | .block cs => .block (renameLookupsList σ cs)
  | .preExe b => .preExe (renameLookupsOpt σ b)
  | .postExe b => .postExe (renameLookupsOpt σ b)
  | .conditional c t e =>
    .conditional (c.renameLookups σ) (renameLookupsOpt σ t) (renameLookupsOpt σ e)
  | .and a b => .and (a.renameLookups σ) (b.renameLookups σ)
  | .or a b => .or (a.renameLookups σ) (b.renameLookups σ)
  | .whileLoop c b t => .whileLoop (c.renameLookups σ) (renameLookupsOpt σ b) t
  | .untilLoop c b t => .untilLoop (c.renameLookups σ) (renameLookupsOpt σ b) t
  | .forLoop v i b => .forLoop (v.renameLookups σ) (i.renameLookups σ) (renameLookupsOpt σ b)
  | .caseWhen s ws e =>
    .caseWhen (renameLookupsOpt σ s) (renameLookupsWhens σ ws) (renameLookupsOpt σ e)
  | .breakJump v => .breakJump (renameLookupsOpt σ v)
  | .nextJump v => .nextJump (renameLookupsOpt σ v)
  | .returnJump v => .returnJump (renameLookupsOpt σ v)
  | .rescue b cs e =>
    .rescue (renameLookupsOpt σ b) (renameLookupsRescues σ cs) (renameLookupsOpt σ e)
  | .ensure b e => .ensure (renameLookupsOpt σ b) (renameLookupsOpt σ e)
  | .opAsgn r attr op v lz => .opAsgn (r.renameLookups σ) attr op (v.renameLookups σ) lz
  | .opAsgnAnd a b => .opAsgnAnd (a.renameLookups σ) (b.renameLookups σ)
  | .opAsgnOr a b => .opAsgnOr (a.renameLookups σ) (b.renameLookups σ)
  | .opElementAsgn r a op v =>
    .opElementAsgn (r.renameLookups σ) (renameLookupsOpt σ a) op (v.renameLookups σ)
  | .opAsgnConstDecl a op b => .opAsgnConstDecl (a.renameLookups σ) op (b.renameLookups σ)
  | .multipleAsgn m => .multipleAsgn
    { m with
      pre := renameLookupsList σ m.pre, rest := renameLookupsOpt σ m.rest
      post := renameLookupsList σ m.post, value := renameLookupsOpt σ m.value }
  | .defn name p b => .defn name (Params.renameLookups σ p) (renameLookupsOpt σ b)
  | .defs r name p b =>
    .defs (r.renameLookups σ) name (Params.renameLookups σ p) (renameLookupsOpt σ b)
  | .classDef p s b =>
    .classDef (ConstPath.renameLookups σ p) (renameLookupsOpt σ s) (renameLookupsOpt σ b)
  | .moduleDef p b => .moduleDef (ConstPath.renameLookups σ p) (renameLookupsOpt σ b)
  | .sclass r b => .sclass (r.renameLookups σ) (renameLookupsOpt σ b)
  | .alias a b => .alias (a.renameLookups σ) (b.renameLookups σ)
  | .undef n => .undef (n.renameLookups σ)
  | k => k

/-- An optional node renamed. -/
def renameLookupsOpt (σ : String → String) : Option Node → Option Node
  | none => none
  | some n => some (n.renameLookups σ)

/-- A list of nodes renamed. -/
def renameLookupsList (σ : String → String) : List Node → List Node
  | [] => []
  | n :: ns => n.renameLookups σ :: renameLookupsList σ ns

/-- Hash pairs renamed. -/
def renameLookupsPairs (σ : String → String) : List (Option Node × Node) → List (Option Node × Node)
  | [] => []
  | (k, v) :: ps => (renameLookupsOpt σ k, v.renameLookups σ) :: renameLookupsPairs σ ps

/-- A parameter list renamed: its patterns and defaults. -/
def Params.renameLookups (σ : String → String) (p : Params Node) : Params Node :=
  { p with
    pre := renameLookupsList σ p.pre, optional := renameLookupsList σ p.optional
    post := renameLookupsList σ p.post, keywords := renameLookupsKeywords σ p.keywords }

/-- Keyword parameters renamed: their defaults. -/
def renameLookupsKeywords (σ : String → String) :
    List (String × Option Node) → List (String × Option Node)
  | [] => []
  | (k, d) :: ks => (k, renameLookupsOpt σ d) :: renameLookupsKeywords σ ks

/-- `when` arms renamed. -/
def renameLookupsWhens (σ : String → String) : List (WhenArm Node) → List (WhenArm Node)
  | [] => []
  | w :: ws =>
    { w with pattern := w.pattern.renameLookups σ, body := renameLookupsOpt σ w.body } ::
      renameLookupsWhens σ ws

/-- `rescue` clauses renamed. -/
def renameLookupsRescues (σ : String → String) : List (RescueArm Node) → List (RescueArm Node)
  | [] => []
  | c :: cs =>
    { c with exceptions := renameLookupsOpt σ c.exceptions, body := renameLookupsOpt σ c.body } ::
      renameLookupsRescues σ cs

/-- A constant path renamed: the name of a path without scope, or the scope of a scoped one. -/
def ConstPath.renameLookups (σ : String → String) : ConstPath Node → ConstPath Node
  | .implicit n => .implicit (σ n)
  | .scoped l n => .scoped (l.renameLookups σ) n
  | .topLevel n => .topLevel n

end

section Shape

variable (σ : String → String)

@[simp] theorem Node.span_renameLookups (n : Node) : (n.renameLookups σ).span = n.span := by
  cases n
  rfl

@[simp] theorem Node.newline_renameLookups (n : Node) : (n.renameLookups σ).newline = n.newline := by
  cases n
  rfl

theorem Node.kind_renameLookups (n : Node) : (n.renameLookups σ).kind = n.kind.renameLookups σ := by
  cases n
  rfl

/-- Renaming keeps the shape of every node, so the name an error gives for it. -/
@[simp] theorem Kind.name_renameLookups (k : Kind Node) : (k.renameLookups σ).name = k.name := by
  cases k <;> rfl

theorem renameLookupsOpt_eq_map (o : Option Node) :
    renameLookupsOpt σ o = o.map (Node.renameLookups σ) := by
  cases o <;> rfl

theorem renameLookupsList_eq_map : ∀ xs : List Node,
    renameLookupsList σ xs = xs.map (Node.renameLookups σ)
  | [] => rfl
  | x :: xs => by rw [renameLookupsList, renameLookupsList_eq_map xs, List.map_cons]

/-! ### The parts the rules take, renamed -/

/-- A `when` arm renamed. -/
def WhenArm.renameLookups (w : WhenArm Node) : WhenArm Node :=
  { w with pattern := w.pattern.renameLookups σ, body := w.body.map (Node.renameLookups σ) }

/-- A `rescue` clause renamed. -/
def RescueArm.renameLookups (c : RescueArm Node) : RescueArm Node :=
  { c with
    exceptions := c.exceptions.map (Node.renameLookups σ), body := c.body.map (Node.renameLookups σ) }

/-- A multiple assignment renamed. -/
def MultiAsgn.renameLookups (m : MultiAsgn Node) : MultiAsgn Node :=
  { m with
    pre := m.pre.map (Node.renameLookups σ), rest := m.rest.map (Node.renameLookups σ)
    post := m.post.map (Node.renameLookups σ), value := m.value.map (Node.renameLookups σ) }

/-- A literal block renamed. -/
def BlockLit.renameLookups (b : BlockLit Node) : BlockLit Node :=
  { b with params := Params.renameLookups σ b.params, body := b.body.map (Node.renameLookups σ) }

/-- A block to lower renamed. -/
def BlockSpec.renameLookups (spec : BlockSpec) : BlockSpec :=
  { spec with
    params := Params.renameLookups σ spec.params, body := spec.body.map (Node.renameLookups σ)
    forVar := spec.forVar.map (Node.renameLookups σ) }

/-- The block of a call renamed. -/
def BlockArg.renameLookups : BlockArg → BlockArg
  | .absent => .absent
  | .node n => .node (n.renameLookups σ)
  | .synthetic spec => .synthetic (spec.renameLookups σ)

theorem renameLookupsPairs_eq_map : ∀ ps : List (Option Node × Node),
    renameLookupsPairs σ ps = ps.map fun p => (p.1.map (Node.renameLookups σ), p.2.renameLookups σ)
  | [] => rfl
  | (k, v) :: ps => by
    rw [renameLookupsPairs, renameLookupsPairs_eq_map ps, List.map_cons, renameLookupsOpt_eq_map]

theorem renameLookupsKeywords_eq_map : ∀ ks : List (String × Option Node),
    renameLookupsKeywords σ ks = ks.map fun k => (k.1, k.2.map (Node.renameLookups σ))
  | [] => rfl
  | (k, d) :: ks => by
    rw [renameLookupsKeywords, renameLookupsKeywords_eq_map ks, List.map_cons, renameLookupsOpt_eq_map]

theorem renameLookupsWhens_eq_map : ∀ ws : List (WhenArm Node),
    renameLookupsWhens σ ws = ws.map (WhenArm.renameLookups σ)
  | [] => rfl
  | w :: ws => by
    rw [renameLookupsWhens, renameLookupsWhens_eq_map ws, List.map_cons, renameLookupsOpt_eq_map]
    rfl

theorem renameLookupsRescues_eq_map : ∀ cs : List (RescueArm Node),
    renameLookupsRescues σ cs = cs.map (RescueArm.renameLookups σ)
  | [] => rfl
  | c :: cs => by
    rw [renameLookupsRescues, renameLookupsRescues_eq_map cs, List.map_cons, renameLookupsOpt_eq_map,
      renameLookupsOpt_eq_map]
    rfl

/-- A parameter list renamed: its patterns and defaults, everything else kept. -/
theorem Params.renameLookups_eq (p : Params Node) :
    Params.renameLookups σ p = { p with
      pre := p.pre.map (Node.renameLookups σ), optional := p.optional.map (Node.renameLookups σ)
      post := p.post.map (Node.renameLookups σ)
      keywords := p.keywords.map fun k => (k.1, k.2.map (Node.renameLookups σ)) } := by
  rw [Params.renameLookups, renameLookupsList_eq_map, renameLookupsList_eq_map,
    renameLookupsList_eq_map, renameLookupsKeywords_eq_map]

section Params

variable (p : Params Node)

@[simp] theorem Params.pre_renameLookups :
    (Params.renameLookups σ p).pre = p.pre.map (Node.renameLookups σ) := by
  rw [Params.renameLookups_eq]

@[simp] theorem Params.optional_renameLookups :
    (Params.renameLookups σ p).optional = p.optional.map (Node.renameLookups σ) := by
  rw [Params.renameLookups_eq]

@[simp] theorem Params.post_renameLookups :
    (Params.renameLookups σ p).post = p.post.map (Node.renameLookups σ) := by
  rw [Params.renameLookups_eq]

@[simp] theorem Params.keywords_renameLookups :
    (Params.renameLookups σ p).keywords = p.keywords.map fun k => (k.1, k.2.map (Node.renameLookups σ)) := by
  rw [Params.renameLookups_eq]

@[simp] theorem Params.rest_renameLookups : (Params.renameLookups σ p).rest = p.rest := by
  rw [Params.renameLookups_eq]

@[simp] theorem Params.keywordRest_renameLookups :
    (Params.renameLookups σ p).keywordRest = p.keywordRest := by
  rw [Params.renameLookups_eq]

@[simp] theorem Params.block_renameLookups : (Params.renameLookups σ p).block = p.block := by
  rw [Params.renameLookups_eq]

end Params

/-- What `Kind.renameLookups` makes of a multiple assignment, and of a literal block: their parts
renamed. -/
theorem MultiAsgn.renameLookups_eq_mk (m : MultiAsgn Node) :
    { m with
      pre := renameLookupsList σ m.pre, rest := renameLookupsOpt σ m.rest
      post := renameLookupsList σ m.post, value := renameLookupsOpt σ m.value } =
      m.renameLookups σ := by
  rw [renameLookupsList_eq_map, renameLookupsList_eq_map, renameLookupsOpt_eq_map,
    renameLookupsOpt_eq_map]
  rfl

theorem BlockLit.renameLookups_eq_mk (b : BlockLit Node) :
    { b with params := Params.renameLookups σ b.params, body := renameLookupsOpt σ b.body } =
      b.renameLookups σ := by
  rw [renameLookupsOpt_eq_map]
  rfl

@[simp] theorem BlockSpec.ofLiteral_renameLookups (b : BlockLit Node) :
    BlockSpec.ofLiteral (b.renameLookups σ) = (BlockSpec.ofLiteral b).renameLookups σ := rfl

@[simp] theorem BlockArg.ofIter_renameLookups (i : Option Node) :
    BlockArg.ofIter (i.map (Node.renameLookups σ)) = (BlockArg.ofIter i).renameLookups σ := by
  cases i <;> rfl

theorem height_renamedReceiver {name : String} {receiver renamed : Node}
    (h : renamed.height = receiver.height) :
    (renamedReceiver σ name receiver renamed).height = receiver.height := by
  unfold renamedReceiver
  split
  · split <;> simp [h]
  · exact h

mutual

/-- Renaming keeps the height of a tree: it changes names, never the shape. Each case reads
the height of a layer off its children, as `Kind.height` does. -/
theorem Node.height_renameLookups : ∀ n : Node, (n.renameLookups σ).height = n.height
  | .mk _ _ k => congrArg (· + 1) (Kind.height_renameLookups k)

theorem Kind.height_renameLookups : ∀ k : Kind Node, (k.renameLookups σ).height = k.height
  | .complex a | .colon2 a _ | .blockPass a | .splat a | .svalue a | .matchLastLine a
  | .defined a | .undef a => Node.height_renameLookups a
  | .rational a b | .flip a b _ | .argsCat a b | .argsPush a b | .match2 a b | .match3 a b
  | .and a b | .or a b | .opAsgn a _ _ b _ | .opAsgnAnd a b | .opAsgnOr a b
  | .opAsgnConstDecl a _ b | .alias a b =>
    congrArg₂ max (Node.height_renameLookups a) (Node.height_renameLookups b)
  | .dstr xs | .dsymbol xs | .dxstr xs | .dregexp xs _ | .array xs | .block xs =>
    listHeight_renameLookupsList xs
  | .evstr o | .localAsgn _ _ o | .dasgn _ _ o | .instAsgn _ o | .classVarAsgn _ o
  | .globalAsgn _ o | .zsuper o | .yieldCall o | .begin o | .preExe o | .postExe o
  | .breakJump o | .nextJump o | .returnJump o => optHeight_renameLookupsOpt o
  | .dot o o' _ | .fcall _ o o' | .superCall o o' | .ensure o o' =>
    congrArg₂ max (optHeight_renameLookupsOpt o) (optHeight_renameLookupsOpt o')
  | .whileLoop a o _ | .untilLoop a o _ | .attrAssign a _ o _ | .sclass a o =>
    congrArg₂ max (Node.height_renameLookups a) (optHeight_renameLookupsOpt o)
  | .hash ps => pairsHeight_renameLookupsPairs ps
  | .constDecl p o => congrArg₂ max (pathHeight_renameLookups p) (optHeight_renameLookupsOpt o)
  | .call r _ o o' _ =>
    congrArg₂ max (height_renamedReceiver σ (Node.height_renameLookups r))
      (congrArg₂ max (optHeight_renameLookupsOpt o) (optHeight_renameLookupsOpt o'))
  | .iter b | .lambda b =>
    congrArg₂ max (paramsHeight_renameLookups b.params) (optHeight_renameLookupsOpt b.body)
  | .conditional a o o' =>
    congrArg₂ max (Node.height_renameLookups a)
      (congrArg₂ max (optHeight_renameLookupsOpt o) (optHeight_renameLookupsOpt o'))
  | .forLoop a b o =>
    congrArg₂ max (Node.height_renameLookups a)
      (congrArg₂ max (Node.height_renameLookups b) (optHeight_renameLookupsOpt o))
  | .caseWhen o ws o' =>
    congrArg₂ max (optHeight_renameLookupsOpt o)
      (congrArg₂ max (whensHeight_renameLookupsWhens ws) (optHeight_renameLookupsOpt o'))
  | .rescue o cs o' =>
    congrArg₂ max (optHeight_renameLookupsOpt o)
      (congrArg₂ max (rescuesHeight_renameLookupsRescues cs) (optHeight_renameLookupsOpt o'))
  | .opElementAsgn a o _ b =>
    congrArg₂ max (Node.height_renameLookups a)
      (congrArg₂ max (optHeight_renameLookupsOpt o) (Node.height_renameLookups b))
  | .multipleAsgn m =>
    congrArg₂ max (listHeight_renameLookupsList m.pre)
      (congrArg₂ max (optHeight_renameLookupsOpt m.rest)
        (congrArg₂ max (listHeight_renameLookupsList m.post) (optHeight_renameLookupsOpt m.value)))
  | .defn _ p o => congrArg₂ max (paramsHeight_renameLookups p) (optHeight_renameLookupsOpt o)
  | .defs a _ p o =>
    congrArg₂ max (Node.height_renameLookups a)
      (congrArg₂ max (paramsHeight_renameLookups p) (optHeight_renameLookupsOpt o))
  | .classDef p o o' =>
    congrArg₂ max (pathHeight_renameLookups p)
      (congrArg₂ max (optHeight_renameLookupsOpt o) (optHeight_renameLookupsOpt o'))
  | .moduleDef p o => congrArg₂ max (pathHeight_renameLookups p) (optHeight_renameLookupsOpt o)
  | .fixnum _ | .bignum _ | .float _ | .str _ _ | .xstr _ | .symbol _ | .regexp _ _ | .trueLit
  | .falseLit | .nilLit | .selfRef | .zeroArray | .encoding _ | .localVar _ _ | .dvar _ _
  | .instVar _ | .classVar _ | .globalVar _ | .const _ | .colon3 _ | .nthRef _ | .backRef _
  | .vcall _ | .star | .redo | .retry | .valias _ _ | .literal _ | .argument _ => rfl

theorem optHeight_renameLookupsOpt : ∀ o : Option Node, optHeight (renameLookupsOpt σ o) = optHeight o
  | none => rfl
  | some n => Node.height_renameLookups n

theorem listHeight_renameLookupsList :
    ∀ xs : List Node, listHeight (renameLookupsList σ xs) = listHeight xs
  | [] => rfl
  | x :: xs => congrArg₂ max (Node.height_renameLookups x) (listHeight_renameLookupsList xs)

theorem pairsHeight_renameLookupsPairs :
    ∀ ps : List (Option Node × Node), pairsHeight (renameLookupsPairs σ ps) = pairsHeight ps
  | [] => rfl
  | (k, v) :: ps =>
    congrArg₂ max (optHeight_renameLookupsOpt k)
      (congrArg₂ max (Node.height_renameLookups v) (pairsHeight_renameLookupsPairs ps))

theorem paramsHeight_renameLookups (p : Params Node) :
    paramsHeight (Params.renameLookups σ p) = paramsHeight p := by
  rw [paramsHeight, paramsHeight, Params.renameLookups]
  exact congrArg₂ max (listHeight_renameLookupsList p.pre)
    (congrArg₂ max (listHeight_renameLookupsList p.optional)
      (congrArg₂ max (listHeight_renameLookupsList p.post)
        (keywordsHeight_renameLookupsKeywords p.keywords)))

theorem keywordsHeight_renameLookupsKeywords :
    ∀ ks : List (String × Option Node), keywordsHeight (renameLookupsKeywords σ ks) = keywordsHeight ks
  | [] => rfl
  | (_, d) :: ks =>
    congrArg₂ max (optHeight_renameLookupsOpt d) (keywordsHeight_renameLookupsKeywords ks)

theorem whensHeight_renameLookupsWhens :
    ∀ ws : List (WhenArm Node), whensHeight (renameLookupsWhens σ ws) = whensHeight ws
  | [] => rfl
  | w :: ws =>
    congrArg₂ max (Node.height_renameLookups w.pattern)
      (congrArg₂ max (optHeight_renameLookupsOpt w.body) (whensHeight_renameLookupsWhens ws))

theorem rescuesHeight_renameLookupsRescues :
    ∀ cs : List (RescueArm Node), rescuesHeight (renameLookupsRescues σ cs) = rescuesHeight cs
  | [] => rfl
  | c :: cs =>
    congrArg₂ max (optHeight_renameLookupsOpt c.exceptions)
      (congrArg₂ max (optHeight_renameLookupsOpt c.body) (rescuesHeight_renameLookupsRescues cs))

theorem pathHeight_renameLookups :
    ∀ p : ConstPath Node, pathHeight (ConstPath.renameLookups σ p) = pathHeight p
  | .implicit _ => rfl
  | .scoped l _ => Node.height_renameLookups l
  | .topLevel _ => rfl

end

end Shape

end RubyLower
