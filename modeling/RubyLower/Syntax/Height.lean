import RubyLower.Syntax.Node

/-!
# Height of a parse tree

The height of a node is one more than the greatest height of its children, counting every node
held by the node's kind: operands, list items, clauses, parameters and their defaults. A pass
that goes one level down per step needs at most this many steps.
-/

namespace RubyLower

mutual

/-- One more than the greatest height of the node's children. -/
def Node.height : Node → Nat
  | .mk _ _ k => Kind.height k + 1

/-- The greatest height of the nodes held by a kind. -/
def Kind.height : Kind Node → Nat
  | .rational a b => max a.height b.height
  | .complex a => a.height
  | .dstr ps => listHeight ps
  | .dsymbol ps => listHeight ps
  | .dxstr ps => listHeight ps
  | .dregexp ps _ => listHeight ps
  | .evstr b => optHeight b
  | .array xs => listHeight xs
  | .hash ps => pairsHeight ps
  | .dot a b _ => max (optHeight a) (optHeight b)
  | .flip a b _ => max a.height b.height
  | .localAsgn _ _ v => optHeight v
  | .dasgn _ _ v => optHeight v
  | .instAsgn _ v => optHeight v
  | .classVarAsgn _ v => optHeight v
  | .globalAsgn _ v => optHeight v
  | .colon2 l _ => l.height
  | .constDecl p v => max (pathHeight p) (optHeight v)
  | .call r _ a i _ => max r.height (max (optHeight a) (optHeight i))
  | .fcall _ a i => max (optHeight a) (optHeight i)
  | .attrAssign r _ a _ => max r.height (optHeight a)
  | .superCall a i => max (optHeight a) (optHeight i)
  | .zsuper i => optHeight i
  | .yieldCall a => optHeight a
  | .blockPass b => b.height
  | .iter b => max (paramsHeight b.params) (optHeight b.body)
  | .lambda b => max (paramsHeight b.params) (optHeight b.body)
  | .splat v => v.height
  | .argsCat a b => max a.height b.height
  | .argsPush a b => max a.height b.height
  | .svalue v => v.height
  | .matchLastLine r => r.height
  | .match2 a b => max a.height b.height
  | .match3 a b => max a.height b.height
  | .defined e => e.height
  | .begin b => optHeight b
  | .block cs => listHeight cs
  | .preExe b => optHeight b
  | .postExe b => optHeight b
  | .conditional c t e => max c.height (max (optHeight t) (optHeight e))
  | .and a b => max a.height b.height
  | .or a b => max a.height b.height
  | .whileLoop c b _ => max c.height (optHeight b)
  | .untilLoop c b _ => max c.height (optHeight b)
  | .forLoop v i b => max v.height (max i.height (optHeight b))
  | .caseWhen s ws e => max (optHeight s) (max (whensHeight ws) (optHeight e))
  | .breakJump v => optHeight v
  | .nextJump v => optHeight v
  | .returnJump v => optHeight v
  | .rescue b cs e => max (optHeight b) (max (rescuesHeight cs) (optHeight e))
  | .ensure b e => max (optHeight b) (optHeight e)
  | .opAsgn r _ _ v _ => max r.height v.height
  | .opAsgnAnd a b => max a.height b.height
  | .opAsgnOr a b => max a.height b.height
  | .opElementAsgn r a _ v => max r.height (max (optHeight a) v.height)
  | .opAsgnConstDecl a _ b => max a.height b.height
  | .multipleAsgn m =>
    max (listHeight m.pre) (max (optHeight m.rest) (max (listHeight m.post) (optHeight m.value)))
  | .defn _ p b => max (paramsHeight p) (optHeight b)
  | .defs r _ p b => max r.height (max (paramsHeight p) (optHeight b))
  | .classDef p s b => max (pathHeight p) (max (optHeight s) (optHeight b))
  | .moduleDef p b => max (pathHeight p) (optHeight b)
  | .sclass r b => max r.height (optHeight b)
  | .alias a b => max a.height b.height
  | .undef n => n.height
  | _ => 0

/-- The height of an optional node, `0` when absent. -/
def optHeight : Option Node → Nat
  | none => 0
  | some n => n.height

/-- The greatest height in a list of nodes. -/
def listHeight : List Node → Nat
  | [] => 0
  | n :: ns => max n.height (listHeight ns)

/-- The greatest height among the keys and values of hash pairs. -/
def pairsHeight : List (Option Node × Node) → Nat
  | [] => 0
  | (k, v) :: ps => max (optHeight k) (max v.height (pairsHeight ps))

/-- The greatest height in a parameter list, keyword defaults included. -/
def paramsHeight (p : Params Node) : Nat :=
  max (listHeight p.pre) (max (listHeight p.optional) (max (listHeight p.post)
    (keywordsHeight p.keywords)))

/-- The greatest height among keyword defaults. -/
def keywordsHeight : List (String × Option Node) → Nat
  | [] => 0
  | (_, d) :: ks => max (optHeight d) (keywordsHeight ks)

/-- The greatest height in `when` arms. -/
def whensHeight : List (WhenArm Node) → Nat
  | [] => 0
  | w :: ws => max w.pattern.height (max (optHeight w.body) (whensHeight ws))

/-- The greatest height in `rescue` clauses. -/
def rescuesHeight : List (RescueArm Node) → Nat
  | [] => 0
  | c :: cs => max (optHeight c.exceptions) (max (optHeight c.body) (rescuesHeight cs))

/-- The height of the scope part of a constant path. -/
def pathHeight : ConstPath Node → Nat
  | .scoped l _ => l.height
  | _ => 0

end

end RubyLower
