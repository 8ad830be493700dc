import RubyLower.Lower.Literal
import RubyLower.Lower.Assign
import RubyLower.Lower.Control
import RubyLower.Lower.Rescue
import RubyLower.Lower.Definition

/-!
# Lowering a node

`Lower.dispatch` picks the rule for a node's kind, lowering smaller nodes through the given
`Recur`, and flags the result as a line start when the node is one (a conditional flags its
condition instead). `Lower.recurAt` ties the rules together with a fuel bound: at fuel `k + 1`
the recursive calls go to fuel `k`, and every call is on a strictly smaller node, so the height
of a tree is enough fuel for it.

A block literal, a bare name literal and a parameter node have no rule in expression position.
-/

namespace RubyLower

namespace Lower

/-- Lower one node, its parts through `r`. -/
def dispatch (r : Recur) (n : Node) : Lower Op := do
  let span := n.span
  let here := fun (f : Form Op) => atSpan (Op.ofForm f) span
  match n.kind with
  | .conditional c t e => conditional r c t e span n.newline
  | kind =>
    let op ← match kind with
      | .fixnum v => fixnum v span
      | .bignum digits => bignum digits span
      | .float v => here (.float v)
      | .rational a b => rational r a b span
      | .complex a => complex r a span
      | .str v frozen => str v frozen span
      | .xstr v => command (Op.ofForm (.string v)) span
      | .dstr ps => dstr r ps span
      | .dsymbol ps => dsymbol r ps span
      | .dxstr ps => dxstr r ps span
      | .dregexp ps flags => dregexp r ps flags span
      | .evstr b => evstr r b span
      | .symbol name => atSpan (Op.symbol name) span
      | .regexp source flags => regexp source flags span
      | .trueLit => here (.boolean true)
      | .falseLit => here (.boolean false)
      | .nilLit => here .nil
      | .selfRef => here .selfValue
      | .zeroArray => here (.arrayLit [])
      | .encoding name => here (.object (.encoding name))
      | .array els => do here (.arrayLit (← exprs r els))
      | .hash ps => hash r ps span
      | .dot lo hi ex => range r lo hi ex span
      | .flip lo hi ex => flipFlop r lo hi ex span
      | .nthRef k => here (.nthMatch k)
      | .backRef k => here (.readGlobal ("$" ++ k))
      | .matchLastLine re => matchLastLine r re span
      | .match2 a b => match2 r a b span
      | .match3 a b => do
        let recv ← r.expr a
        let v ← r.expr b
        atSpan (Op.call recv "=~" [v]) span
      | .defined e => do here (.defined (← r.expr e))
      | .localVar name _ => localRead name span
      | .dvar name depth => dvarRead name depth span
      | .localAsgn name _ v | .dasgn name _ v => localAssignment r name v span
      | .instVar name => here (.readIvar name)
      | .instAsgn name v => do
        here (.writeIvar name (← valueOrDead r v "instance variable assignment"))
      | .classVar name => do here (.readCvar (← classVarScope) name)
      | .classVarAsgn name v => do
        let scope ← classVarScope
        let value ← valueOrDead r v "class variable assignment"
        here (.writeCvar scope name value)
      | .globalVar name => here (.readGlobal name)
      | .globalAsgn name v => do
        here (.writeGlobal name (← valueOrDead r v "global variable assignment"))
      | .const name => readConst name span
      | .colon2 left name => do here (.readConst (← r.expr left) name)
      | .colon3 name => here (.readConst (Op.object .objectClass) name)
      | .constDecl path v => do
        let m ← constPathModule r path
        let value ← valueOrDead r v "constant declaration"
        here (.writeConst m path.name value)
      | .call recv name args iter lazy => call r recv name args iter lazy span
      | .fcall name args iter => fcall r name args iter span
      | .vcall name => vcall name span
      | .attrAssign recv name args lazy => attrAssign r recv name args lazy span
      | .superCall args iter => superCall r args iter span
      | .zsuper iter => zsuper r iter span
      | .yieldCall args => yieldCall r args span
      | .blockPass body => do here (.toProc (← r.expr body))
      | .lambda b => lambda r b
      | .splat v => do here (.splatCast .convert false true (← r.expr v))
      | .argsCat a b => argsCat r a b span
      | .argsPush a b => argsPush r a b span
      | .svalue v => r.expr v
      | .star => here .nil
      | .begin body => exprOrNil r body span
      | .block children => do pure ((Op.sequence (← exprs r children)).ensureSpan span)
      | .preExe body => exprOrNil r body span
      | .postExe body => postExe r body span
      | .conditional c t e => conditional r c t e span n.newline
      | .and a b => do
        let left ← r.expr a
        let right ← r.expr b
        here (.and left right)
      | .or a b => do
        let left ← r.expr a
        let right ← r.expr b
        here (.or left right)
      | .whileLoop c b testFirst => loop r c b testFirst false span
      | .untilLoop c b testFirst => loop r c b testFirst true span
      | .forLoop v it b => forLoop r v it b span
      | .caseWhen s ws e => caseWhen r s ws e span
      | .breakJump v => breakJump r v span
      | .nextJump v => nextJump r v span
      | .redo => redo span
      | .retry => retry span
      | .returnJump v => returnJump r v span
      | .rescue b cs e => rescue r b cs e span
      | .ensure b e => do
        let body ← exprOrNil r b span
        let ens ← exprOrNil r e span
        here (.ensure body ens)
      | .opAsgn recv attr op v lazy => opAsgn r recv attr op v lazy span
      | .opAsgnAnd a b => opAsgnAnd r a b span
      | .opAsgnOr a b => opAsgnOr r a b span
      | .opElementAsgn recv args op v => opElementAsgn r recv args op v span
      | .opAsgnConstDecl a op b => opAsgnConstDecl r a op b span
      | .multipleAsgn m => multipleAssignment r m
      | .defn name ps body => defn r name ps body span
      | .defs recv name ps body => defs r recv name ps body span
      | .classDef path sup body => classDef r path sup body span
      | .moduleDef path body => moduleDef r path body span
      | .sclass recv body => sclass r recv body span
      | .alias a b => aliasMethod r a b span
      | .valias a b => here (.aliasGlobal a b)
      | .undef name => undef r name span
      | .iter _ | .literal _ | .argument _ => unsupportedNode n
    addNewline n op

/-- The rules tied together with `fuel` levels of recursion. -/
def recurAt : Nat → Recur
  | 0 => { expr := fun _ => throw .exhausted, target := fun _ _ => throw .exhausted }
  | fuel + 1 => { expr := dispatch (recurAt fuel), target := target (recurAt fuel) }

/-- Lower a node with fuel enough for its height. -/
def lower (n : Node) : Lower Op :=
  (recurAt (n.height + 1)).expr n

end Lower

end RubyLower
