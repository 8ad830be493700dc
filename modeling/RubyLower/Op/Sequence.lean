import RubyLower.Op.Basic

/-!
# Sequences in normal form

`Op.sequence` builds the node that runs a list of nodes and yields the last value. Nested
sequences that carry neither span nor flags are spliced in, and values without effect (`nil`,
`true`, `false`, small integers, `self`) that are not line starts are dropped wherever their value
is thrown away, that is everywhere but at the end. What is left comes back as `nil` when nothing
is, unwrapped when it is one node, and as a sequence node otherwise.
-/

namespace RubyLower

namespace Op

/-- A sequence node that carries neither span nor flags: its items can stand in its place. -/
def spliceable : Op → Option (List Op)
  | .mk (.seq items) none fl => if fl = {} then some items else none
  | _ => none

/-- A value without effect whose result may be thrown away: `nil`, a boolean, a small integer
or `self`, not a line start. -/
def isDroppable (o : Op) : Bool :=
  !o.flags.newline &&
    match o.form with
    | .nil | .boolean _ | .integer _ | .selfValue => true
    | _ => false

/-- The list with every spliceable sequence replaced by its items. -/
def splice (nodes : List Op) : List Op :=
  nodes.flatMap fun o => (spliceable o).getD [o]

/-- The items of a list but the last that have an effect, then the last. -/
def dropIdle : List Op → List Op
  | [] => []
  | [o] => [o]
  | o :: rest => if o.isDroppable then dropIdle rest else o :: dropIdle rest

/-- Run the nodes in order and yield the last value. -/
def sequence (nodes : List Op) : Op :=
  match dropIdle (splice nodes) with
  | [] => nil
  | [o] => o
  | items => ofForm (.seq items)

end Op

end RubyLower
