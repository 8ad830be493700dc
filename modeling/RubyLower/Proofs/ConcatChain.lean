import RubyLower.Lower.Call

/-!
# Chains of spread concatenations

`[a, *b, *c]` arrives as a left-nested chain of concatenations,
`ArgsCat(ArgsCat(Array [a], b), c)`: a head that is no concatenation, and the parts spread after
it, innermost first (`Node.CatChain`). The lowering flattens the chain into one concatenation.

The lowering walks the chain from the outside in and pushes each spread part onto a stack, so
the outermost part lies at the bottom and the innermost on top (`Lower.catStack_of_chain`); it
then lowers the head and takes the parts off the stack in reverse, which is source order.
`Lower.argsCat_flattens` says what it gives for every chain and every recursion: it lowers the
head and then each spread part in source order, and concatenates the head with each part cast to
an array. Read up to associativity of array concatenation (`Op.concatParts`: a concatenation
whose first part is a concatenation joins that one's parts), this is the lowering that gives each
`ArgsCat` node a concatenation of its own (`Lower.argsCatNested`).
-/

namespace RubyLower

namespace Node

/-- `n` is the left-nested chain `ArgsCat(... ArgsCat(ArgsCat(head, s₁), s₂) ..., sₖ)` of the
spread parts `[s₁, ..., sₖ]` after `head`, which is no concatenation itself. -/
inductive CatChain : Node → Node → List Node → Prop
  | head {h : Node} : (∀ a b, h.kind ≠ .argsCat a b) → CatChain h h []
  | cat {sp : Span} {nl : Bool} {first h s : Node} {ss : List Node} :
      CatChain first h ss → CatChain (.mk sp nl (.argsCat first s)) h (ss ++ [s])

end Node

namespace Op

/-- The arrays a concatenation joins, a concatenation as its first part read as the arrays it
joins: what a concatenation means up to associativity. Any other node is one array. -/
def concatParts : Op → List Op
  | .mk (.arrayConcat (p :: ps)) _ _ => p.concatParts ++ ps
  | o => [o]

/-- A part spread into a concatenation: converted to an array, and copied. -/
def spread (v : Op) : Op :=
  ofForm (.splatCast .convert false true v)

end Op

namespace Lower

/-- The lowering of `first` followed by `second` spread, without flattening: a concatenation of
two parts for each `ArgsCat` node of the chain. -/
def argsCatNested (r : Recur) : Node → Node → Span → Lower Op
  | .mk sp _ (.argsCat a b), second, span => do
    let h ← argsCatNested r a b sp
    let v ← r.expr second
    atSpan (Op.ofForm (.arrayConcat [h, Op.spread v])) span
  | first, second, span => do
    let h ← r.expr first
    let v ← r.expr second
    atSpan (Op.ofForm (.arrayConcat [h, Op.spread v])) span

/-- A node made by the lowering has no span yet, so giving it one cannot fail. -/
theorem atSpan_ofForm (f : Form Op) (span : Span) :
    atSpan (Op.ofForm f) span = pure ((Op.ofForm f).withSpan span) :=
  rfl

@[simp] theorem concatParts_arrayConcat (p : Op) (ps : List Op) (span : Span) :
    ((Op.ofForm (.arrayConcat (p :: ps))).withSpan span).concatParts = p.concatParts ++ ps :=
  rfl

/-- The chain's head and parts are what `catParts` takes apart. -/
theorem catParts_of_chain {n h : Node} {ss : List Node} (hc : n.CatChain h ss) :
    catParts n = (h, ss) := by
  induction hc with
  | @head h hh =>
    rcases h with ⟨sp, nl, k⟩
    unfold catParts
    split
    · rename_i heq
      exact absurd (Node.mk.inj heq).2.2 (hh _ _)
    · rfl
  | cat _ ih => simp [catParts, ih]

/-- Every node is the chain of the head and parts `catParts` takes apart. -/
theorem chain_catParts (n : Node) : n.CatChain (catParts n).1 (catParts n).2 := by
  fun_induction catParts n with
  | case1 sp nl first second head seconds hparts ih =>
    rw [hparts] at ih
    exact ih.cat
  | case2 n hn =>
    obtain ⟨sp, nl, k⟩ := n
    exact .head fun a b heq => hn sp nl a b (congrArg (Node.mk sp nl) heq)

/-- Walking a chain from the outside in pushes its parts onto the stack above `pending`, the
outermost first: the innermost part ends on top. -/
theorem catStack_of_chain {n h : Node} {ss : List Node} (hc : n.CatChain h ss)
    (pending : List Node) : catStack n pending = (h, pending ++ ss.reverse) := by
  induction hc generalizing pending with
  | @head h hh =>
    rw [catStack.eq_2 h pending fun sp nl a b heq => hh a b (by subst heq; rfl)]
    simp
  | cat _ ih => simp [catStack, ih]

section Chain

variable (r : Recur)

/-- The lowering of a chain: the head, then the parts taken off the stack. The stack holds the
last part at the bottom and the chain's parts above it, the innermost on top, so taking them off
in reverse gives the parts in source order. -/
theorem argsCat_of_chain {first h : Node} {ss : List Node} (hc : first.CatChain h ss)
    (second : Node) (span : Span) :
    argsCat r first second span = (do
      let head ← r.expr h
      let spreads ← (ss ++ [second]).mapM fun s => do return Op.spread (← r.expr s)
      atSpan (Op.ofForm (.arrayConcat (head :: spreads))) span) := by
  have hstack : catStack first [second] = (h, [second] ++ ss.reverse) :=
    catStack_of_chain hc [second]
  have hrev : ([second] ++ ss.reverse).reverse = ss ++ [second] := by simp
  simp only [argsCat, hstack, hrev, Op.spread]

/-- The lowering of `[*a, *b]` read through the head and parts of the chain `a`. -/
theorem argsCat_eq_catParts (first second : Node) (span : Span) :
    argsCat r first second span = (do
      let head ← r.expr (catParts first).1
      let spreads ← ((catParts first).2 ++ [second]).mapM fun s => do
        return Op.spread (← r.expr s)
      atSpan (Op.ofForm (.arrayConcat (head :: spreads))) span) :=
  argsCat_of_chain r (chain_catParts first) second span

/-- Without flattening, a chain's concatenations join the head's arrays and then the spread
parts, the head lowered first and then each part in source order. -/
theorem concatParts_argsCatNested {first h : Node} {ss : List Node} (hc : first.CatChain h ss)
    (second : Node) (span : Span) :
    Op.concatParts <$> argsCatNested r first second span = do
      let head ← r.expr h
      let spreads ← (ss ++ [second]).mapM fun s => do return Op.spread (← r.expr s)
      return head.concatParts ++ spreads := by
  induction hc generalizing second span with
  | @head h hh =>
    rw [argsCatNested.eq_2 r h second span fun sp nl a b heq => hh a b (by subst heq; rfl)]
    simp [atSpan_ofForm]
  | @cat sp nl first h s ss _ ih =>
    -- the inner concatenation lowers the rest of the chain, and its arrays come first
    calc Op.concatParts <$> argsCatNested r (.mk sp nl (.argsCat first s)) second span
        = (Op.concatParts <$> argsCatNested r first s sp) >>= fun l => do
            let v ← r.expr second
            return l ++ [Op.spread v] := by
          simp [argsCatNested.eq_1, atSpan_ofForm, bind_map_left]
      _ = _ := by
          rw [ih s sp]
          simp [List.append_assoc]

/-- **A chain of spread concatenations is lowered flat.** For a left-nested chain
`ArgsCat(... ArgsCat(head, s₁) ..., sₖ₋₁)` followed by `sₖ`, the lowering lowers the head and
then `s₁, ..., sₖ` in order, and concatenates the head with each part cast to an array. Up to
associativity of concatenation it is the lowering without flattening: both make the same steps
and join the same arrays. -/
theorem argsCat_flattens {first h : Node} {ss : List Node} (hc : first.CatChain h ss)
    (second : Node) (span : Span) :
    argsCat r first second span = (do
      let head ← r.expr h
      let spreads ← (ss ++ [second]).mapM fun s => do return Op.spread (← r.expr s)
      atSpan (Op.ofForm (.arrayConcat (head :: spreads))) span) ∧
    Op.concatParts <$> argsCat r first second span =
      Op.concatParts <$> argsCatNested r first second span := by
  have hflat := argsCat_of_chain r hc second span
  refine ⟨hflat, ?_⟩
  rw [concatParts_argsCatNested r hc, hflat]
  simp [atSpan_ofForm]

/-- `[*[], *B, *C]`: the empty array with two constants spread after it. -/
theorem argsCat_flattens_pair :
    Node.CatChain (.mk ⟨0, 7⟩ false (.argsCat (.mk ⟨1, 2⟩ false .zeroArray)
        (.mk ⟨5, 1⟩ false (.const "B")))) (.mk ⟨1, 2⟩ false .zeroArray)
      [.mk ⟨5, 1⟩ false (.const "B")] ∧
    (argsCat ⟨fun _ => pure Op.nil, fun _ v => pure v⟩
        (.mk ⟨0, 7⟩ false (.argsCat (.mk ⟨1, 2⟩ false .zeroArray) (.mk ⟨5, 1⟩ false (.const "B"))))
        (.mk ⟨9, 1⟩ false (.const "C")) ⟨0, 10⟩ = (do
      let head ← (pure Op.nil : Lower Op)
      let spreads ← [Node.mk ⟨5, 1⟩ false (.const "B"), .mk ⟨9, 1⟩ false (.const "C")].mapM
        fun _ => do return Op.spread (← (pure Op.nil : Lower Op))
      atSpan (Op.ofForm (.arrayConcat (head :: spreads))) ⟨0, 10⟩) ∧
    Op.concatParts <$> argsCat ⟨fun _ => pure Op.nil, fun _ v => pure v⟩
        (.mk ⟨0, 7⟩ false (.argsCat (.mk ⟨1, 2⟩ false .zeroArray) (.mk ⟨5, 1⟩ false (.const "B"))))
        (.mk ⟨9, 1⟩ false (.const "C")) ⟨0, 10⟩ =
      Op.concatParts <$> argsCatNested ⟨fun _ => pure Op.nil, fun _ v => pure v⟩
        (.mk ⟨0, 7⟩ false (.argsCat (.mk ⟨1, 2⟩ false .zeroArray) (.mk ⟨5, 1⟩ false (.const "B"))))
        (.mk ⟨9, 1⟩ false (.const "C")) ⟨0, 10⟩) := by
  have hc : Node.CatChain (.mk ⟨0, 7⟩ false (.argsCat (.mk ⟨1, 2⟩ false .zeroArray)
      (.mk ⟨5, 1⟩ false (.const "B")))) (.mk ⟨1, 2⟩ false .zeroArray)
      [.mk ⟨5, 1⟩ false (.const "B")] :=
    .cat (.head fun _ _ h => by cases h)
  exact ⟨hc, argsCat_flattens _ hc _ _⟩

end Chain

end Lower

end RubyLower
