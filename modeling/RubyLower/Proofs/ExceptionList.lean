import RubyLower.Proofs.Rules.Dispatch

/-!
# Exception lists become clauses in source order

`rescue A, *list, B` arrives as nested concatenations, `ArgsPush(ArgsCat(Array [A], list), B)`:
a left spine of `ArgsCat` and `ArgsPush` nodes over a list or a splat. `Node.exceptionItems`
reads the guards off such a tree from left to right, the leaf first and then the second child of
each concatenation from the bottom up, or gives the node found where the leaf should be.

The lowering takes the tree apart with a worklist: each concatenation taken off its front puts
back its list part in front of its second part, and the worklist ends because the sizes of the
pending subtrees fall at every step. `Lower.rescueList_eq_mapM` says what it does: for a tree of
that shape it is the lowering of its items one after the other, each item's guard lowered and
then the clause body lowered once more for it, where `retry` is allowed (`Lower.guardClause`);
any other leaf stops it with an unsupported-shape fault before it lowers anything. The order
rests on the worklist making the clauses of its parts front first (`Lower.rescueWork_eq`).
-/

namespace RubyLower

namespace Node

/-- The guards of an exception list, left to right, or the node that stands where a list or a
splat should. -/
def exceptionItems : Node → Except Node (List (RescueGuard Node))
  | .mk sp nl k =>
    match k with
    | .array els => .ok [.classes els]
    | .splat v => .ok [.splat v]
    | .argsCat first second => (exceptionItems first).map (· ++ [.splat second])
    | .argsPush first second => (exceptionItems first).map (· ++ [.classes [second]])
    | _ => .error (.mk sp nl k)

end Node

namespace Lower

/-- The clause of one guard: the guard's parts lowered, then the clause body, where `retry` is
allowed. -/
def guardClause (r : Recur) (c : RescueArm Node) (span : Span) :
    RescueGuard Node → Lower (RescueClause Op)
  | .any => do
    let body ← withModes (fun m => { m with inRescue := true }) (exprOrNil r c.body span)
    return ⟨.any, body⟩
  | .classes els => do
    let classes ← exprs r els
    let body ← withModes (fun m => { m with inRescue := true }) (exprOrNil r c.body span)
    return ⟨.classes classes, body⟩
  | .splat v => do
    let list ← r.expr v
    let body ← withModes (fun m => { m with inRescue := true }) (exprOrNil r c.body span)
    return ⟨.splat list, body⟩

section ExceptionList

variable (r : Recur) (c : RescueArm Node) (span : Span)

/-- Lowering one more guard after a list of them: the list's clauses, then the guard's. -/
theorem mapM_guardClause_append (items : List (RescueGuard Node)) (g : RescueGuard Node) :
    (items ++ [g]).mapM (guardClause r c span) = do
      let before ← items.mapM (guardClause r c span)
      let cl ← guardClause r c span g
      return before ++ [cl] := by
  simp [List.mapM_append]

/-- A node that is no list, splat or concatenation is the node at fault. -/
theorem exceptionItems_of_leaf {n : Node}
    (h1 : ∀ sp nl els, n = .mk sp nl (.array els) → False)
    (h2 : ∀ sp nl v, n = .mk sp nl (.splat v) → False)
    (h3 : ∀ sp nl first second, n = .mk sp nl (.argsCat first second) → False)
    (h4 : ∀ sp nl first second, n = .mk sp nl (.argsPush first second) → False) :
    n.exceptionItems = .error n := by
  rcases n with ⟨sp, nl, k⟩
  unfold Node.exceptionItems
  split
  · exact (h1 sp nl _ rfl).elim
  · exact (h2 sp nl _ rfl).elim
  · exact (h3 sp nl _ _ rfl).elim
  · exact (h4 sp nl _ _ rfl).elim
  · rfl

/-- **The clauses of an exception list, in source order.** For a left spine of concatenations
over a list or a splat, lowering the exception list lowers its items from left to right, each
item's guard and then the clause body; at any other leaf it stops with an unsupported-shape
fault. -/
theorem rescueList_eq_mapM (n : Node) :
    (∀ items, n.exceptionItems = .ok items →
      rescueList r c span n = items.mapM (guardClause r c span)) ∧
    ∀ bad, n.exceptionItems = .error bad →
      rescueList r c span n = fail .unsupportedShape .unsupportedRescueList [bad.kind.name] bad.span ∧
        Message.unsupportedRescueList.code = 2005 := by
  rw [rescueList_eq_nested]
  fun_induction rescueNested r c span n with
  | case1 _ _ els =>
    refine ⟨fun items h => ?_, fun bad h => by cases h⟩
    cases h
    simp [guardClause, clauseBody]
  | case2 _ _ v =>
    refine ⟨fun items h => ?_, fun bad h => by cases h⟩
    cases h
    simp [guardClause, clauseBody]
  | case3 _ _ first second ih =>
    -- the items of the spine below, then the splatted second child
    simp only [Node.exceptionItems]
    cases hfirst : first.exceptionItems with
    | ok items =>
      refine ⟨fun items' h => ?_, fun bad h => by cases h⟩
      cases h
      rw [ih.1 items hfirst, mapM_guardClause_append]
      simp [guardClause, clauseBody]
    | error bad =>
      refine ⟨(fun items h => by cases h), fun bad' h => ?_⟩
      cases h
      exact ⟨by rw [(ih.2 bad hfirst).1]; rfl, rfl⟩
  | case4 _ _ first second ih =>
    -- the items of the spine below, then the second child as a class list of one
    simp only [Node.exceptionItems]
    cases hfirst : first.exceptionItems with
    | ok items =>
      refine ⟨fun items' h => ?_, fun bad h => by cases h⟩
      cases h
      rw [ih.1 items hfirst, mapM_guardClause_append]
      simp [guardClause, clauseBody, exprs]
    | error bad =>
      refine ⟨(fun items h => by cases h), fun bad' h => ?_⟩
      cases h
      exact ⟨by rw [(ih.2 bad hfirst).1]; rfl, rfl⟩
  | case5 other h1 h2 h3 h4 =>
    rw [exceptionItems_of_leaf h1 h2 h3 h4]
    exact ⟨(fun items h => by cases h), fun bad h => by cases h; exact ⟨rfl, rfl⟩⟩

/-- `rescue A, *b, C` gives three clauses: the class `A`, the splat of `b` and the class `C`. -/
theorem rescueList_eq_mapM_splatBetween :
    (Node.mk ⟨0, 9⟩ false (.argsPush
      (.mk ⟨0, 6⟩ false (.argsCat (.mk ⟨0, 1⟩ false (.array [.mk ⟨0, 1⟩ false (.const "A")]))
        (.mk ⟨4, 1⟩ false (.vcall "b"))))
      (.mk ⟨8, 1⟩ false (.const "C")))).exceptionItems =
        .ok [.classes [.mk ⟨0, 1⟩ false (.const "A")], .splat (.mk ⟨4, 1⟩ false (.vcall "b")),
          .classes [.mk ⟨8, 1⟩ false (.const "C")]] ∧
      rescueList (recurAt 2) ⟨⟨0, 12⟩, none, none⟩ ⟨0, 12⟩ (Node.mk ⟨0, 9⟩ false (.argsPush
        (.mk ⟨0, 6⟩ false (.argsCat (.mk ⟨0, 1⟩ false (.array [.mk ⟨0, 1⟩ false (.const "A")]))
          (.mk ⟨4, 1⟩ false (.vcall "b"))))
        (.mk ⟨8, 1⟩ false (.const "C")))) =
        [.classes [.mk ⟨0, 1⟩ false (.const "A")], .splat (.mk ⟨4, 1⟩ false (.vcall "b")),
          .classes [.mk ⟨8, 1⟩ false (.const "C")]].mapM
          (guardClause (recurAt 2) ⟨⟨0, 12⟩, none, none⟩ ⟨0, 12⟩) :=
  ⟨rfl, (rescueList_eq_mapM _ _ _ _).1 _ rfl⟩

end ExceptionList

end Lower

end RubyLower
