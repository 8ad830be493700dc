import RubyLower.Proofs.BodyLocals.Units
import RubyLower.Proofs.Rules.Rescue

/-!
# The locals of `for` bodies: every rule

Each rule keeps the environment guarded (`Lower.KeepsBodies`) when the recursive calls do and the
nodes it lowers name only locals of `S`. Most rules are chains of steps that keep it. The steps
that declare a name are where the names come from: a read declares the name it reads, which the
node names (`Node.UsesOnly`); an assignment declares only in a frame with a scope of its own
(`Lower.assignmentSlot_keepsBodies`); a named capture declares in the nearest such frame and then
sees it (`Lower.captureSetters_guards`); `super` without arguments reads parameters the method
frame has declared (`Lower.readParam_guards`); a temporary is internal. A `for` loop lowers its
call with the body's frame and keeps the invariant there (`Lower.forCall_guards`).

`Lower.dispatch_keepsBodies` takes each kind of node to its rule, and `Lower.recurAt_keepsBodies`
closes the recursion by induction on the fuel.
-/

namespace RubyLower

@[simp] theorem BlockSpec.nodes_ofLiteral (b : BlockLit Node) :
    (BlockSpec.ofLiteral b).nodes = b.params.nodes ++ b.body.toList := by
  simp [BlockSpec.nodes, BlockSpec.ofLiteral]

@[simp] theorem BlockArg.nodes_ofIter (iter : Option Node) :
    (BlockArg.ofIter iter).nodes = iter.toList := by
  cases iter <;> rfl

namespace Lower

open Env

section Reads

variable {S : String → Prop} {k : Nat}

theorem bignum_keepsBodies (digits : String) (span : Span) : (bignum digits span).KeepsBodies S k := by
  unfold bignum
  split
  · exact KeepsBodies.fail _ _ _ _
  · split <;> exact KeepsBodies.pure _

theorem fixnum_keepsBodies (v : Int) (span : Span) : (fixnum v span).KeepsBodies S k := by
  unfold fixnum
  split <;> exact KeepsBodies.atSpan _ _

theorem str_keepsBodies (value : String) (frozen : Bool) (span : Span) :
    (str value frozen span).KeepsBodies S k :=
  options_keepsBodies.bind fun _ => by split <;> exact KeepsBodies.pure _

theorem vcall_keepsBodies (name : String) (span : Span) : (vcall name span).KeepsBodies S k :=
  source_keepsBodies.bind fun _ => by split <;> exact KeepsBodies.pure _

theorem masgnNil_keepsBodies : masgnNil.KeepsBodies S k :=
  modes_keepsBodies.bind fun _ => KeepsBodies.pure _

theorem constantWrite_keepsBodies (read value : Op) (span : Span) :
    (constantWrite read value span).KeepsBodies S k := by
  unfold constantWrite
  split
  · exact KeepsBodies.pure _
  · exact KeepsBodies.pure _
  · exact KeepsBodies.pure _
  · exact KeepsBodies.fail _ _ _ _

theorem inBlock_keepsBodies : inBlock.KeepsBodies S k :=
  frame_keepsBodies.bind fun f => (frameData_keepsBodies f).bind fun _ => KeepsBodies.pure _

theorem redo_keepsBodies (span : Span) : (redo span).KeepsBodies S k := by
  refine inBlock_keepsBodies.bind fun _ => modes_keepsBodies.bind fun _ => ?_
  split
  · exact KeepsBodies.fail _ _ _ _
  · exact KeepsBodies.pure _

theorem retry_keepsBodies (span : Span) : (retry span).KeepsBodies S k := by
  refine modes_keepsBodies.bind fun _ => inBlock_keepsBodies.bind fun _ => ?_
  split
  · exact KeepsBodies.fail _ _ _ _
  · exact KeepsBodies.pure _

theorem methodBlockRead_keepsBodies : methodBlockRead.KeepsBodies S k :=
  frame_keepsBodies.bind fun f => (resolve_keepsBodies f _).bind fun _ => KeepsBodies.pure _

theorem forwardedKeywords_guards {p : Place} {s : Progress} (hp : p.Guarded S k s) {ps : MethodParams}
    (hseen : ∀ n ∈ ps.keywords ++ ps.keywordRest.toList, s.env.Sees p.frame n) :
    (forwardedKeywords ps).Guards S k p s fun _ _ => True := by
  unfold forwardedKeywords
  split
  · exact Guards.pure hp.env trivial
  · refine (Guards.mapM (P := fun n s' => s'.env.Sees p.frame n) (Q := fun _ _ _ => True)
      (fun _ _ _ hp h he => he.sees hp.frame h) (fun _ _ _ _ _ _ _ => trivial) _ hp
      (fun n hn => hseen n (List.mem_append_left _ hn)) fun n _ s1 hp1 hn1 =>
        (readParam_guards hp1 hn1).bind fun _ _ _ g2 _ => Guards.pure g2 trivial).bind
      fun _ s1 e1 g1 _ => ?_
    dsimp only
    split
    · next kr hkr =>
      refine (readParam_guards (hp.extend e1 g1) (e1.sees hp.frame (hseen kr ?_))).bind
        fun _ _ _ g2 _ => Guards.pure g2 trivial
      simp [hkr]
    · exact Guards.pure g1 trivial

end Reads

section Rules

variable {S : String → Prop} {k : Nat} {r : Recur} (hr : r.KeepsBodies S k)
include hr

/-! ## Literals -/

theorem rational_keepsBodies {a b : Node} (ha : a.UsesOnly S) (hb : b.UsesOnly S) (span : Span) :
    (rational r a b span).KeepsBodies S k :=
  (hr.expr a ha).bind fun _ => (hr.expr b hb).bind fun _ => KeepsBodies.pure _

theorem complex_keepsBodies {a : Node} (ha : a.UsesOnly S) (span : Span) :
    (complex r a span).KeepsBodies S k :=
  (hr.expr a ha).bind fun _ => KeepsBodies.pure _

theorem dstr_keepsBodies {parts : List Node} (hparts : ∀ c ∈ parts, c.UsesOnly S) (span : Span) :
    (dstr r parts span).KeepsBodies S k :=
  (exprs_keepsBodies hr hparts).bind fun _ => KeepsBodies.pure _

theorem dsymbol_keepsBodies {parts : List Node} (hparts : ∀ c ∈ parts, c.UsesOnly S) (span : Span) :
    (dsymbol r parts span).KeepsBodies S k :=
  (exprs_keepsBodies hr hparts).bind fun _ => KeepsBodies.pure _

theorem dxstr_keepsBodies {parts : List Node} (hparts : ∀ c ∈ parts, c.UsesOnly S) (span : Span) :
    (dxstr r parts span).KeepsBodies S k :=
  (exprs_keepsBodies hr hparts).bind fun _ => KeepsBodies.pure _

theorem evstr_keepsBodies {body : Option Node} (hbody : ∀ c ∈ body, c.UsesOnly S) (span : Span) :
    (evstr r body span).KeepsBodies S k := by
  unfold evstr
  split
  · exact KeepsBodies.pure _
  · exact (hr.expr _ (hbody _ rfl)).bind fun _ => KeepsBodies.pure _

theorem dregexp_keepsBodies {parts : List Node} (hparts : ∀ c ∈ parts, c.UsesOnly S)
    (flags : RegexpFlags) (span : Span) : (dregexp r parts flags span).KeepsBodies S k :=
  (exprs_keepsBodies hr hparts).bind fun _ => by
    dsimp only
    split <;> exact KeepsBodies.pure _

theorem matchLastLine_keepsBodies {re : Node} (hre : re.UsesOnly S) (span : Span) :
    (matchLastLine r re span).KeepsBodies S k :=
  (hr.expr re hre).bind fun _ => KeepsBodies.pure _

/-- A match against a literal with named groups declares each group in the nearest frame with a
scope of its own, where the match sees it. -/
theorem match2_keepsBodies {receiver value : Node} (hrecv : receiver.UsesOnly S)
    (hvalue : value.UsesOnly S) (span : Span) : (match2 r receiver value span).KeepsBodies S k := by
  refine (hr.expr receiver hrecv).bind fun _ => (hr.expr value hvalue).bind fun _ =>
    (KeepsBodies.atSpan _ _).bind fun _ => ?_
  dsimp only
  split
  · split
    · exact KeepsBodies.pure _
    · intro p s hp
      refine (temp_keepsBodies _ p s hp).bind fun md s1 e1 g1 _ => ?_
      have hp1 := hp.extend e1 g1
      refine Guards.bind_read env_post (Guards.bind_read frame_post ?_)
      -- the frame the groups go to has a scope of its own, and stays the one the match sees
      have hin := g1.ownScopeAt hp1.frame
      refine (Guards.mapM (P := fun _ s' => s'.env.OwnScopeAt p.frame (s1.env.nearestOwnScope p.frame))
        (Q := fun _ _ _ => True) (fun _ _ _ hp h he => h.extend he hp.frame) (fun _ _ _ _ _ _ _ => trivial)
        _ hp1 (fun _ _ => hin) fun name _ s2 hp2 hin2 => captureSetters_guards hp2 hin2 md name).bind
        fun _ s2 _ g2 _ => Guards.pure g2 trivial
  · exact KeepsBodies.pure _

theorem hashStep_keepsBodies (acc : List Op × List (Op × Op)) {pair : Option Node × Node}
    (hkey : ∀ c ∈ pair.1, c.UsesOnly S) (hvalue : pair.2.UsesOnly S) :
    (hashStep r acc pair).KeepsBodies S k := by
  unfold hashStep
  split
  · exact (hr.expr _ (hkey _ rfl)).bind fun _ => (hr.expr _ hvalue).bind fun _ => KeepsBodies.pure _
  · exact (hr.expr _ hvalue).bind fun _ => KeepsBodies.pure _

theorem hash_keepsBodies {pairs : List (Option Node × Node)}
    (hpairs : ∀ c ∈ pairs.flatMap fun kv => kv.1.toList ++ [kv.2], c.UsesOnly S) (span : Span) :
    (hash r pairs span).KeepsBodies S k := by
  refine (KeepsBodies.foldlM (fun acc pair hpair => hashStep_keepsBodies hr acc
    (fun c hc => hpairs c (List.mem_flatMap.2 ⟨pair, hpair, List.mem_append_left _ (Option.mem_toList.2 hc)⟩))
    (hpairs _ (List.mem_flatMap.2 ⟨pair, hpair, by simp⟩))) _).bind fun x => ?_
  obtain ⟨parts, pending⟩ := x
  dsimp only
  split <;> exact KeepsBodies.atSpan _ _

theorem range_keepsBodies {low high : Option Node} (hlow : ∀ c ∈ low, c.UsesOnly S)
    (hhigh : ∀ c ∈ high, c.UsesOnly S) (exclusive : Bool) (span : Span) :
    (range r low high exclusive span).KeepsBodies S k := by
  unfold range
  extract_lets afterLow
  have hafterLow : ∀ lo, (afterLow lo).KeepsBodies S k := by
    intro lo
    dsimp -zeta only [afterLow]
    extract_lets afterHigh
    have hafterHigh : ∀ hi, (afterHigh hi).KeepsBodies S k := fun _ => KeepsBodies.pure _
    split
    · exact (hr.expr _ (hhigh _ rfl)).bind hafterHigh
    · exact (KeepsBodies.pure _).bind hafterHigh
  split
  · exact (hr.expr _ (hlow _ rfl)).bind hafterLow
  · exact (KeepsBodies.pure _).bind hafterLow

/-- A flip-flop's state is a temporary of the place's frame. -/
theorem flipFlop_keepsBodies {low high : Node} (hlow : low.UsesOnly S) (hhigh : high.UsesOnly S)
    (exclusive : Bool) (span : Span) : (flipFlop r low high exclusive span).KeepsBodies S k :=
  (hr.expr low hlow).bind fun _ => (hr.expr high hhigh).bind fun _ => fun _ _ hp =>
    Guards.bind_read frame_post (Guards.bind (Q := fun _ _ => True) (Post.onEnv ⟨Extends.allocFlipFlop _ _,
      hp.env.allocFlipFlop hp.frame, trivial⟩) fun _ _ _ g1 _ => Guards.pure g1 trivial)

/-! ## Calls -/

theorem argsCat_keepsBodies {first second : Node} (hfirst : first.UsesOnly S)
    (hsecond : second.UsesOnly S) (span : Span) : (argsCat r first second span).KeepsBodies S k := by
  rw [argsCat_eq_catParts]
  -- the head and the parts of the chain are within its first node
  have hparts : ∀ c ∈ (catParts first).1 :: (catParts first).2, c.UsesOnly S :=
    fun c hc => hfirst.of_within (Node.within_of_mem_catParts hc)
  refine (hr.expr _ (hparts _ List.mem_cons_self)).bind fun _ =>
    (KeepsBodies.mapM fun n hn => (hr.expr n ?_).bind fun _ => KeepsBodies.pure _).bind fun _ =>
      KeepsBodies.atSpan _ _
  rcases List.mem_append.1 hn with hn | hn
  · exact hparts n (List.mem_cons_of_mem _ hn)
  · rw [List.mem_singleton.1 hn]
    exact hsecond

theorem argsPush_keepsBodies {first second : Node} (hfirst : first.UsesOnly S)
    (hsecond : second.UsesOnly S) (span : Span) : (argsPush r first second span).KeepsBodies S k :=
  (hr.expr first hfirst).bind fun _ => (hr.expr second hsecond).bind fun _ => KeepsBodies.atSpan _ _

theorem primitive_keepsBodies (name : String) {args : Option Node}
    (hargs : ∀ c ∈ args, c.UsesOnly S) (span : Span) : (primitive r name args span).KeepsBodies S k := by
  refine source_keepsBodies.bind fun _ => ?_
  split
  · exact KeepsBodies.fail _ _ _ _
  · refine (arguments_keepsBodies hr hargs span).bind fun x => ?_
    obtain ⟨arguments, splatted⟩ := x
    dsimp only
    split
    · exact KeepsBodies.fail _ _ _ _
    · exact KeepsBodies.atSpan _ _

theorem internalCall_keepsBodies (name : String) {iter : Option Node}
    (hiter : ∀ c ∈ iter, c.UsesOnly S) (span : Span) :
    (internalCall r name iter span).KeepsBodies S k := by
  unfold internalCall
  split
  · split
    · next b hb =>
      -- the block's body is a child of the block node
      obtain ⟨n, hn, hk⟩ := Option.map_eq_some_iff.1 hb
      refine ((exprOrNil_keepsBodies hr (fun c hc => (hiter n hn).child ?_) _).withModes
        (f := fun m => { m with privately := true }) fun _ => rfl).bind fun _ => KeepsBodies.pure _
      rw [hk, Kind.children, List.mem_append, Option.mem_toList]
      exact .inr hc
    · exact KeepsBodies.fail _ _ _ _
  · split
    · exact (KeepsBodies.atSpan _ _).bind fun _ => KeepsBodies.pure _
    · split
      · exact (KeepsBodies.atSpan _ _).bind fun _ => KeepsBodies.pure _
      · exact KeepsBodies.pure _

theorem notProvidedTest_keepsBodies {args : Option Node} (hargs : ∀ c ∈ args, c.UsesOnly S)
    (span : Span) : (notProvidedTest r args span).KeepsBodies S k := by
  unfold notProvidedTest
  split
  · next v hv =>
    obtain ⟨n, hn, hk⟩ := Option.map_eq_some_iff.1 hv
    exact (hr.expr v ((hargs n hn).child (by simp [hk, Kind.children]))).bind fun _ =>
      KeepsBodies.atSpan _ _
  · exact KeepsBodies.fail _ _ _ _

theorem call_keepsBodies {receiver : Node} (hrecv : receiver.UsesOnly S) (name : String)
    {args iter : Option Node} (hargs : ∀ c ∈ args, c.UsesOnly S) (hiter : ∀ c ∈ iter, c.UsesOnly S)
    (lazy : Bool) (span : Span) : (call r receiver name args iter lazy span).KeepsBodies S k := by
  unfold call
  extract_lets frozenLiteral afterExpand
  have hafter : ∀ e, (afterExpand e).KeepsBodies S k := by
    intro e
    dsimp -zeta only [afterExpand]
    split
    · exact KeepsBodies.pure _
    · exact (hr.expr receiver hrecv).bind fun _ => callNode_keepsBodies hr _ _ hargs
        (by simpa using hiter) _ _
  clear_value frozenLiteral
  cases frozenLiteral with
  | some value => exact KeepsBodies.atSpan _ _
  | none =>
    dsimp only
    split
    · split
      · exact ((primitive_keepsBodies hr name hargs span).map _).bind hafter
      · split
        · exact (internalCall_keepsBodies hr name hiter span).bind hafter
        · exact (KeepsBodies.pure _).bind hafter
    · refine source_keepsBodies.bind fun _ => ?_
      split
      · exact ((notProvidedTest_keepsBodies hr hargs span).map _).bind hafter
      · exact (KeepsBodies.pure _).bind hafter
    · exact (KeepsBodies.pure _).bind hafter

theorem fcall_keepsBodies (name : String) {args iter : Option Node}
    (hargs : ∀ c ∈ args, c.UsesOnly S) (hiter : ∀ c ∈ iter, c.UsesOnly S) (span : Span) :
    (fcall r name args iter span).KeepsBodies S k :=
  callNode_keepsBodies hr _ _ hargs (by simpa using hiter) _ _

theorem attrAssign_keepsBodies {receiver : Node} (hrecv : receiver.UsesOnly S) (name : String)
    {args : Option Node} (hargs : ∀ c ∈ args, c.UsesOnly S) (lazy : Bool) (span : Span) :
    (attrAssign r receiver name args lazy span).KeepsBodies S k :=
  (hr.expr receiver hrecv).bind fun _ =>
    callNode_keepsBodies hr _ _ hargs (fun _ h => by cases h) _ _

theorem superCall_keepsBodies {args iter : Option Node} (hargs : ∀ c ∈ args, c.UsesOnly S)
    (hiter : ∀ c ∈ iter, c.UsesOnly S) (span : Span) : (superCall r args iter span).KeepsBodies S k :=
  (arguments_keepsBodies hr hargs span).bind fun _ =>
    (blockArg_keepsBodies hr (by simpa using hiter)).bind fun _ =>
      (KeepsBodies.atSpan _ _).bind fun _ => KeepsBodies.pure _

theorem postExe_keepsBodies {body : Option Node} (hbody : ∀ c ∈ body, c.UsesOnly S) (span : Span) :
    (postExe r body span).KeepsBodies S k :=
  finishCall_keepsBodies hr _ _ _ _ (fun c hc => hbody c (by
    simpa [BlockArg.nodes, BlockSpec.nodes, Params.nodes] using hc)) _ _

/-! ## `super` without arguments and `yield`

`super` without arguments reads the parameters its method frame records, each of them declared
there and so seen from the place's frame: reading them declares nothing. -/

theorem zsuper_keepsBodies {iter : Option Node} (hiter : ∀ c ∈ iter, c.UsesOnly S) (span : Span) :
    (zsuper r iter span).KeepsBodies S k := by
  intro p s hp
  unfold zsuper
  refine Guards.bind_read env_post (Guards.bind_read frame_post ?_)
  extract_lets m afterArgs
  refine Guards.bind_read (frameData_post _) ?_
  extract_lets ps
  -- every parameter the method frame records is declared there, so the place's frame sees it
  have hseen : ∀ n ∈ ps.forwarded, s.env.Sees p.frame n := fun _ hn => hp.env.sees_param hn
  have hlead : ∀ n ∈ ps.pre ++ ps.optional, n ∈ ps.forwarded := fun n hn => by
    simp only [MethodParams.forwarded, List.mem_append] at hn ⊢; tauto
  have hpost : ∀ n ∈ ps.post, n ∈ ps.forwarded := fun n hn => by
    simp only [MethodParams.forwarded, List.mem_append]; tauto
  have hkeywords : ∀ n ∈ ps.keywords ++ ps.keywordRest.toList, n ∈ ps.forwarded := fun n hn => by
    simp only [MethodParams.forwarded, List.mem_append] at hn ⊢; tauto
  have hafterArgs : ∀ x s', p.Guarded S k s' → (afterArgs x).Guards S k p s' fun _ _ => True := by
    intro x s' hp'
    dsimp -zeta only [afterArgs]
    extract_lets afterBlock
    have hafterBlock : ∀ y s'', s''.env.Guarded S k →
        (afterBlock y).Guards S k p s'' fun _ _ => True := by
      intro y s'' g
      dsimp -zeta only [afterBlock]
      exact (Guards.atSpan (Q := fun _ _ => True) g trivial).bind fun _ _ _ g' _ =>
        Guards.pure g' trivial
    split
    · exact Guards.bind_keeps (blockArg_keepsBodies hr (by simpa using hiter)) hp'
        fun y s'' _ g => hafterBlock y s'' g
    · exact Guards.bind_keeps methodBlockRead_keepsBodies hp' fun _ s'' _ g =>
        Guards.bind_read (Post.pure ⟨rfl, rfl⟩) (hafterBlock _ s'' g)
  have hsees : ∀ (x : String) (s s' : Progress), p.Guarded S k s → s.env.Sees p.frame x →
      s.env.Extends s'.env →
      s'.env.Sees p.frame x := fun _ _ _ hp h he => he.sees hp.frame h
  refine (Guards.mapM (Q := fun _ _ _ => True) hsees (fun _ _ _ _ _ _ _ => trivial) _ hp
    (fun n hn => hseen n (hlead n hn))
    fun n _ s1 hp1 hn1 => readParam_guards hp1 hn1).bind fun _ s1 e1 g1 _ => ?_
  have hp1 := hp.extend e1 g1
  refine (Guards.mapM (Q := fun _ _ _ => True) hsees (fun _ _ _ _ _ _ _ => trivial) _ hp1
    (fun n hn => e1.sees hp.frame (hseen n (hpost n hn)))
    fun n _ s2 hp2 hn2 => readParam_guards hp2 hn2).bind fun _ s2 e2 g2 _ => ?_
  have hp2 := hp1.extend e2 g2
  refine (forwardedKeywords_guards hp2 fun n hn =>
    (e1.trans e2).sees hp.frame (hseen n (hkeywords n hn))).bind fun _ s3 e3 g3 _ => ?_
  have hp3 := hp2.extend e3 g3
  cases hrest : ps.rest with
  | some rest =>
    have hrestIn : rest ∈ ps.forwarded := by simp [MethodParams.forwarded, hrest]
    refine (readParam_guards hp3 ((e1.trans (e2.trans e3)).sees hp.frame
      (hseen rest hrestIn))).bind fun _ s4 e4 g4 _ => ?_
    exact (Guards.pure (Q := fun _ _ => True) g4 trivial).bind fun x s5 e5 g5 _ =>
      hafterArgs x s5 ((hp3.extend e4 g4).extend e5 g5)
  | none =>
    exact (Guards.pure (Q := fun _ _ => True) g3 trivial).bind fun x s4 e4 g4 _ =>
      hafterArgs x s4 (hp3.extend e4 g4)

theorem yieldCall_keepsBodies {args : Option Node} (hargs : ∀ c ∈ args, c.UsesOnly S) (span : Span) :
    (yieldCall r args span).KeepsBodies S k := by
  unfold yieldCall
  extract_lets afterArgs
  have hafterArgs : ∀ x, (afterArgs x).KeepsBodies S k := by
    intro x
    dsimp -zeta only [afterArgs]
    exact methodBlockRead_keepsBodies.bind fun _ => KeepsBodies.atSpan _ _
  have hlist := (arguments_keepsBodies hr hargs span).bind hafterArgs
  split
  · split
    all_goals first
      | exact hlist
      | exact (hr.expr _ (hargs _ rfl)).bind fun _ => (KeepsBodies.pure _).bind hafterArgs
  · exact hlist

/-! ## Assignments -/

theorem localAssignment_keepsBodies (name : String) {value : Option Node}
    (hvalue : ∀ c ∈ value, c.UsesOnly S) (span : Span) :
    (localAssignment r name value span).KeepsBodies S k :=
  (assignmentSlot_keepsBodies name).bind fun _ => (valueOrDead_keepsBodies hr hvalue _).bind
    fun _ => KeepsBodies.atSpan _ _

theorem assignAttribute_keepsBodies {receiver : Node} (hrecv : receiver.UsesOnly S) (name : String)
    {args : Option Node} (hargs : ∀ c ∈ args, c.UsesOnly S) (lazy : Bool) (value : Op) (span : Span) :
    (assignAttribute r receiver name args lazy value span).KeepsBodies S k := by
  refine (hr.expr receiver hrecv).bind fun _ => ?_
  extract_lets afterArgs
  have hafterArgs : ∀ x, (afterArgs x).KeepsBodies S k := by
    intro x
    obtain ⟨arguments, splatted⟩ := x
    exact finishCall_keepsBodies hr _ _ _ _ (fun _ h => by cases h) _ _
  split
  · exact (KeepsBodies.pure _).bind hafterArgs
  · next a =>
    have ha := hargs a rfl
    split
    · next els hk =>
      exact (exprs_keepsBodies hr fun c hc => ha.child (by simp [hk, Kind.children, hc])).bind
        fun _ => (KeepsBodies.pure _).bind hafterArgs
    all_goals first
      | exact (hr.expr _ ha).bind fun _ => (KeepsBodies.pure _).bind hafterArgs
      | exact (KeepsBodies.fail _ _ _ _).bind hafterArgs

theorem masgnParallel_keepsBodies {pre : List Node} (hpre : ∀ c ∈ pre, c.UsesOnly S) (rhs : Op) :
    (masgnParallel r pre rhs).KeepsBodies S k := by
  unfold masgnParallel
  split
  · exact (KeepsBodies.mapM fun _ _ => (temp_keepsBodies _).bind fun _ => KeepsBodies.pure _).bind
      fun _ => (KeepsBodies.mapM fun x hx => hr.target x.1 _ (hpre x.1 (List.of_mem_zip hx).1)).bind
        fun _ => KeepsBodies.pure _
  · exact KeepsBodies.pure _

theorem masgnIndexed_keepsBodies {pre : List Node} (hpre : ∀ c ∈ pre, c.UsesOnly S)
    {rest : Option Node} (hrest : ∀ c ∈ rest, c.UsesOnly S) {post : List Node}
    (hpost : ∀ c ∈ post, c.UsesOnly S) (rhs : Op) (useToAry : Bool) :
    (masgnIndexed r pre rest post rhs useToAry).KeepsBodies S k := by
  refine (temp_keepsBodies _).bind fun _ => (temp_keepsBodies _).bind fun _ =>
    masgnNil_keepsBodies.bind fun _ => ?_
  extract_lets load preCount postCount
  refine (KeepsBodies.mapM fun x hx => hr.target x.2 _ (hpre x.2 (List.of_mem_zip hx).2)).bind
    fun _ => ?_
  extract_lets afterMiddle
  have hafterMiddle : ∀ middle, (afterMiddle middle).KeepsBodies S k := by
    intro middle
    dsimp -zeta only [afterMiddle]
    exact (KeepsBodies.mapM fun x hx => hr.target x.2 _ (hpost x.2 (List.of_mem_zip hx).2)).bind
      fun _ => KeepsBodies.pure _
  split
  · exact (hr.target _ _ (hrest _ rfl)).bind fun _ => (KeepsBodies.pure _).bind hafterMiddle
  · exact (KeepsBodies.pure _).bind hafterMiddle

theorem masgnRestOnly_keepsBodies {rest : Node} (hrest : rest.UsesOnly S) (rhs : Op) :
    (masgnRestOnly r rest rhs).KeepsBodies S k := by
  refine masgnNil_keepsBodies.bind fun _ => ?_
  dsimp only
  -- which right side and conversion of nil the splat gives changes no step
  split
  · split <;> exact (temp_keepsBodies _).bind fun _ => (temp_keepsBodies _).bind fun _ =>
      (hr.target _ _ hrest).bind fun _ => KeepsBodies.pure _
  · exact (temp_keepsBodies _).bind fun _ => (temp_keepsBodies _).bind fun _ =>
      (hr.target _ _ hrest).bind fun _ => KeepsBodies.pure _

theorem masgn_keepsBodies {m : MultiAsgn Node} (hpre : ∀ c ∈ m.pre, c.UsesOnly S)
    (hrest : ∀ c ∈ m.rest, c.UsesOnly S) (hpost : ∀ c ∈ m.post, c.UsesOnly S) (rhs : Op)
    (rhsIsList : Bool) : (masgn r m rhs rhsIsList).KeepsBodies S k := by
  unfold masgn
  extract_lets sameArity afterResult
  have hafterResult : ∀ result, (afterResult result).KeepsBodies S k := fun _ => KeepsBodies.atSpan _ _
  split
  · exact (masgnParallel_keepsBodies hr hpre _).bind hafterResult
  · split
    · exact (masgnIndexed_keepsBodies hr hpre hrest hpost _ _).bind hafterResult
    · split
      · split
        · next rn hrn =>
          split
          · exact (KeepsBodies.pure _).bind hafterResult
          · split
            · exact (hr.target _ _ (hrest rn hrn)).bind hafterResult
            · exact (masgnRestOnly_keepsBodies hr (hrest rn hrn) _).bind hafterResult
        · exact (KeepsBodies.fail _ _ _ _).bind hafterResult
      · split
        · exact (masgnIndexed_keepsBodies hr hpre hrest hpost _ _).bind hafterResult
        · exact (KeepsBodies.fail _ _ _ _).bind hafterResult

theorem multipleAssignment_keepsBodies {m : MultiAsgn Node}
    (hm : ∀ c ∈ m.pre ++ m.rest.toList ++ m.post ++ m.value.toList, c.UsesOnly S) :
    (multipleAssignment r m).KeepsBodies S k := by
  unfold multipleAssignment
  split
  · exact KeepsBodies.fail _ _ _ _
  · next v hv =>
    exact (hr.expr _ (hm v (by simp [hv]))).bind fun _ => masgn_keepsBodies hr
      (fun c hc => hm c (by simp [hc])) (fun c hc => hm c (by simp [Option.mem_def.1 hc]))
      (fun c hc => hm c (by simp [hc])) _ _

/-- An assignment target declares only what it names: an assignment goes through
`assignmentSlot`, and a destructured parameter is a name of the node. -/
theorem target_keepsBodies {t : Node} (ht : t.UsesOnly S) (value : Op) :
    (target r t value).KeepsBodies S k := by
  unfold target
  split
  · exact (assignmentSlot_keepsBodies _).bind fun _ => KeepsBodies.atSpan _ _
  · exact (assignmentSlot_keepsBodies _).bind fun _ => KeepsBodies.atSpan _ _
  · next name hk =>
    exact frame_keepsBodies.bind fun f => (declare_keepsBodies f (.inr (ht.self (by
      simp [hk, Kind.localUse])))).bind fun _ => KeepsBodies.atSpan _ _
  · exact KeepsBodies.atSpan _ _
  · exact classVarScope_keepsBodies.bind fun _ => KeepsBodies.atSpan _ _
  · exact KeepsBodies.atSpan _ _
  · next path _ hk =>
    exact (constPathModule_keepsBodies hr fun c hc => ht.child (by simp [hk, Kind.children, hc])).bind
      fun _ => KeepsBodies.atSpan _ _
  · next receiver name args lazy hk =>
    exact assignAttribute_keepsBodies hr (ht.child (by simp [hk, Kind.children])) _
      (fun c hc => ht.child (by simp [hk, Kind.children, Option.mem_def.1 hc])) _ _ _
  · next m hk =>
    exact masgn_keepsBodies hr (fun c hc => ht.child (by simp [hk, Kind.children, hc]))
      (fun c hc => ht.child (by simp [hk, Kind.children, Option.mem_def.1 hc]))
      (fun c hc => ht.child (by simp [hk, Kind.children, hc])) _ _
  · next inner hk =>
    exact hr.target _ _ (ht.child (by simp [hk, Kind.children]))
  · exact KeepsBodies.pure _
  · exact KeepsBodies.fail _ _ _ _

theorem opAsgnAnd_keepsBodies {first second : Node} (hfirst : first.UsesOnly S)
    (hsecond : second.UsesOnly S) (span : Span) : (opAsgnAnd r first second span).KeepsBodies S k :=
  (hr.expr first hfirst).bind fun _ => (hr.expr second hsecond).bind fun _ => KeepsBodies.atSpan _ _

theorem opAsgnOr_keepsBodies {first second : Node} (hfirst : first.UsesOnly S)
    (hsecond : second.UsesOnly S) (span : Span) : (opAsgnOr r first second span).KeepsBodies S k :=
  (hr.expr first hfirst).bind fun _ => (hr.expr second hsecond).bind fun _ => KeepsBodies.atSpan _ _

theorem opAsgnConstDecl_keepsBodies {first second : Node} (hfirst : first.UsesOnly S)
    (operator : String) (hsecond : second.UsesOnly S) (span : Span) :
    (opAsgnConstDecl r first operator second span).KeepsBodies S k := by
  unfold opAsgnConstDecl
  extract_lets valueNode
  -- the value of a constant declaration is below it
  have hvalue : valueNode.UsesOnly S := by
    simp only [valueNode]
    split
    · next v hk => exact hsecond.child (by simp [hk, Kind.children])
    · exact hsecond
  refine (hr.expr _ hfirst).bind fun _ => (hr.expr _ hvalue).bind fun _ => ?_
  split
  · exact (constantWrite_keepsBodies _ _ _).bind fun _ => KeepsBodies.atSpan _ _
  · split
    · exact (constantWrite_keepsBodies _ _ _).bind fun _ => KeepsBodies.atSpan _ _
    · exact (constantWrite_keepsBodies _ _ _).bind fun _ => KeepsBodies.atSpan _ _

theorem opAsgn_keepsBodies {receiver : Node} (hrecv : receiver.UsesOnly S) (attr operator : String)
    {value : Node} (hvalue : value.UsesOnly S) (lazy : Bool) (span : Span) :
    (opAsgn r receiver attr operator value lazy span).KeepsBodies S k :=
  (hr.expr receiver hrecv).bind fun _ => (hr.expr value hvalue).bind fun _ =>
    (temp_keepsBodies _).bind fun _ => KeepsBodies.pure _

theorem opElementAsgn_keepsBodies {receiver : Node} (hrecv : receiver.UsesOnly S)
    {args : Option Node} (hargs : ∀ c ∈ args, c.UsesOnly S) (operator : String) {value : Node}
    (hvalue : value.UsesOnly S) (span : Span) :
    (opElementAsgn r receiver args operator value span).KeepsBodies S k :=
  (hr.expr receiver hrecv).bind fun _ => (temp_keepsBodies _).bind fun _ =>
    (arguments_keepsBodies hr hargs span).bind fun _ =>
      (KeepsBodies.mapM fun _ _ => (temp_keepsBodies _).bind fun _ => KeepsBodies.pure _).bind
        fun _ => (hr.expr value hvalue).bind fun _ => KeepsBodies.pure _

/-! ## Control flow -/

theorem conditional_keepsBodies {condition : Node} (hcond : condition.UsesOnly S)
    {thenBody elseBody : Option Node} (hthen : ∀ c ∈ thenBody, c.UsesOnly S)
    (helse : ∀ c ∈ elseBody, c.UsesOnly S) (span : Span) (lineStart : Bool) :
    (conditional r condition thenBody elseBody span lineStart).KeepsBodies S k := by
  refine (hr.expr condition hcond).bind fun _ => ?_
  extract_lets afterCondition
  have hafterCondition : ∀ c, (afterCondition c).KeepsBodies S k := by
    intro c
    dsimp -zeta only [afterCondition]
    refine (KeepsBodies.optionMapM fun c hc => hr.expr c (hthen c hc)).bind fun _ =>
      (KeepsBodies.optionMapM fun c hc => hr.expr c (helse c hc)).bind fun _ => ?_
    split
    · exact KeepsBodies.atSpan _ _
    · exact KeepsBodies.atSpan _ _
    · exact KeepsBodies.atSpan _ _
    · exact KeepsBodies.pure _
  split
  · exact (markLineStart_keepsBodies _ _).bind hafterCondition
  · exact (KeepsBodies.pure _).bind hafterCondition

/-- A loop sets its frame's break id to its own for the body, and puts the frame's own back after
the body whether it stops or not; neither touches the frame's locals. -/
theorem loop_keepsBodies {condition : Node} (hcond : condition.UsesOnly S) {body : Option Node}
    (hbody : ∀ c ∈ body, c.UsesOnly S) (testFirst isUntil : Bool) (span : Span) :
    (loop r condition body testFirst isUntil span).KeepsBodies S k := by
  refine (hr.expr condition hcond).bind fun _ => allocBreak_keepsBodies.bind fun id =>
    frame_keepsBodies.bind fun f => (frameData_keepsBodies f).bind fun d => ?_
  dsimp only
  exact (setBreak_keepsBodies f (some id)).bind fun _ =>
    (KeepsBodies.restoring (setBreak_keepsBodies f d.breakId)
      (((exprOrNil_keepsBodies hr hbody span).withMarker none).withModes
        (f := fun m => { m with whileLoop := true }) fun _ => rfl)).bind fun _ =>
      KeepsBodies.atSpan _ _

/-- A `for` loop lowers its collection where it stands and then the call of `each`, whose block
is the loop's body. -/
theorem forLoop_keepsBodies {var iter : Node} (hvar : var.UsesOnly S) (hiter : iter.UsesOnly S)
    {body : Option Node} (hbody : ∀ c ∈ body, c.UsesOnly S) (span : Span) :
    (forLoop r var iter body span).KeepsBodies S k := by
  intro p s hp
  refine Guards.bind_keeps (hr.expr iter hiter) hp fun recv s1 e1 g1 => ?_
  exact Guards.withReader ((forCall_guards hr (p := { p with modes := { p.modes with
    forStatement := true } }) (Nat.lt_of_lt_of_le hp.frame e1.grows.size) g1 rfl hvar hbody recv
    span).mono fun _ _ _ _ _ => trivial)

theorem whenArm_keepsBodies {w : WhenArm Node} (hpattern : w.pattern.UsesOnly S)
    (hbody : ∀ c ∈ w.body, c.UsesOnly S) : (whenArm r w).KeepsBodies S k := by
  refine (hr.expr _ hpattern).bind fun _ => ?_
  have rest : ∀ c, (do return (c, ← exprOrNil r w.body w.span) : Lower (Op × Op)).KeepsBodies S k :=
    fun _ => (exprOrNil_keepsBodies hr hbody _).bind fun _ => KeepsBodies.pure _
  dsimp only
  split
  · exact (KeepsBodies.atSpan _ _).bind fun _ => (KeepsBodies.atSpan _ _).bind rest
  · exact (KeepsBodies.pure _).bind rest

theorem whenSubjectArm_keepsBodies (subject : Slot) {w : WhenArm Node}
    (hpattern : w.pattern.UsesOnly S) (hbody : ∀ c ∈ w.body, c.UsesOnly S) :
    (whenSubjectArm r subject w).KeepsBodies S k := by
  refine (hr.expr _ hpattern).bind fun _ => ?_
  have rest : ∀ c, (do let c ← atSpan c w.span; return (c, ← exprOrNil r w.body w.span) :
      Lower (Op × Op)).KeepsBodies S k :=
    fun _ => (KeepsBodies.atSpan _ _).bind fun _ => (exprOrNil_keepsBodies hr hbody _).bind fun _ =>
      KeepsBodies.pure _
  dsimp only
  split
  · exact (KeepsBodies.atSpan _ _).bind fun _ => (KeepsBodies.pure _).bind rest
  · exact (KeepsBodies.pure _).bind rest

theorem caseWhen_keepsBodies {subject : Option Node} (hsubject : ∀ c ∈ subject, c.UsesOnly S)
    {whens : List (WhenArm Node)}
    (hwhens : ∀ c ∈ whens.flatMap (fun w => w.pattern :: w.body.toList), c.UsesOnly S)
    {elseBody : Option Node} (helse : ∀ c ∈ elseBody, c.UsesOnly S) (span : Span) :
    (caseWhen r subject whens elseBody span).KeepsBodies S k := by
  have hpattern : ∀ w ∈ whens, w.pattern.UsesOnly S :=
    fun w hw => hwhens _ (List.mem_flatMap.2 ⟨w, hw, List.mem_cons_self⟩)
  have hbody : ∀ w ∈ whens, ∀ c ∈ w.body, c.UsesOnly S := fun w hw c hc =>
    hwhens _ (List.mem_flatMap.2 ⟨w, hw, List.mem_cons_of_mem _ (Option.mem_toList.2 hc)⟩)
  unfold caseWhen
  split
  · exact (KeepsBodies.mapM fun w hw => whenArm_keepsBodies hr (hpattern w hw) (hbody w hw)).bind
      fun _ => (exprOrNil_keepsBodies hr helse _).bind fun _ => KeepsBodies.pure _
  · exact (hr.expr _ (hsubject _ rfl)).bind fun _ => (temp_keepsBodies _).bind fun t =>
      (KeepsBodies.mapM fun w hw => whenSubjectArm_keepsBodies hr t (hpattern w hw)
        (hbody w hw)).bind fun _ => (exprOrNil_keepsBodies hr helse _).bind fun _ =>
          KeepsBodies.pure _

theorem breakJump_keepsBodies {value : Option Node} (hvalue : ∀ c ∈ value, c.UsesOnly S)
    (span : Span) : (breakJump r value span).KeepsBodies S k := by
  refine frame_keepsBodies.bind fun f => (frameData_keepsBodies f).bind fun _ =>
    modes_keepsBodies.bind fun _ => ?_
  split
  · split
    · exact (exprOrNil_keepsBodies hr hvalue _).bind fun _ => KeepsBodies.atSpan _ _
    · exact KeepsBodies.fail _ _ _ _
  · exact KeepsBodies.fail _ _ _ _

theorem nextJump_keepsBodies {value : Option Node} (hvalue : ∀ c ∈ value, c.UsesOnly S)
    (span : Span) : (nextJump r value span).KeepsBodies S k := by
  refine inBlock_keepsBodies.bind fun _ => modes_keepsBodies.bind fun _ => ?_
  split
  · exact KeepsBodies.fail _ _ _ _
  · exact ((exprOrNil_keepsBodies hr hvalue _).withModes
      (f := fun m => { m with nextExpression := true }) fun _ => rfl).bind fun _ =>
      KeepsBodies.atSpan _ _

theorem returnJump_keepsBodies {value : Option Node} (hvalue : ∀ c ∈ value, c.UsesOnly S)
    (span : Span) : (returnJump r value span).KeepsBodies S k :=
  frame_keepsBodies.bind fun f => (frameData_keepsBodies f).bind fun _ =>
    (exprOrNil_keepsBodies hr hvalue _).bind fun _ => KeepsBodies.atSpan _ _

/-! ## Rescue -/

theorem clauseBody_keepsBodies {c : RescueArm Node} (hbody : ∀ b ∈ c.body, b.UsesOnly S)
    (span : Span) : (clauseBody r c span).KeepsBodies S k :=
  (exprOrNil_keepsBodies hr hbody _).withModes (f := fun m => { m with inRescue := true })
    fun _ => rfl

/-- The clauses of an exception list, by induction on the list's nested form: each part lowered
is below the list. -/
theorem rescueList_keepsBodies {c : RescueArm Node} (hbody : ∀ b ∈ c.body, b.UsesOnly S)
    (span : Span) {n : Node} (hn : n.UsesOnly S) : (rescueList r c span n).KeepsBodies S k := by
  rw [rescueList_eq_nested]
  fun_induction rescueNested r c span n with
  | case1 _ _ els =>
    exact (exprs_keepsBodies hr fun e he => hn.child (by simpa [Node.kind, Kind.children] using he)).bind fun _ =>
      (clauseBody_keepsBodies hr hbody span).bind fun _ => KeepsBodies.pure _
  | case2 _ _ v =>
    exact (hr.expr v (hn.child (by simp [Node.kind, Kind.children]))).bind fun _ =>
      (clauseBody_keepsBodies hr hbody span).bind fun _ => KeepsBodies.pure _
  | case3 _ _ first second ih =>
    exact (ih (hn.child (by simp [Node.kind, Kind.children]))).bind fun _ =>
      (hr.expr second (hn.child (by simp [Node.kind, Kind.children]))).bind fun _ =>
        (clauseBody_keepsBodies hr hbody span).bind fun _ => KeepsBodies.pure _
  | case4 _ _ first second ih =>
    exact (ih (hn.child (by simp [Node.kind, Kind.children]))).bind fun _ =>
      (hr.expr second (hn.child (by simp [Node.kind, Kind.children]))).bind fun _ =>
        (clauseBody_keepsBodies hr hbody span).bind fun _ => KeepsBodies.pure _
  | case5 => exact KeepsBodies.fail _ _ _ _

theorem rescueArm_keepsBodies (span : Span) {c : RescueArm Node}
    (hc : ∀ b ∈ c.exceptions.toList ++ c.body.toList, b.UsesOnly S) :
    (rescueArm r span c).KeepsBodies S k := by
  have hbody : ∀ b ∈ c.body, b.UsesOnly S := fun b hb => hc b (by simp [Option.mem_def.1 hb])
  unfold rescueArm
  split
  · next ex hex => exact rescueList_keepsBodies hr hbody span (hc ex (by simp [hex]))
  · exact (clauseBody_keepsBodies hr hbody span).bind fun _ => KeepsBodies.pure _

theorem rescue_keepsBodies {body : Option Node} (hbody : ∀ c ∈ body, c.UsesOnly S)
    {arms : List (RescueArm Node)}
    (harms : ∀ b ∈ arms.flatMap (fun c => c.exceptions.toList ++ c.body.toList), b.UsesOnly S)
    {elseBody : Option Node} (helse : ∀ c ∈ elseBody, c.UsesOnly S) (span : Span) :
    (rescue r body arms elseBody span).KeepsBodies S k :=
  (exprOrNil_keepsBodies hr hbody _).bind fun _ => options_keepsBodies.bind fun _ =>
    (KeepsBodies.mapM fun c hc => rescueArm_keepsBodies hr span fun b hb =>
      harms b (List.mem_flatMap.2 ⟨c, hc, hb⟩)).bind fun _ =>
      (KeepsBodies.optionMapM fun c hc => hr.expr c (helse c hc)).bind fun _ =>
        KeepsBodies.atSpan _ _

/-! ## Definitions -/

theorem defn_keepsBodies (name : String) {params : Params Node}
    (hps : ∀ c ∈ params.nodes, c.UsesOnly S) {body : Option Node} (hbody : ∀ c ∈ body, c.UsesOnly S)
    (span : Span) : (defn r name params body span).KeepsBodies S k :=
  method_keepsBodies hr _ _ hps hbody span

theorem defs_keepsBodies {receiver : Node} (hrecv : receiver.UsesOnly S) (name : String)
    {params : Params Node} (hps : ∀ c ∈ params.nodes, c.UsesOnly S) {body : Option Node}
    (hbody : ∀ c ∈ body, c.UsesOnly S) (span : Span) :
    (defs r receiver name params body span).KeepsBodies S k :=
  (hr.expr receiver hrecv).bind fun _ => (KeepsBodies.atSpan _ _).bind fun _ =>
    method_keepsBodies hr _ _ hps hbody span

theorem classDef_keepsBodies {path : ConstPath Node} (hpath : ∀ c ∈ path.nodes, c.UsesOnly S)
    {superclass body : Option Node} (hsuper : ∀ c ∈ superclass, c.UsesOnly S)
    (hbody : ∀ c ∈ body, c.UsesOnly S) (span : Span) :
    (classDef r path superclass body span).KeepsBodies S k :=
  (constPathModule_keepsBodies hr hpath).bind fun _ =>
    (KeepsBodies.optionMapM fun c hc => hr.expr c (hsuper c hc)).bind fun _ =>
      openModule_keepsBodies hr _ _ hbody _ _

theorem moduleDef_keepsBodies {path : ConstPath Node} (hpath : ∀ c ∈ path.nodes, c.UsesOnly S)
    {body : Option Node} (hbody : ∀ c ∈ body, c.UsesOnly S) (span : Span) :
    (moduleDef r path body span).KeepsBodies S k :=
  (constPathModule_keepsBodies hr hpath).bind fun _ => openModule_keepsBodies hr _ _ hbody _ _

/-- A singleton class may switch constant lookup to dynamic for its body and puts the mode back
after it; the mode is no part of a frame. -/
theorem sclass_keepsBodies {receiver : Node} (hrecv : receiver.UsesOnly S) {body : Option Node}
    (hbody : ∀ c ∈ body, c.UsesOnly S) (span : Span) : (sclass r receiver body span).KeepsBodies S k := by
  refine (hr.expr receiver hrecv).bind fun _ => (KeepsBodies.atSpan _ _).bind fun definee =>
    isDynamic_keepsBodies.bind fun was => ?_
  extract_lets afterMode
  have hsetDynamic : ∀ on, (onEnv (·.setDynamic on)).KeepsBodies S k :=
    fun _ => KeepsBodies.of_frames fun _ _ => Post.onEnv rfl
  have hafterMode : ∀ u, (afterMode u).KeepsBodies S k := fun _ =>
    KeepsBodies.restoring ((hsetDynamic _).bind fun _ => KeepsBodies.pure _)
      (openModule_keepsBodies hr _ _ hbody _ _)
  split
  · refine frame_keepsBodies.bind fun f => (frameData_keepsBodies f).bind fun _ => ?_
    dsimp only
    split
    · exact (hsetDynamic true).bind fun _ => hafterMode ()
    · exact hafterMode ()
  · exact hafterMode ()

theorem methodNameSymbol_keepsBodies {n : Node} (hn : n.UsesOnly S) :
    (methodNameSymbol r n).KeepsBodies S k := by
  unfold methodNameSymbol
  split
  · exact KeepsBodies.atSpan _ _
  · exact hr.expr _ hn
  · exact hr.expr _ hn
  · exact KeepsBodies.fail _ _ _ _

theorem aliasMethod_keepsBodies {newName oldName : Node} (hnew : newName.UsesOnly S)
    (hold : oldName.UsesOnly S) (span : Span) : (aliasMethod r newName oldName span).KeepsBodies S k :=
  (methodNameSymbol_keepsBodies hr hold).bind fun _ => (methodNameSymbol_keepsBodies hr hnew).bind
    fun _ => KeepsBodies.atSpan _ _

theorem undef_keepsBodies {name : Node} (hname : name.UsesOnly S) (span : Span) :
    (undef r name span).KeepsBodies S k :=
  (methodNameSymbol_keepsBodies hr hname).bind fun _ => KeepsBodies.atSpan _ _

end Rules

section Dispatch

variable {S : String → Prop} {k : Nat} {r : Recur}

/-- Every kind of node goes to its rule; the nodes a rule lowers are the node's children, and a
read names the local the node itself reads. -/
theorem dispatch_keepsBodies (hr : r.KeepsBodies S k) (n : Node) (hn : n.UsesOnly S) :
    (dispatch r n).KeepsBodies S k := by
  -- each case below has the equation of the node's kind in context, which these take as `‹_›`
  have child : ∀ {kind : Kind Node} {c : Node}, n.kind = kind → c ∈ kind.children →
      c.UsesOnly S := fun h hc => hn.child (h ▸ hc)
  have part : ∀ {kind : Kind Node} {xs : List Node}, n.kind = kind → xs ⊆ kind.children →
      ∀ c ∈ xs, c.UsesOnly S := fun h hxs _ hc => child h (hxs hc)
  have opt : ∀ {kind : Kind Node} {o : Option Node}, n.kind = kind →
      o.toList ⊆ kind.children → ∀ c ∈ o, c.UsesOnly S :=
    fun h ho c hc => part h ho c (Option.mem_toList.2 hc)
  have uses : ∀ {kind : Kind Node} {name : String}, n.kind = kind →
      kind.localUse = some name → S name := fun h hl => hn.self (h ▸ hl)
  unfold dispatch
  dsimp only
  split
  · exact conditional_keepsBodies hr (child ‹_› (by simp [Kind.children]))
      (opt ‹_› (by simp [Kind.children])) (opt ‹_› (by simp [Kind.children])) _ _
  -- every other kind is flagged as a line start after its rule
  have flag : ∀ {x : Lower Op}, x.KeepsBodies S k → (x >>= addNewline n).KeepsBodies S k :=
    fun hx => hx.bind (addNewline_keepsBodies n)
  split
  · exact flag (fixnum_keepsBodies _ _)
  · exact flag (bignum_keepsBodies _ _)
  · exact flag (KeepsBodies.atSpan _ _)
  · exact flag (rational_keepsBodies hr (child ‹_› (by simp [Kind.children]))
      (child ‹_› (by simp [Kind.children])) _)
  · exact flag (complex_keepsBodies hr (child ‹_› (by simp [Kind.children])) _)
  · exact flag (str_keepsBodies _ _ _)
  · exact flag (KeepsBodies.atSpan _ _)
  · exact flag (dstr_keepsBodies hr (part ‹_› (by simp [Kind.children])) _)
  · exact flag (dsymbol_keepsBodies hr (part ‹_› (by simp [Kind.children])) _)
  · exact flag (dxstr_keepsBodies hr (part ‹_› (by simp [Kind.children])) _)
  · exact flag (dregexp_keepsBodies hr (part ‹_› (by simp [Kind.children])) _ _)
  · exact flag (evstr_keepsBodies hr (opt ‹_› (by simp [Kind.children])) _)
  · exact flag (KeepsBodies.atSpan _ _)
  · exact flag (KeepsBodies.atSpan _ _)
  · exact flag (KeepsBodies.atSpan _ _)
  · exact flag (KeepsBodies.atSpan _ _)
  · exact flag (KeepsBodies.atSpan _ _)
  · exact flag (KeepsBodies.atSpan _ _)
  · exact flag (KeepsBodies.atSpan _ _)
  · exact flag (KeepsBodies.atSpan _ _)
  · exact (exprs_keepsBodies hr (part ‹_› (by simp [Kind.children]))).bind fun _ =>
      flag (KeepsBodies.atSpan _ _)
  · exact flag (hash_keepsBodies hr (part ‹_› (by simp [Kind.children])) _)
  · exact flag (range_keepsBodies hr (opt ‹_› (by simp [Kind.children]))
      (opt ‹_› (by simp [Kind.children])) _ _)
  · exact flag (flipFlop_keepsBodies hr (child ‹_› (by simp [Kind.children]))
      (child ‹_› (by simp [Kind.children])) _ _)
  · exact flag (KeepsBodies.atSpan _ _)
  · exact flag (KeepsBodies.atSpan _ _)
  · exact flag (matchLastLine_keepsBodies hr (child ‹_› (by simp [Kind.children])) _)
  · exact flag (match2_keepsBodies hr (child ‹_› (by simp [Kind.children]))
      (child ‹_› (by simp [Kind.children])) _)
  · exact (hr.expr _ (child ‹_› (by simp [Kind.children]))).bind fun _ => (hr.expr _
      (child ‹_› (by simp [Kind.children]))).bind fun _ => flag (KeepsBodies.atSpan _ _)
  · exact (hr.expr _ (child ‹_› (by simp [Kind.children]))).bind fun _ =>
      flag (KeepsBodies.atSpan _ _)
  · exact flag (localRead_keepsBodies (uses ‹_› rfl) _)
  · exact flag (dvarRead_keepsBodies (uses ‹_› rfl) _ _)
  · exact flag (localAssignment_keepsBodies hr _ (opt ‹_› (by simp [Kind.children])) _)
  · exact flag (localAssignment_keepsBodies hr _ (opt ‹_› (by simp [Kind.children])) _)
  · exact flag (KeepsBodies.atSpan _ _)
  · exact (valueOrDead_keepsBodies hr (opt ‹_› (by simp [Kind.children])) _).bind fun _ =>
      flag (KeepsBodies.atSpan _ _)
  · exact classVarScope_keepsBodies.bind fun _ => flag (KeepsBodies.atSpan _ _)
  · exact classVarScope_keepsBodies.bind fun _ => (valueOrDead_keepsBodies hr
      (opt ‹_› (by simp [Kind.children])) _).bind fun _ => flag (KeepsBodies.atSpan _ _)
  · exact flag (KeepsBodies.atSpan _ _)
  · exact (valueOrDead_keepsBodies hr (opt ‹_› (by simp [Kind.children])) _).bind fun _ =>
      flag (KeepsBodies.atSpan _ _)
  · exact flag (readConst_keepsBodies _ _)
  · exact (hr.expr _ (child ‹_› (by simp [Kind.children]))).bind fun _ =>
      flag (KeepsBodies.atSpan _ _)
  · exact flag (KeepsBodies.atSpan _ _)
  · exact (constPathModule_keepsBodies hr (part ‹_› (by simp [Kind.children]))).bind fun _ =>
      (valueOrDead_keepsBodies hr (opt ‹_› (by simp [Kind.children])) _).bind fun _ =>
      flag (KeepsBodies.atSpan _ _)
  · exact flag (call_keepsBodies hr (child ‹_› (by simp [Kind.children])) _
      (opt ‹_› (by simp [Kind.children])) (opt ‹_› (by simp [Kind.children])) _ _)
  · exact flag (fcall_keepsBodies hr _ (opt ‹_› (by simp [Kind.children]))
      (opt ‹_› (by simp [Kind.children])) _)
  · exact flag (vcall_keepsBodies _ _)
  · exact flag (attrAssign_keepsBodies hr (child ‹_› (by simp [Kind.children])) _
      (opt ‹_› (by simp [Kind.children])) _ _)
  · exact flag (superCall_keepsBodies hr (opt ‹_› (by simp [Kind.children]))
      (opt ‹_› (by simp [Kind.children])) _)
  · exact flag (zsuper_keepsBodies hr (opt ‹_› (by simp [Kind.children])) _)
  · exact flag (yieldCall_keepsBodies hr (opt ‹_› (by simp [Kind.children])) _)
  · exact (hr.expr _ (child ‹_› (by simp [Kind.children]))).bind fun _ =>
      flag (KeepsBodies.atSpan _ _)
  · exact flag (lambda_keepsBodies hr (part ‹_› (by simp [Kind.children])))
  · exact (hr.expr _ (child ‹_› (by simp [Kind.children]))).bind fun _ =>
      flag (KeepsBodies.atSpan _ _)
  · exact flag (argsCat_keepsBodies hr (child ‹_› (by simp [Kind.children]))
      (child ‹_› (by simp [Kind.children])) _)
  · exact flag (argsPush_keepsBodies hr (child ‹_› (by simp [Kind.children]))
      (child ‹_› (by simp [Kind.children])) _)
  · exact flag (hr.expr _ (child ‹_› (by simp [Kind.children])))
  · exact flag (KeepsBodies.atSpan _ _)
  · exact flag (exprOrNil_keepsBodies hr (opt ‹_› (by simp [Kind.children])) _)
  · exact (exprs_keepsBodies hr (part ‹_› (by simp [Kind.children]))).bind fun _ =>
      flag (KeepsBodies.pure _)
  · exact flag (exprOrNil_keepsBodies hr (opt ‹_› (by simp [Kind.children])) _)
  · exact flag (postExe_keepsBodies hr (opt ‹_› (by simp [Kind.children])) _)
  · exact flag (conditional_keepsBodies hr (child ‹_› (by simp [Kind.children]))
      (opt ‹_› (by simp [Kind.children])) (opt ‹_› (by simp [Kind.children])) _ _)
  · exact (hr.expr _ (child ‹_› (by simp [Kind.children]))).bind fun _ => (hr.expr _
      (child ‹_› (by simp [Kind.children]))).bind fun _ => flag (KeepsBodies.atSpan _ _)
  · exact (hr.expr _ (child ‹_› (by simp [Kind.children]))).bind fun _ => (hr.expr _
      (child ‹_› (by simp [Kind.children]))).bind fun _ => flag (KeepsBodies.atSpan _ _)
  · exact flag (loop_keepsBodies hr (child ‹_› (by simp [Kind.children]))
      (opt ‹_› (by simp [Kind.children])) _ _ _)
  · exact flag (loop_keepsBodies hr (child ‹_› (by simp [Kind.children]))
      (opt ‹_› (by simp [Kind.children])) _ _ _)
  · exact flag (forLoop_keepsBodies hr (child ‹_› (by simp [Kind.children]))
      (child ‹_› (by simp [Kind.children])) (opt ‹_› (by simp [Kind.children])) _)
  · exact flag (caseWhen_keepsBodies hr (opt ‹_› (by simp [Kind.children]))
      (part ‹_› (by simp [Kind.children])) (opt ‹_› (by simp [Kind.children])) _)
  · exact flag (breakJump_keepsBodies hr (opt ‹_› (by simp [Kind.children])) _)
  · exact flag (nextJump_keepsBodies hr (opt ‹_› (by simp [Kind.children])) _)
  · exact flag (redo_keepsBodies _)
  · exact flag (retry_keepsBodies _)
  · exact flag (returnJump_keepsBodies hr (opt ‹_› (by simp [Kind.children])) _)
  · exact flag (rescue_keepsBodies hr (opt ‹_› (by simp [Kind.children]))
      (part ‹_› (by simp [Kind.children])) (opt ‹_› (by simp [Kind.children])) _)
  · exact (exprOrNil_keepsBodies hr (opt ‹_› (by simp [Kind.children])) _).bind fun _ =>
      (exprOrNil_keepsBodies hr (opt ‹_› (by simp [Kind.children])) _).bind fun _ =>
      flag (KeepsBodies.atSpan _ _)
  · exact flag (opAsgn_keepsBodies hr (child ‹_› (by simp [Kind.children])) _ _
      (child ‹_› (by simp [Kind.children])) _ _)
  · exact flag (opAsgnAnd_keepsBodies hr (child ‹_› (by simp [Kind.children]))
      (child ‹_› (by simp [Kind.children])) _)
  · exact flag (opAsgnOr_keepsBodies hr (child ‹_› (by simp [Kind.children]))
      (child ‹_› (by simp [Kind.children])) _)
  · exact flag (opElementAsgn_keepsBodies hr (child ‹_› (by simp [Kind.children]))
      (opt ‹_› (by simp [Kind.children])) _ (child ‹_› (by simp [Kind.children])) _)
  · exact flag (opAsgnConstDecl_keepsBodies hr (child ‹_› (by simp [Kind.children])) _
      (child ‹_› (by simp [Kind.children])) _)
  · exact flag (multipleAssignment_keepsBodies hr (part ‹_› (by simp [Kind.children])))
  · exact flag (defn_keepsBodies hr _ (part ‹_› (by simp [Kind.children]))
      (opt ‹_› (by simp [Kind.children])) _)
  · exact flag (defs_keepsBodies hr (child ‹_› (by simp [Kind.children])) _
      (part ‹_› (by simp [Kind.children])) (opt ‹_› (by simp [Kind.children])) _)
  · exact flag (classDef_keepsBodies hr (part ‹_› (by simp [Kind.children]))
      (opt ‹_› (by simp [Kind.children])) (opt ‹_› (by simp [Kind.children])) _)
  · exact flag (moduleDef_keepsBodies hr (part ‹_› (by simp [Kind.children]))
      (opt ‹_› (by simp [Kind.children])) _)
  · exact flag (sclass_keepsBodies hr (child ‹_› (by simp [Kind.children]))
      (opt ‹_› (by simp [Kind.children])) _)
  · exact flag (aliasMethod_keepsBodies hr (child ‹_› (by simp [Kind.children]))
      (child ‹_› (by simp [Kind.children])) _)
  · exact flag (KeepsBodies.atSpan _ _)
  · exact flag (undef_keepsBodies hr (child ‹_› (by simp [Kind.children])) _)
  · exact flag (KeepsBodies.fail _ _ _ _)
  · exact flag (KeepsBodies.fail _ _ _ _)
  · exact flag (KeepsBodies.fail _ _ _ _)

/-- The rules tied together at any fuel keep the environment guarded; at fuel `0` every call stops
at once. -/
theorem recurAt_keepsBodies : ∀ fuel, (recurAt fuel).KeepsBodies S k
  | 0 => ⟨fun _ _ => KeepsBodies.throw _, fun _ _ _ => KeepsBodies.throw _⟩
  | fuel + 1 =>
    have ih := recurAt_keepsBodies fuel
    ⟨dispatch_keepsBodies ih, fun _ v hn => target_keepsBodies ih hn v⟩

end Dispatch

end Lower

end RubyLower
