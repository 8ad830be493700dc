import RubyLower.Lower.Dispatch
import RubyLower.Proofs.Jumps.Visits
import RubyLower.Proofs.Rules.Units

/-!
# Runs of the lowering against their visits: literals, parameters, blocks and calls

Each rule is checked against the visits its node's parts list for it: the rule lowers exactly
those parts, in the scopes the parts give them, and stops only where a part accounts for it.
Most rules are chains of steps checked one after the other; the rules that read the place's
scope do so to decide what they visit (a call on `undefined` in a core library source), and a
block is lowered over a new frame of a block, so its parameters and body are checked at the
block's scope (`Lower.block_visits`).

An argument list of an unknown shape joins two spans to report its fault; the join overflows
only when one of the spans is past the largest offset, which the visits of the list account for
(`Lower.arguments_visits`).
-/

namespace RubyLower

/-- What lowering a block visits: the loop variable of a `for` body as a target or the block's
parameters, and its body, all at the block's scope. -/
def Visit.ofSpec (c : JumpScope) (spec : BlockSpec) : List Visit :=
  (match spec.forVar with
    | some v => [.node c.enterBlock .target v]
    | none => Visit.ofParams c.enterBlock spec.params) ++
  Visit.exprs c.enterBlock spec.body.toList

theorem Visit.ofSpec_ofLiteral (c : JumpScope) (b : BlockLit Node) :
    Visit.ofSpec c (BlockSpec.ofLiteral b) = Visit.ofBlock c b :=
  rfl

/-- A call made with a literal block covers what the call covers. -/
theorem Op.Spanned.wrapLiteralBlock {o : Op} (h : o.Spanned) (literal : Option (Nat × Slot)) :
    (Lower.wrapLiteralBlock o literal).Spanned := by
  obtain ⟨sp, hsp⟩ := h
  cases literal with
  | none => exact ⟨sp, hsp⟩
  | some lit =>
    refine ⟨sp, Op.encapsulatingSpan_ofForm_head rfl ?_ (by simp)⟩
    exact Op.encapsulatingSpan_ofForm_head rfl hsp (by simp)

/-- A node built of forms without spans covers nothing. -/
theorem Op.encapsulatingSpan_ofForm_leaf {f : Form Op} (hf : f.children = []) :
    (Op.ofForm f).encapsulatingSpan = .ok none :=
  Op.encapsulatingSpan_ofForm_of_spanless (by simp [hf])

theorem Op.encapsulatingSpan_writeLocal {slot : Slot} {v : Op} (hv : v.encapsulatingSpan = .ok none) :
    (Op.writeLocal slot v).encapsulatingSpan = .ok none :=
  Op.encapsulatingSpan_ofForm_of_spanless fun x hx => by
    simp only [Form.children, List.mem_singleton] at hx
    exact hx ▸ hv

/-- The assignments of a named group cover nothing. -/
theorem Op.encapsulatingSpan_captureSetter (slot matchData : Slot) (name : String) :
    (Op.writeLocal slot (Op.call (Op.readLocal matchData) "[]" [Op.symbol name])).encapsulatingSpan =
      .ok none := by
  refine Op.encapsulatingSpan_writeLocal (Op.encapsulatingSpan_ofForm_of_spanless fun x hx => ?_)
  simp only [Form.children, Option.toList_none, List.append_nil, List.mem_cons, List.not_mem_nil,
    or_false] at hx
  rcases hx with rfl | rfl
  · exact Op.encapsulatingSpan_ofForm_leaf rfl
  · exact Op.encapsulatingSpan_ofForm_leaf rfl

/-- What lowering a block argument visits. -/
def Visit.ofBlockArg (c : JumpScope) : BlockArg → List Visit
  | .absent => []
  | .node n => Visit.ofIter c (some n)
  | .synthetic spec => Visit.ofSpec c spec

theorem Visit.ofBlockArg_ofIter (c : JumpScope) (iter : Option Node) :
    Visit.ofBlockArg c (BlockArg.ofIter iter) = Visit.ofIter c iter := by
  cases iter <;> rfl

/-- Two spans join unless one of them does not fit. -/
theorem Span.fits_of_join_error {a b : Span} {e : OffsetOverflow} (h : a.join b = .error e) :
    a.fits = false ∨ b.fits = false := by
  unfold Span.join at h
  split at h
  · cases h
  · next hf =>
    cases ha : a.fits <;> cases hb : b.fits <;> simp_all

/-- A body lowered over a frame of its own starts in no loop and no rescue clause; it is in a
block scope when the frame is a block's. -/
theorem Place.Ready.enter {p : Place} {s : Progress} {c : JumpScope} (hp : p.Ready s c) {id : Nat}
    (hid : id < s.env.frames.size)
    (hbid : (s.env.frame id).isBlock = true → (s.env.frame id).breakId.isSome = true) :
    (p.enter id).Ready s { core := c.core, block := (s.env.frame id).isBlock } := by
  refine ⟨hp.ok, hid, ?_, fun hb => hbid (by simpa using hb)⟩
  rw [hp.core]
  rfl

theorem Place.Ready.enterBlock {p : Place} {s : Progress} {c : JumpScope} (hp : p.Ready s c)
    {id : Nat} (hid : id < s.env.frames.size) (hb : (s.env.frame id).isBlock = true)
    (hbid : (s.env.frame id).breakId.isSome = true) : (p.enter id).Ready s c.enterBlock := by
  have he := hp.enter hid fun _ => hbid
  rwa [hb] at he

namespace Lower

section Rules

variable {p : Place} {s : Progress} {c : JumpScope} {h : Nat}

/-! ## Rules that lower nothing -/

theorem bignum_visits (digits : String) (span : Span) :
    (bignum digits span).Visits p s c h [] Op.Spanned := by
  unfold bignum
  split
  · exact Visits.fail (by decide)
  · split
    · exact Visits.pure (Op.spanned_withSpan _ _)
    · exact Visits.pure (Op.spanned_withSpan _ _)

theorem str_visits (value : String) (frozen : Bool) (span : Span) :
    (str value frozen span).Visits p s c h [] Op.Spanned := by
  refine Visits.bind_read rfl ?_
  split
  · exact Visits.pure (Op.spanned_withSpan _ _)
  · exact Visits.pure (Op.spanned_withSpan _ _)

theorem vcall_visits (name : String) (span : Span) :
    (vcall name span).Visits p s c h [] Op.Spanned := by
  refine Visits.bind_read rfl ?_
  split
  · exact Visits.pure (Op.spanned_withSpan _ _)
  · exact Visits.pure (Op.spanned_withSpan _ _)

theorem localRead_visits (name : String) (span : Span) :
    (localRead name span).Visits p s c h [] Op.Spanned :=
  (resolveOrDeclare_visits name).bind_pure fun _ _ => Op.spanned_withSpan _ _

theorem dvarRead_visits (name : String) (depth : Nat) (span : Span) :
    (dvarRead name depth span).Visits p s c h [] Op.Spanned := by
  refine Visits.bind_read rfl ((resolve_visits name).bind fun found _ _ _ => ?_)
  split
  · exact Visits.bind_read rfl (Visits.pure (Op.spanned_withSpan _ _))
  · exact Visits.bind_read rfl ((declare_visits _ name).bind fun _ _ _ _ =>
      (resolveOrDeclare_visits name).bind_pure fun _ _ => Op.spanned_withSpan _ _)

theorem withPrelude_visits (prelude : List Op) (body : Op) :
    (withPrelude prelude body).Visits p s c h [] fun _ => True := by
  refine Visits.bind_read rfl (Visits.bind_read rfl ?_)
  dsimp only
  split
  · exact Visits.pure trivial
  · exact Visits.pure trivial

theorem unitHead_visits (id : Nat) (name : String) (kind : UnitKind) (arity : Arity) :
    (unitHead id name kind arity).Visits p s c h [] fun _ => True :=
  Visits.bind_read rfl (Visits.bind_read rfl (Visits.pure trivial))

theorem restSlot_visits (rest : RestParam) (pfx : String) :
    (restSlot rest pfx).Visits p s c h [] fun _ => True := by
  unfold restSlot
  split
  · exact Visits.bind_read rfl (declare_visits _ _)
  · exact temp_visits pfx
  · exact temp_visits pfx

theorem captureSetters_visits (matchData : Slot) (declareIn : Nat) (name : String) :
    (captureSetters matchData declareIn name).Visits p s c h [] fun pr =>
      pr.1.encapsulatingSpan = .ok none ∧ pr.2.encapsulatingSpan = .ok none :=
  (declare_visits declareIn name).bind fun _ _ _ _ =>
    (resolveOrDeclare_visits name).bind_pure fun slot _ =>
      ⟨Op.encapsulatingSpan_captureSetter slot matchData name,
        Op.encapsulatingSpan_writeLocal (Op.encapsulatingSpan_ofForm_leaf rfl)⟩

/-- A loop over the parameters of a list, each with its index. -/
theorem Visits.mapM_zip_range {β : Type} {f : Nat × Node → Lower β} {V : Node → List Visit}
    (l : List Node) (hf : ∀ i param s', (f (i, param)).Visits p s' c h (V param) fun _ => True) :
    (((List.range l.length).zip l).mapM f).Visits p s c h (l.flatMap V) fun _ => True := by
  refine ((Visits.mapM _ fun ip _ s' => hf ip.1 ip.2 s').mono fun _ _ => trivial).of_eq ?_
  rw [← List.flatMap_map Prod.snd V, List.map_snd_zip (by simp)]

theorem Visits.inFrame {α : Type} {x : Lower α} {id : Nat} {c' : JumpScope} {L : List Visit}
    {Q : α → Prop} (hx : x.Visits (p.enter id) s c' h L Q)
    (hr : p.Ready s c → (p.enter id).Ready s c') : (Lower.inFrame id x).Visits p s c h L Q :=
  fun hp => hx (hr hp)

/-- A new frame under the place's frame, set up by `g`: the progress evolves, for the frame is
new, and the rest runs with the new frame there. -/
theorem Visits.pushFrame_bind {β : Type} {fk : FrameKind} {g : Frame → Frame} {k : Nat → Lower β}
    {L : List Visit} {R : β → Prop}
    (hg : ∀ fr, (g fr).parent = fr.parent ∧ (g fr).locals = fr.locals ∧
      (g fr).flipFlopStates = fr.flipFlopStates)
    (hk : ∀ s', s.Evolves s' → s.env.frames.size < s'.env.frames.size →
      s'.env.frame s.env.frames.size =
        g ((s.env.pushFrame (some p.frame) fk).1.frame s.env.frames.size) →
      (k s.env.frames.size).Visits p s' c h L R) :
    (Lower.onEnv (·.pushFrame (some p.frame) fk) >>= fun bf =>
      Lower.modifyFrame bf g >>= fun _ => k bf).Visits p s c h L R := by
  set e := (s.env.pushFrame (some p.frame) fk).1
  set bf := s.env.frames.size
  have hsize : e.frames.size = bf + 1 := Env.frames_size_pushFrame _ _ _
  have hframe : (e.modifyFrame bf g).frame bf = g (e.frame bf) := by
    rw [Env.frame_modifyFrame, if_pos ⟨rfl, by omega⟩]
  have hx : (Lower.onEnv (·.pushFrame (some p.frame) fk) >>= fun bf =>
      Lower.modifyFrame bf g >>= fun _ => k bf).exec p s =
        (k bf).exec p { s with env := e.modifyFrame bf g } := by
    rw [exec_bind]
    rfl
  refine Visits.of_exec hx (fun hp => ?_) fun he => hk _ he (by simp [hsize]) hframe
  refine ⟨Env.Grows.modifyFrame_new (Env.Grows.pushFrame _ _ _) (Nat.le_refl _),
    Env.SameBreaks.modifyFrame_new (Env.SameBreaks.pushFrame _ _ _) (Nat.le_refl _), fun hok => ?_⟩
  obtain ⟨hpar, hloc, hst⟩ := hg (e.frame bf)
  exact (hok.pushFrame hp.frame fk).modifyFrame hpar fun h slot hs => hloc ▸ h slot (hst ▸ hs)

variable {r : Recur} (hr : r.Visits h)
include hr

/-! ## Literals -/

theorem rational_visits (a b : Node) (span : Span) :
    (rational r a b span).Visits p s c h (Visit.exprs c [a, b]) Op.Spanned :=
  (hr.expr a p s c).bind fun _ s1 _ _ =>
    (hr.expr b p s1 c).bind_pure fun _ _ => Op.spanned_withSpan _ _

theorem complex_visits (a : Node) (span : Span) :
    (complex r a span).Visits p s c h (Visit.exprs c [a]) Op.Spanned :=
  (hr.expr a p s c).bind_pure fun _ _ => Op.spanned_withSpan _ _

theorem dstr_visits (parts : List Node) (span : Span) :
    (dstr r parts span).Visits p s c h (Visit.exprs c parts) Op.Spanned :=
  (exprs_visits hr parts).bind_pure fun _ _ => Op.spanned_withSpan _ _

theorem dsymbol_visits (parts : List Node) (span : Span) :
    (dsymbol r parts span).Visits p s c h (Visit.exprs c parts) Op.Spanned :=
  (exprs_visits hr parts).bind_pure fun _ _ => Op.spanned_withSpan _ _

theorem dxstr_visits (parts : List Node) (span : Span) :
    (dxstr r parts span).Visits p s c h (Visit.exprs c parts) Op.Spanned :=
  (exprs_visits hr parts).bind_pure fun _ _ => Op.spanned_withSpan _ _

theorem evstr_visits (body : Option Node) (span : Span) :
    (evstr r body span).Visits p s c h (Visit.exprs c body.toList) Op.Spanned := by
  unfold evstr
  split
  · exact Visits.pure (Op.spanned_withSpan _ _)
  · exact (hr.expr _ p s c).bind_pure fun _ _ => Op.spanned_withSpan _ _

theorem dregexp_visits (parts : List Node) (flags : RegexpFlags) (span : Span) :
    (dregexp r parts flags span).Visits p s c h (Visit.exprs c parts) Op.Spanned := by
  refine ((exprs_visits hr parts).bind fun _ _ _ _ => ?_).of_eq (List.append_nil _)
  dsimp only
  split
  · exact Visits.pure (Op.spanned_withSpan _ _)
  · exact Visits.pure (Op.spanned_withSpan _ _)

theorem matchLastLine_visits (re : Node) (span : Span) :
    (matchLastLine r re span).Visits p s c h (Visit.exprs c [re]) Op.Spanned :=
  (hr.expr re p s c).bind_pure fun _ _ => Op.spanned_withSpan _ _

/-- With a literal that has named groups, the match comes with the assignments of the groups,
which cover nothing: the whole covers what the match covers. -/
theorem match2_visits (receiver value : Node) (span : Span) :
    (match2 r receiver value span).Visits p s c h (Visit.exprs c [receiver, value]) Op.Spanned := by
  refine (hr.expr receiver p s c).bind fun _ s1 _ _ => (hr.expr value p s1 c).bind_quiet
    fun _ s2 _ _ => Visits.bind_read rfl ?_
  dsimp only
  split
  · split
    · exact Visits.pure (Op.spanned_withSpan _ _)
    · refine (temp_visits _).bind fun md _ _ _ => Visits.bind_read rfl (Visits.bind_read rfl ?_)
      refine (Visits.mapM_quiet _ fun name _ s' => captureSetters_visits md _ name).bind_pure
        fun setters hset => ?_
      refine ⟨_, Op.encapsulatingSpan_ofForm_head
        (show (Form.namedCaptures _ _ _ _).children = _ :: _ :: (_ ++ _) from rfl)
        (Op.encapsulatingSpan_mk_some _ _ _) ?_⟩
      intro y hy
      simp only [List.mem_cons, List.mem_append, List.mem_map] at hy
      rcases hy with rfl | ⟨pr, hpr, rfl⟩ | ⟨pr, hpr, rfl⟩
      · exact Op.encapsulatingSpan_writeLocal (Op.encapsulatingSpan_ofForm_leaf rfl)
      · exact (hset pr hpr).1
      · exact (hset pr hpr).2
  · exact Visits.pure (Op.spanned_withSpan _ _)

/-- A step of a hash literal adds finished parts it builds itself, which have no span yet. -/
theorem hashStep_visits (acc : List Op × List (Op × Op)) (pair : Option Node × Node)
    (hacc : ∀ o ∈ acc.1, o.span = none) :
    (hashStep r acc pair).Visits p s c h (Visit.exprs c pair.1.toList ++ [.node c .expr pair.2])
      fun acc' => ∀ o ∈ acc'.1, o.span = none := by
  unfold hashStep
  split
  · exact (hr.expr _ p s c).bind fun _ s1 _ _ => (hr.expr _ p s1 c).bind_pure fun _ _ => hacc
  · refine (hr.expr _ p s c).bind_pure fun _ _ o ho => ?_
    simp only [List.mem_append, List.mem_singleton] at ho
    rcases ho with ho | rfl
    · split at ho
      · exact hacc o ho
      · rcases List.mem_append.1 ho with ho | ho
        · exact hacc o ho
        · rw [List.mem_singleton.1 ho]
          rfl
    · rfl

/-- A hash literal of one part gives that part its span, which it has none of yet. -/
theorem hash_visits (pairs : List (Option Node × Node)) (span : Span) :
    (hash r pairs span).Visits p s c h
      (pairs.flatMap fun kv => Visit.exprs c kv.1.toList ++ [.node c .expr kv.2]) Op.Spanned := by
  refine ((Visits.foldlM pairs (I := fun acc => ∀ o ∈ acc.1, o.span = none) (by simp)
    fun pair _ acc s' hacc => hashStep_visits hr acc pair hacc).bind
    fun ⟨parts, pending⟩ _ _ hparts => ?_).of_eq (List.append_nil _)
  have hall : ∀ o ∈ (if !pending.isEmpty || parts.isEmpty then
      parts ++ [Op.ofForm (.hashLit pending)] else parts), o.span = none := by
    intro o ho
    split at ho
    · rcases List.mem_append.1 ho with ho | ho
      · exact hparts o ho
      · rw [List.mem_singleton.1 ho]
        rfl
    · exact hparts o ho
  dsimp only
  split
  · next single hsingle =>
    rw [hsingle] at hall
    exact Visits.atSpan (.inl (hall single (List.mem_singleton_self _))) (Op.spanned_withSpan _ _)
  · exact Visits.atSpan (.inl rfl) (Op.spanned_withSpan _ _)

theorem range_visits (low high : Option Node) (exclusive : Bool) (span : Span) :
    (range r low high exclusive span).Visits p s c h
      (Visit.exprs c low.toList ++ Visit.exprs c high.toList) Op.Spanned := by
  unfold range
  extract_lets afterLow
  have hafterLow : ∀ lo s', (afterLow lo).Visits p s' c h (Visit.exprs c high.toList) Op.Spanned := by
    intro lo s'
    dsimp -zeta only [afterLow]
    extract_lets afterHigh
    have hafterHigh : ∀ hi s'', (afterHigh hi).Visits p s'' c h [] Op.Spanned :=
      fun _ _ => Visits.pure (Op.spanned_withSpan _ _)
    split
    · exact (hr.expr _ p s' c).bind_quiet fun hi s'' _ _ => hafterHigh hi s''
    · exact Visits.bind_read rfl (hafterHigh _ s')
  split
  · exact (hr.expr _ p s c).bind fun lo s' _ _ => hafterLow lo s'
  · exact Visits.bind_read rfl (hafterLow _ s)

theorem flipFlop_visits (low high : Node) (exclusive : Bool) (span : Span) :
    (flipFlop r low high exclusive span).Visits p s c h (Visit.exprs c [low, high]) Op.Spanned := by
  refine (hr.expr low p s c).bind fun _ s1 _ _ => (hr.expr high p s1 c).bind_quiet
    fun _ s2 _ _ => ?_
  exact Visits.bind_read rfl ((allocFlipFlop_visits).bind_quiet fun _ _ _ _ =>
    Visits.pure (Op.spanned_withSpan _ _))

/-! ## Parameters -/

theorem bindParameter_visits (param : Node) (value : Op) :
    (bindParameter r param value).Visits p s c h [.node c .target param] fun _ => True := by
  unfold bindParameter
  split
  · -- a plain name is declared, and assigns through nothing
    next name hk =>
    refine Visits.cons_quiet ?_ (Visit.not_misplaced_of_parts_nil (by simp [Node.parts, hk, Kind.targetParts]))
    exact Visits.bind_read rfl ((declare_visits _ name).bind_pure fun _ _ => trivial)
  · exact (temp_visits _).bind fun _ s1 _ _ => (hr.target param _ p s1 c).bind_pure fun _ _ => trivial
  · exact (hr.target param value p s c).bind_pure fun _ _ => trivial

theorem optionalBinding_visits (params : Params Node) (src : ArgSource) (offset : Nat)
    (param : Node) :
    (optionalBinding r params src offset param).Visits p s c h (Visit.ofDefault c param)
      fun _ => True := by
  unfold optionalBinding
  extract_lets index afterName
  have hafterName : ∀ (name : String) (d : Option Node) s',
      (afterName (name, d)).Visits p s' c h (Visit.exprs c d.toList) fun _ => True := by
    intro name d s'
    dsimp -zeta only [afterName]
    extract_lets afterDefault
    have hafterDefault : ∀ dv s'', (afterDefault dv).Visits p s'' c h [] fun _ => True := by
      intro dv s''
      dsimp -zeta only [afterDefault]
      exact Visits.bind_read rfl ((declare_visits _ name).bind_pure fun _ _ => trivial)
    cases d with
    | some d => exact (hr.expr d p s' c).bind_quiet fun dv s'' _ _ => hafterDefault dv s''
    | none => exact Visits.bind_read rfl (hafterDefault _ s')
  split
  · next name depth v hk =>
    rw [Visit.ofDefault, hk]
    exact Visits.bind_read rfl (hafterName name v s)
  · next name depth v hk =>
    rw [Visit.ofDefault, hk]
    exact Visits.bind_read rfl (hafterName name v s)
  · exact Visits.fail_bind (by decide)

theorem positional_visits (params : Params Node) (kind : UnitKind) (src : ArgSource)
    (names : MethodParams) :
    (positional r params kind src names).Visits p s c h
      (Visit.targets c params.pre ++ params.optional.flatMap (Visit.ofDefault c) ++
        Visit.targets c params.post) fun _ => True := by
  unfold positional
  extract_lets missing
  rw [Visit.targets, Visit.targets, List.map_eq_flatMap, List.map_eq_flatMap, List.append_assoc]
  refine (Visits.mapM_zip_range params.pre ?pres).bind fun _ s1 _ _ => ?_
  case pres => exact fun i param s' => bindParameter_visits hr param _
  refine (Visits.mapM_zip_range params.optional ?optionals).bind fun _ s2 _ _ => ?_
  case optionals => exact fun i param s' => optionalBinding_visits hr params src i param
  extract_lets afterRest
  have hafterRest : ∀ rest s', (afterRest rest).Visits p s' c h
      (params.post.flatMap fun t => [.node c .target t]) fun _ => True := by
    intro rest s'
    dsimp -zeta only [afterRest]
    refine (Visits.mapM_zip_range params.post ?posts).bind_pure fun _ _ => trivial
    exact fun i param s'' => bindParameter_visits hr param _
  split
  · exact Visits.bind_read rfl (hafterRest _ s2)
  · exact Visits.bind_read rfl (hafterRest _ s2)
  · exact (restSlot_visits _ _).bind fun _ s3 _ _ => Visits.bind_read rfl (hafterRest _ s3)

theorem keywordBinding_visits (kw : String × Option Node) :
    (keywordBinding r kw).Visits p s c h (Visit.exprs c kw.2.toList) fun _ => True :=
  (optionExprs_visits hr kw.2).bind_quiet fun _ _ _ _ =>
    Visits.bind_read rfl ((declare_visits _ _).bind_pure fun _ _ => trivial)

/-- A parameter list visits its leading and trailing patterns and its defaults; a block that
spreads an array over its parameters binds them twice, visiting the same. -/
theorem parameters_visits (params : Params Node) (kind : UnitKind) :
    (parameters r params kind).Visits p s c h (Visit.ofParams c params) fun _ => True := by
  unfold parameters
  extract_lets required optional arity check afterKeep
  have hafterKeep : ∀ keep s', (afterKeep keep).Visits p s' c h (Visit.ofParams c params)
      fun _ => True := by
    intro keep s'
    dsimp -zeta only [afterKeep]
    extract_lets afterPositional
    have hafterPositional : ∀ pn s'', (afterPositional pn).Visits p s'' c h
        (params.keywords.flatMap fun kw => Visit.exprs c kw.2.toList) fun _ => True := by
      rintro ⟨positionals, names⟩ s''
      dsimp -zeta only [afterPositional]
      refine (Visits.mapM params.keywords fun kw _ s3 => keywordBinding_visits hr kw).bind_quiet
        fun _ s3 _ _ => ?_
      extract_lets names' afterKeywordRest
      have hafterKeywordRest : ∀ kr s4, (afterKeywordRest kr).Visits p s4 c h [] fun _ => True := by
        rintro ⟨keywordRest, names⟩ s4
        dsimp -zeta only [afterKeywordRest]
        extract_lets afterBlock
        have hafterBlock : ∀ bp s5, (afterBlock bp).Visits p s5 c h [] fun _ => True := by
          rintro ⟨blockParam, names⟩ s5
          dsimp -zeta only [afterBlock]
          extract_lets finish
          have hfinish : ∀ u s6, (finish u).Visits p s6 c h [] fun _ => True :=
            fun _ _ => Visits.pure trivial
          -- a method records its parameters in its frame
          split
          · refine Visits.bind_read rfl ((Visits.modifyFrame ?_ ?_ ?_).bind_quiet
              fun u s6 _ _ => hfinish u s6)
            · exact fun _ => ⟨rfl, rfl, rfl, List.prefix_refl _, fun h => h, List.prefix_refl _⟩
            · exact fun _ => rfl
            · exact fun _ => rfl
          · exact hfinish () s5
        split
        · exact Visits.bind_read rfl ((declare_visits _ _).bind_quiet fun _ s5 _ _ =>
            Visits.bind_read rfl (hafterBlock _ s5))
        · exact Visits.bind_read rfl (hafterBlock _ s4)
      split
      · exact (restSlot_visits _ _).bind_quiet fun _ s4 _ _ =>
          Visits.bind_read rfl (hafterKeywordRest _ s4)
      · exact Visits.bind_read rfl (hafterKeywordRest _ s3)
    split
    · -- a block that spreads an array binds its positional parameters twice
      refine ((positional_visits hr params kind _ _).bind fun _ s1 _ _ =>
        (temp_visits _).bind fun _ s2 _ _ => (positional_visits hr params kind _ _).bind
          fun _ s3 _ _ => Visits.bind_read rfl (hafterPositional _ s3)).congr_mem (fun v => ?_)
          fun _ h => h
      simp only [Visit.ofParams, List.mem_append, List.nil_append]
      tauto
    · exact ((positional_visits hr params kind _ _).bind fun pn s1 _ _ =>
        hafterPositional pn s1).of_eq (by simp [Visit.ofParams])
  split
  · exact Visits.bind_read rfl ((declare_visits _ _).bind fun _ s1 _ _ =>
      Visits.bind_read rfl (hafterKeep _ s1))
  · exact Visits.bind_read rfl (hafterKeep _ s)

/-! ## Blocks -/

theorem forParameter_visits (var : Node) :
    (forParameter r var).Visits p s c h [.node c .target var] fun _ => True :=
  (allocTempName_visits _).bind fun _ _ _ _ => Visits.bind_read rfl ((declare_visits _ _).bind
    fun _ s2 _ _ => (hr.target var _ p s2 c).bind_pure fun _ _ => trivial)

/-- A block is lowered over a new frame of a block, whose parameters and body are checked at the
block's scope. -/
theorem block_visits (spec : BlockSpec) (kind : ProcKind) :
    (block r spec kind).Visits p s c h (Visit.ofSpec c spec) fun res => res.1.Spanned := by
  unfold block
  extract_lets isLambda unitKind
  refine Visits.bind_read rfl ?_
  extract_lets ownScope
  refine Visits.bind_read rfl ?_
  extract_lets afterReturn
  have hafterReturn : ∀ ret s1, (afterReturn ret).Visits p s1 c h (Visit.ofSpec c spec)
      fun res => res.1.Spanned := by
    intro ret s1
    dsimp -zeta only [afterReturn]
    refine allocBreak_visits.bind fun bid s2 _ _ => ?_
    refine Visits.pushFrame_bind (fun _ => ⟨rfl, rfl, rfl⟩) fun s3 _ hlt hfr => ?_
    refine (Visits.forIn_quiet spec.locals fun l _ s' => (declare_visits _ l).bind_quiet
      fun _ _ _ _ => Visits.pure trivial).bind fun _ s4 e4 _ => ?_
    extract_lets afterMarker
    set bf := s2.env.frames.size
    -- the block's frame: a block's or a lambda's, with the break id it was given
    have hnew := Env.frame_pushFrame_new s2.env (some p.frame)
      (if isLambda = true then FrameKind.lambda else FrameKind.block)
    have hg := e4.grows.frame bf hlt
    have hkind : (s4.env.frame bf).kind = if isLambda = true then .lambda else .block := by
      rw [hg.kind, hfr]
      exact hnew.2.1
    have hblock : (s4.env.frame bf).isBlock = true := by
      rw [Frame.isBlock, hkind]
      split <;> rfl
    have hbid : (s4.env.frame bf).breakId = some bid := by rw [e4.breaks bf hlt, hfr]
    have hafterMarker : ∀ marker, (afterMarker marker).Visits p s4 c h (Visit.ofSpec c spec)
        fun res => res.1.Spanned := by
      intro marker
      dsimp -zeta only [afterMarker]
      refine Visits.inFrame ?_ fun hp =>
        hp.enterBlock (Nat.lt_of_lt_of_le hlt e4.grows.size) hblock (by rw [hbid]; rfl)
      extract_lets afterParams
      have hafterParams : ∀ arity prelude s5, (afterParams (arity, prelude)).Visits (p.enter bf) s5
          c.enterBlock h (Visit.exprs c.enterBlock spec.body.toList) fun res => res.1.Spanned := by
        intro arity prelude s5
        dsimp -zeta only [afterParams]
        refine (exprOrNil_visits hr spec.body spec.span).bind_quiet fun _ _ _ _ => ?_
        exact (withPrelude_visits _ _).bind_quiet fun _ _ _ _ => Visits.bind_read rfl
          ((unitHead_visits _ _ _ _).bind_quiet fun _ _ _ _ => Visits.pure (Op.spanned_withSpan _ _))
      rw [Visit.ofSpec]
      cases spec.forVar with
      | some v => exact (forParameter_visits hr v).bind fun x s5 _ _ => hafterParams x.1 x.2 s5
      | none =>
        exact (parameters_visits hr spec.params unitKind).bind fun x s5 _ _ => hafterParams x.1 x.2 s5
    split
    · exact Visits.bind_read rfl (hafterMarker none)
    · exact Visits.bind_read rfl (hafterMarker _)
  split
  · exact (Visits.map allocReturn_visits fun _ _ => (trivial : True)).bind fun ret s1 _ (_ : True) =>
      hafterReturn ret s1
  · exact Visits.bind_read rfl (Visits.bind_read rfl (hafterReturn _ s))

/-! ## Calls -/

theorem literalBlock_visits (spec : BlockSpec) :
    (literalBlock r spec).Visits p s c h (Visit.ofSpec c spec) fun _ => True :=
  (temp_visits _).bind fun _ _ _ _ =>
    ((Visits.withMarker (block_visits hr spec .proc)).bind fun _ _ _ _ => Visits.pure trivial).of_eq
      (List.append_nil _)

theorem blockArg_visits (b : BlockArg) :
    (blockArg r b).Visits p s c h (Visit.ofBlockArg c b) fun _ => True := by
  unfold blockArg
  split
  · exact Visits.pure trivial
  · -- The visits are unfolded only once the rule's match on the kind is split: in one file the
    -- two matches share a matcher, and splitting one would reduce the other.
    next n =>
    rw [Visit.ofBlockArg]
    split
    · next blk hk =>
      exact (literalBlock_visits hr _).of_eq (by simp only [Visit.ofIter, hk, Visit.ofSpec_ofLiteral])
    · next body hk =>
      exact ((hr.expr body p s c).bind_pure fun _ _ => trivial).of_eq (by simp only [Visit.ofIter, hk])
    · next hk1 hk2 =>
      refine ((hr.expr n p s c).bind_pure fun _ _ => trivial).of_eq ?_
      rw [Visit.ofIter]
      split
      · next blk hk => exact absurd hk (hk1 blk)
      · next body hk => exact absurd hk (hk2 body)
      · rfl
  · exact literalBlock_visits hr _

theorem arguments_visits (args : Option Node) (span : Span) :
    (arguments r args span).Visits p s c h (Visit.ofArgs c span args) fun _ => True := by
  unfold arguments
  split
  · exact Visits.pure trivial
  · -- as for a block argument, the visits stay folded while the rule's match is split
    next a =>
    split
    · next els hk =>
      exact ((exprs_visits hr els).bind_pure fun _ _ => trivial).of_eq
        (by simp only [Visit.ofArgs, hk])
    · next v hk =>
      exact ((hr.expr a p s c).bind_pure fun _ _ => trivial).of_eq (by simp only [Visit.ofArgs, hk])
    · next _ _ hk =>
      exact ((hr.expr a p s c).bind_pure fun _ _ => trivial).of_eq (by simp only [Visit.ofArgs, hk])
    · next _ _ hk =>
      exact ((hr.expr a p s c).bind_pure fun _ _ => trivial).of_eq (by simp only [Visit.ofArgs, hk])
    · -- another kind of list: its span joined with the call's reports the fault
      next h1 h2 h3 h4 =>
      split
      · exact Visits.fail (by decide)
      · next e he =>
        refine Visits.throw_overflow ?_
        rw [Visit.ofArgs]
        split
        · next els hk => exact absurd hk (h1 els)
        · next v hk => exact absurd hk (h2 v)
        · next x y hk => exact absurd hk (h3 x y)
        · next x y hk => exact absurd hk (h4 x y)
        · exact (Span.fits_of_join_error he).elim (fun hf => ⟨_, List.mem_cons_self, hf⟩)
            (fun hf => ⟨_, List.mem_cons_of_mem _ List.mem_cons_self, hf⟩)

theorem finishCall_visits (receiver : Op) (name : String) (args : List Op) (splatted : Bool)
    (block : BlockArg) (flags : CallFlags) (span : Span) :
    (finishCall r receiver name args splatted block flags span).Visits p s c h
      (Visit.ofBlockArg c block) Op.Spanned :=
  Visits.bind_read rfl (((blockArg_visits hr block).bind fun _ _ _ _ =>
    Visits.pure ((Op.spanned_withSpan _ _).wrapLiteralBlock _)).of_eq (List.append_nil _))

theorem callNode_visits (receiver : Op) (name : String) (args : Option Node) (block : BlockArg)
    (flags : CallFlags) (span : Span) :
    (callNode r receiver name args block flags span).Visits p s c h
      (Visit.ofArgs c span args ++ Visit.ofBlockArg c block) Op.Spanned :=
  (arguments_visits hr args span).bind fun _ _ _ _ => finishCall_visits hr _ _ _ _ _ _ _

theorem argsCat_visits (first second : Node) (span : Span) :
    (argsCat r first second span).Visits p s c h
      (Visit.exprs c ((catParts first).1 :: ((catParts first).2 ++ [second]))) Op.Spanned := by
  rw [argsCat_eq_catParts]
  refine ((hr.expr _ p s c).bind fun _ s1 _ _ => ((Visits.mapM (V := fun n => [.node c .expr n])
    (Q := fun _ => True)
    ((catParts first).2 ++ [second]) fun n _ s' =>
      (hr.expr n p s' c).bind_pure fun _ _ => trivial).bind_pure
        fun _ _ => Op.spanned_withSpan _ _)).of_eq ?_
  simp [Visit.exprs, List.map_eq_flatMap]

theorem argsPush_visits (first second : Node) (span : Span) :
    (argsPush r first second span).Visits p s c h (Visit.exprs c [first, second]) Op.Spanned :=
  (hr.expr first p s c).bind fun _ s1 _ _ =>
    (hr.expr second p s1 c).bind_pure fun _ _ => Op.spanned_withSpan _ _

theorem primitive_visits (name : String) (args : Option Node) (span : Span) :
    (primitive r name args span).Visits p s c h (Visit.ofArgs c span args) Op.Spanned := by
  refine Visits.bind_read rfl ?_
  dsimp only
  split
  · exact Visits.fail (by decide)
  · refine ((arguments_visits hr args span).bind fun _ _ _ _ => ?_).of_eq (List.append_nil _)
    split
    · exact Visits.fail (by decide)
    · exact Visits.pure (Op.spanned_withSpan _ _)

theorem notProvidedTest_visits (args : Option Node) (span : Span) :
    (notProvidedTest r args span).Visits p s c h (Visit.ofNotProvided c args) Op.Spanned := by
  unfold notProvidedTest
  split
  · next v hk =>
    exact ((hr.expr v p s c).bind_pure fun _ _ => Op.spanned_withSpan _ _).of_eq
      (by simp only [Visit.ofNotProvided, hk])
  · exact Visits.fail (by decide)

theorem call_visits (receiver : Node) (name : String) (args iter : Option Node) (lazy : Bool)
    (span : Span) :
    (call r receiver name args iter lazy span).Visits p s c h
      (Visit.ofCall c span receiver name args iter) Op.Spanned := by
  unfold call
  extract_lets frozenLiteral afterExpand
  have hsome : ∀ op s', op.Spanned → (afterExpand (some op)).Visits p s' c h [] Op.Spanned :=
    fun _ _ ho => Visits.pure ho
  have hplain : ∀ s', (afterExpand none).Visits p s' c h
      (.node c .expr receiver :: (Visit.ofArgs c span args ++ Visit.ofIter c iter)) Op.Spanned := by
    intro s'
    refine ((hr.expr receiver p s' c).bind fun recv s2 _ _ =>
      callNode_visits hr recv name args (.ofIter iter) _ span).of_eq ?_
    rw [Visit.ofBlockArg_ofIter]
    rfl
  -- an expansion found: the visits of the step that found it
  have hfound : ∀ {x : Lower Op} {L : List Visit}, x.Visits p s c h L Op.Spanned →
      ((some <$> x) >>= afterExpand).Visits p s c h L Op.Spanned := fun hx =>
    ((Visits.map hx (R := fun e => ∃ o, e = some o ∧ o.Spanned) fun o ho => ⟨o, rfl, ho⟩).bind
      fun _ s1 _ ⟨o, he, ho⟩ => he ▸ hsome o s1 ho).of_eq (List.append_nil _)
  clear_value afterExpand
  -- The rule's matches on the receiver's kind are split while the visits stay folded: in one
  -- file the visits' matches share the rule's matchers, and a split would reduce both. Each
  -- branch then computes its visits from what the split found.
  simp only [frozenLiteral]
  split
  · -- `"s".freeze` visits nothing
    next value hfl =>
    refine (Visits.pure (Op.spanned_withSpan _ _)).of_eq ?_
    split at hfl
    · next hc =>
      split at hfl
      · next v fz hk => rw [Visit.ofCall]; simp [hc, hk]
      · cases hfl
    · cases hfl
  · next hfl =>
    -- no frozen literal: a string receiver comes with a call that is no bare `freeze`
    have hnf : ∀ v fz, receiver.kind = .str v fz →
        (name == "freeze" && args.isNone && iter.isNone) = false := by
      intro v fz hk
      cases hc : (name == "freeze" && args.isNone && iter.isNone)
      · rfl
      · rw [if_pos hc, hk] at hfl
        cases hfl
    split
    · -- a call on a module the lowering knows
      next m hk =>
      split
      · next hm =>
        exact (hfound (primitive_visits hr name args span)).of_eq
          (by rw [Visit.ofCall]; simp [hk, hm])
      · next hm =>
        split
        · -- the internal module: `privately` lowers its block's body in place
          next hi =>
          unfold internalCall
          split
          · next hpriv =>
            split
            · next b hb =>
              exact (hfound (Visits.withModes ⟨rfl, rfl⟩ (exprOrNil_visits hr b.body span))).of_eq
                (by rw [Visit.ofCall]; simp [hk, hm, hi, hpriv, hb])
            · exact Visits.fail_bind (by decide)
          · next hpriv =>
            split
            · next hs =>
              exact (Visits.bind_read rfl (hsome _ s (Op.spanned_withSpan _ _))).of_eq
                (by rw [Visit.ofCall]; simp [hk, hm, hi, hpriv, hs])
            · next hs =>
              split
              · next hcf =>
                exact (Visits.bind_read rfl (hsome _ s (Op.spanned_withSpan _ _))).of_eq
                  (by rw [Visit.ofCall]; simp [hk, hm, hi, hpriv, hs, hcf])
              · next hcf =>
                exact (Visits.bind_read rfl (hplain s)).of_eq
                  (by rw [Visit.ofCall]; simp [hk, hm, hi, hpriv, hs, hcf])
        · next hi =>
          exact (Visits.bind_read rfl (hplain s)).of_eq (by rw [Visit.ofCall]; simp [hk, hm, hi])
    · -- `undefined.equal?` in a core library source tests for a parameter not passed
      next hk =>
      refine Visits.of_ready fun hp => Visits.bind_read rfl ?_
      split
      · next hcore =>
        exact (hfound (notProvidedTest_visits hr args span)).of_eq
          (by rw [Visit.ofCall]; simp [hk, hp.core, hcore])
      · next hcore =>
        exact (Visits.bind_read rfl (hplain s)).of_eq
          (by rw [Visit.ofCall]; simp [hk, hp.core, hcore])
    · -- any other receiver: a plain call, unless it is a frozen literal, which it is not
      next hk1 hk2 =>
      refine (Visits.bind_read rfl (hplain s)).of_eq ?_
      rw [Visit.ofCall]
      rw [if_neg]
      · split
        · next m hk => exact absurd hk (hk1 m)
        · next hk => exact absurd hk hk2
        · rfl
      · intro hfz
        rw [Bool.and_eq_true] at hfz
        obtain ⟨hc, hs⟩ := hfz
        split at hs
        · next v fz hk =>
          rw [hnf v fz hk] at hc
          cases hc
        · cases hs

theorem fcall_visits (name : String) (args iter : Option Node) (span : Span) :
    (fcall r name args iter span).Visits p s c h (Visit.ofArgs c span args ++ Visit.ofIter c iter)
      Op.Spanned :=
  (callNode_visits hr _ _ _ _ _ _).of_eq (by rw [Visit.ofBlockArg_ofIter])

theorem attrAssign_visits (receiver : Node) (name : String) (args : Option Node) (lazy : Bool)
    (span : Span) :
    (attrAssign r receiver name args lazy span).Visits p s c h
      (.node c .expr receiver :: Visit.ofArgs c span args) Op.Spanned :=
  ((hr.expr receiver p s c).bind fun _ _ _ _ => callNode_visits hr _ _ _ _ _ _).of_eq
    (by simp [Visit.ofBlockArg])

theorem superCall_visits (args iter : Option Node) (span : Span) :
    (superCall r args iter span).Visits p s c h (Visit.ofArgs c span args ++ Visit.ofIter c iter)
      Op.Spanned := by
  refine (arguments_visits hr args span).bind fun _ _ _ _ => ?_
  rw [← Visit.ofBlockArg_ofIter, ← List.append_nil (Visit.ofBlockArg c _)]
  exact (blockArg_visits hr _).bind fun _ _ _ _ =>
    Visits.pure ((Op.spanned_withSpan _ _).wrapLiteralBlock _)

omit hr in
theorem methodBlockRead_visits : methodBlockRead.Visits p s c h [] fun _ => True :=
  Visits.bind_read rfl ((resolve_visits _).bind_pure fun _ _ => trivial)

omit hr in
theorem readParam_visits (name : String) : (readParam name).Visits p s c h [] fun _ => True :=
  (resolveOrDeclare_visits name).bind_pure fun _ _ => trivial

omit hr in
theorem forwardedKeywords_visits (ps : MethodParams) :
    (forwardedKeywords ps).Visits p s c h [] fun _ => True := by
  unfold forwardedKeywords
  split
  · exact Visits.pure trivial
  · refine (Visits.mapM_quiet (Q := fun _ => True) ps.keywords fun n _ s' =>
      (readParam_visits n).bind_pure fun _ _ => trivial).bind_quiet fun _ _ _ _ => ?_
    split
    · exact (readParam_visits _).bind_pure fun _ _ => trivial
    · exact Visits.pure trivial

/-- `super` without arguments reads the method's parameters, visiting only its block. -/
theorem zsuper_visits (iter : Option Node) (span : Span) :
    (zsuper r iter span).Visits p s c h (Visit.ofIter c iter) Op.Spanned := by
  unfold zsuper
  refine Visits.bind_read rfl (Visits.bind_read rfl (Visits.bind_read rfl ?_))
  extract_lets ps afterArgs
  refine (Visits.mapM_quiet _ fun n _ s' => readParam_visits n).quiet_bind fun _ _ _ _ => ?_
  refine (Visits.mapM_quiet _ fun n _ s' => readParam_visits n).quiet_bind fun _ _ _ _ => ?_
  refine (forwardedKeywords_visits _).quiet_bind fun _ _ _ _ => ?_
  have hafterArgs : ∀ a s', (afterArgs a).Visits p s' c h (Visit.ofIter c iter) Op.Spanned := by
    rintro ⟨arguments, splatted⟩ s'
    dsimp -zeta only [afterArgs]
    extract_lets finish
    have hfinish : ∀ b s'', (finish b).Visits p s'' c h [] Op.Spanned :=
      fun _ _ => Visits.pure ((Op.spanned_withSpan _ _).wrapLiteralBlock _)
    split
    · refine ((blockArg_visits hr _).bind fun b s'' _ _ => hfinish b s'').of_eq ?_
      rw [Visit.ofBlockArg_ofIter, List.append_nil]
    · exact methodBlockRead_visits.bind fun b s'' _ _ => hfinish _ s''
  clear_value afterArgs
  split
  · refine (readParam_visits _).quiet_bind fun _ s' _ _ => ?_
    extract_lets parts
    exact Visits.bind_read rfl (hafterArgs _ s')
  · exact Visits.bind_read rfl (hafterArgs _ _)

theorem yieldCall_visits (args : Option Node) (span : Span) :
    (yieldCall r args span).Visits p s c h (Visit.ofYield c span args) Op.Spanned := by
  unfold yieldCall
  extract_lets afterArgs
  have hafterArgs : ∀ a s', (afterArgs a).Visits p s' c h [] Op.Spanned :=
    fun _ _ => methodBlockRead_visits.bind_quiet fun _ _ _ _ =>
      Visits.pure (Op.spanned_withSpan _ _)
  have hlist : (arguments r args span >>= afterArgs).Visits p s c h (Visit.ofArgs c span args)
      Op.Spanned :=
    ((arguments_visits hr _ span).bind fun a s' _ _ => hafterArgs a s').of_eq (List.append_nil _)
  clear_value afterArgs
  -- the visits stay folded while the rule's match on the kind is split
  split
  · next single =>
    split
    · next els hk => exact hlist.of_eq (by simp only [Visit.ofYield, hk])
    · next v hk => exact hlist.of_eq (by simp only [Visit.ofYield, hk])
    · next x y hk => exact hlist.of_eq (by simp only [Visit.ofYield, hk])
    · next x y hk => exact hlist.of_eq (by simp only [Visit.ofYield, hk])
    · -- a single argument that is no list is passed as it is
      next h1 h2 h3 h4 =>
      refine ((hr.expr single p s c).bind fun _ s' _ _ =>
        Visits.bind_read rfl (hafterArgs _ s')).of_eq ?_
      rw [List.append_nil, Visit.ofYield]
      split
      · next els hk => exact absurd hk (h1 els)
      · next v hk => exact absurd hk (h2 v)
      · next x y hk => exact absurd hk (h3 x y)
      · next x y hk => exact absurd hk (h4 x y)
      · rfl
  · exact hlist.of_eq (by simp only [Visit.ofYield, Visit.ofArgs])

theorem postExe_visits (body : Option Node) (span : Span) :
    (postExe r body span).Visits p s c h (Visit.exprs c.enterBlock body.toList) Op.Spanned :=
  (finishCall_visits hr _ _ _ _ _ _ _).of_eq (by simp [Visit.ofBlockArg, Visit.ofSpec, Visit.ofParams,
    Visit.targets, Visit.exprs])

theorem lambda_visits (b : BlockLit Node) :
    (lambda r b).Visits p s c h (Visit.ofBlock c b) Op.Spanned :=
  ((Visits.withMarker (block_visits hr _ .lambda)).bind fun _ _ _ hb => Visits.pure hb).of_eq
    (by rw [List.append_nil, Visit.ofSpec_ofLiteral])

end Rules

end Lower

end RubyLower
