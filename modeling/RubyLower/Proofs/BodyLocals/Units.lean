import RubyLower.Proofs.BodyLocals.Steps

/-!
# The locals of `for` bodies: parameters, blocks and units

The rules that make a unit push a frame and lower its parameters and body there. A method, a
module body, a lambda and a literal block get a frame with a scope of its own, where any name may
be declared: the parameters (`Lower.parameters_guards`) and a block's own locals. A method also
records the names of its parameters for `super`, each of them declared by then, which keeps
`Env.ParamsDeclared`.

The body of a `for` loop is the one block lowered while the call of the loop is: its frame has no
scope of its own, and it declares nothing but the temporary its one parameter arrives in, before
the loop variable and the body are lowered in it (`Lower.block_guards`). That rule, with the call
around it, is `Lower.forCall_guards`: the `for` body's unit has no scope of its own, and holds
only internal names and names of `S` when the loop variable and the body name only those.
-/

namespace RubyLower

/-- The names are locals of the place's frame. -/
def Place.Declares (p : Place) (s : Progress) (names : List String) : Prop :=
  ∀ n ∈ names, n ∈ (s.env.frame p.frame).locals

theorem Place.Declares.extend {p : Place} {s s' : Progress} {names : List String}
    (h : p.Declares s names) (hf : p.frame < s.env.frames.size) (he : s.env.Extends s'.env) :
    p.Declares s' names :=
  fun n hn => he.mem_locals hf (h n hn)

/-- A parameter record extended by the positional bindings names only what it named and what the
bindings declared. -/
theorem Place.Declares.positional {p : Place} {s : Progress} {names : MethodParams}
    {pres posts : List (Op × Option String)} {optionals : List (Op × String)}
    {rest : Option (Op × String)} (hnames : p.Declares s names.forwarded)
    (hpres : ∀ b ∈ pres, p.Declares s b.2.toList) (hopt : ∀ b ∈ optionals, p.Declares s [b.2])
    (hrest : ∀ w ∈ rest, p.Declares s [w.2]) (hposts : ∀ b ∈ posts, p.Declares s b.2.toList) :
    p.Declares s ({ names with
      pre := names.pre ++ pres.filterMap Prod.snd
      optional := names.optional ++ optionals.map Prod.snd
      rest := (rest.map Prod.snd).or names.rest
      post := names.post ++ posts.filterMap Prod.snd } : MethodParams).forwarded := by
  have hold : ∀ n, n ∈ names.forwarded → n ∈ (s.env.frame p.frame).locals := hnames
  simp only [MethodParams.forwarded, List.mem_append] at hold
  -- the rest parameter is the new one if there is one, else the record's
  have hrest' : ∀ n ∈ ((rest.map Prod.snd).or names.rest).toList,
      n ∈ (s.env.frame p.frame).locals := by
    cases rest with
    | none => exact fun n hn => hold n (by simp_all)
    | some w => exact fun n hn => hrest w rfl n (by simpa using hn)
  intro n hn
  simp only [MethodParams.forwarded, List.mem_append, List.mem_filterMap, List.mem_map] at hn
  rcases hn with (((((h | ⟨b, hb, h⟩) | h | ⟨b, hb, rfl⟩) | h) | h | ⟨b, hb, h⟩) | h) | h
  · exact hold n (by simp [h])
  · exact hpres b hb n (by simp [h])
  · exact hold n (by simp [h])
  · exact hopt b hb _ (List.mem_singleton_self _)
  · exact hrest' n h
  · exact hold n (by simp [h])
  · exact hposts b hb n (by simp [h])
  · exact hold n (by simp [h])
  · exact hold n (by simp [h])

/-- The nodes of a block to lower: its parameters, its body and the loop variable of a `for`. -/
def BlockSpec.nodes (spec : BlockSpec) : List Node :=
  spec.params.nodes ++ spec.body.toList ++ spec.forVar.toList

/-- The nodes a block argument lowers. -/
def BlockArg.nodes : BlockArg → List Node
  | .absent => []
  | .node n => [n]
  | .synthetic spec => spec.nodes

/-- `d` defines a block of the given kind and break id whose unit has a scope of its own exactly
when `own`, and which holds only internal names and names of `S` when it has none. -/
def Op.BlockOf (S : String → Prop) (kind : ProcKind) (own : Bool) (bid : Nat) (d : Op) : Prop :=
  ∃ head body marker sp fl, d = .mk (.blockDef kind head body bid marker) sp fl ∧
    head.ownScope = own ∧ (own = false → ∀ name ∈ head.locals, Internal name ∨ S name)

/-- What a relation says of each right element holds of every one of them. -/
theorem forall_mem_right_of_forall₂ {α β : Type} {R : α → β → Prop} {T : β → Prop}
    (hT : ∀ x b, R x b → T b) {xs : List α} {bs : List β} (h : List.Forall₂ R xs bs) :
    ∀ b ∈ bs, T b := by
  induction h with
  | nil => exact fun _ h => by cases h
  | cons hr _ ih =>
    intro b hb
    rcases List.mem_cons.1 hb with rfl | hb
    · exact hT _ _ hr
    · exact ih b hb

namespace Lower

open Env

section Here

variable {S : String → Prop} {k : Nat} {p : Place} {s : Progress}

/-- Declaring a name in a frame where the invariant allows it. -/
theorem declareAt_guards (hg : s.env.Guarded S k) {i : Nat} {name : String}
    (hallowed : k ≤ i → (s.env.frame i).ownScope = false → Internal name ∨ S name) :
    (declare i name).Guards S k p s fun _ _ => True :=
  Post.onEnv ⟨Extends.declareLocal _ _ _, hg.declareLocal i name hallowed, trivial⟩

/-- Declaring in the place's frame gives a slot of the name, now a local of that frame. -/
theorem declare_guards (hp : p.Guarded S k s) {name : String}
    (hallowed : k ≤ p.frame → (s.env.frame p.frame).ownScope = false → Internal name ∨ S name) :
    (declare p.frame name).Guards S k p s fun slot s' => slot.name = name ∧ p.Declares s' [name] := by
  obtain ⟨index, hslot, hl⟩ := s.env.declareLocal_slot name hp.frame
  refine Post.onEnv ⟨Extends.declareLocal _ _ _, hp.env.declareLocal _ name hallowed, ?_⟩
  rw [hslot]
  refine ⟨rfl, fun n hn => ?_⟩
  rw [List.mem_singleton.1 hn]
  exact List.mem_of_getElem? hl

/-- A temporary is a new local of the place's frame, which may lack a scope of its own. -/
theorem temp_guards (hf : p.frame < s.env.frames.size) (hg : s.env.Guarded S k) (pfx : String) :
    (temp pfx).Guards S k p s fun slot s' => p.Declares s' [slot.name] := by
  refine Guards.bind_read frame_post (Post.onEnv ⟨Extends.allocTemp _ _ _, hg.allocTemp _ pfx, ?_⟩)
  obtain ⟨index, hl, -⟩ := s.env.allocTemp_slot pfx hf
  intro n hn
  rw [List.mem_singleton.1 hn]
  exact List.mem_of_getElem? hl

end Here

/-! ## Parameters

Parameters are declared in the frame of the unit they belong to, which has a scope of its own. -/

section Params

variable {S : String → Prop} {k : Nat} {r : Recur} (hr : r.KeepsBodies S k) {p : Place}
  {s : Progress}

/-- The place's frame has a scope of its own. -/
def OwnFrame (p : Place) (s : Progress) : Prop :=
  (s.env.frame p.frame).ownScope = true

theorem OwnFrame.extend {s' : Progress} (h : OwnFrame p s) (hf : p.frame < s.env.frames.size)
    (he : s.env.Extends s'.env) : OwnFrame p s' :=
  (he.ownScope_eq hf).trans h

theorem OwnFrame.allowed (h : OwnFrame p s) {name : String} :
    k ≤ p.frame → (s.env.frame p.frame).ownScope = false → Internal name ∨ S name :=
  fun _ hf => absurd (h.symm.trans hf) Bool.noConfusion

theorem restSlot_guards (hp : p.Guarded S k s) (hown : OwnFrame p s) (rest : RestParam)
    (pfx : String) : (restSlot rest pfx).Guards S k p s fun slot s' => p.Declares s' [slot.name] := by
  unfold restSlot
  split
  · exact Guards.bind_read frame_post ((declare_guards hp hown.allowed).mono
      fun _ _ _ _ h => h.1 ▸ h.2)
  · exact temp_guards hp.frame hp.env pfx
  · exact temp_guards hp.frame hp.env pfx

include hr

theorem bindParameter_guards (hp : p.Guarded S k s) (hown : OwnFrame p s) {param : Node}
    (hparam : param.UsesOnly S) (value : Op) :
    (bindParameter r param value).Guards S k p s fun b s' => p.Declares s' b.2.toList := by
  unfold bindParameter
  split
  · refine Guards.bind_read frame_post ((declare_guards hp hown.allowed).bind
      fun slot s1 _ g1 h1 => (Guards.atSpan g1 h1.2).bind fun _ _ _ g2 h2 => Guards.pure g2 h2)
  · refine (temp_guards hp.frame hp.env _).bind fun t s1 e1 g1 h1 => ?_
    exact (hr.target param _ hparam _ _ (hp.extend e1 g1)).bind fun _ _ e2 g2 _ =>
      Guards.pure g2 (h1.extend (hp.extend e1 g1).frame e2)
  · exact (hr.target param value hparam _ _ hp).bind fun _ _ _ g1 _ =>
      Guards.pure g1 fun _ h => by cases h

theorem preBinding_guards (hp : p.Guarded S k s) (hown : OwnFrame p s) (missing : MissingArg)
    (src : ArgSource) (index : Nat) {param : Node} (hparam : param.UsesOnly S) :
    (preBinding r missing src index param).Guards S k p s fun b s' => p.Declares s' b.2.toList :=
  bindParameter_guards hr hp hown hparam _

theorem postBinding_guards (hp : p.Guarded S k s) (hown : OwnFrame p s) (params : Params Node)
    (src : ArgSource) (n : Nat) {param : Node} (hparam : param.UsesOnly S) :
    (postBinding r params src n param).Guards S k p s fun b s' => p.Declares s' b.2.toList :=
  bindParameter_guards hr hp hown hparam _

theorem optionalBinding_guards (hp : p.Guarded S k s) (hown : OwnFrame p s)
    (params : Params Node) (src : ArgSource) (offset : Nat) {param : Node}
    (hparam : param.UsesOnly S) :
    (optionalBinding r params src offset param).Guards S k p s fun b s' => p.Declares s' [b.2] := by
  unfold optionalBinding
  dsimp only
  -- a parameter that is no assignment fails; the two kinds of assignment lower alike
  split
  case h_3 => exact Post.fail
  all_goals
    rename_i name _ v hkind
    refine Guards.bind_read (Post.pure ⟨rfl, rfl⟩) ?_
    dsimp only
    have hdeclare : ∀ s1, p.Guarded S k s1 → OwnFrame p s1 → ∀ (o : Slot → Op) (sp : Span),
        (do let slot ← declare p.frame name; return (← atSpan (o slot) sp, name) :
          Lower (Op × String)).Guards S k p s1 fun b s' => p.Declares s' [b.2] :=
      fun s1 hp1 hown1 o sp => (declare_guards hp1 hown1.allowed).bind fun _ s2 _ g2 h2 =>
        (Guards.atSpan g2 h2.2).bind fun _ _ _ g3 h3 => Guards.pure g3 h3
    split
    · refine (hr.expr _ (hparam.child (by simp [hkind, Kind.children])) _ _ hp).bind
        fun _ s1 e1 g1 _ => ?_
      exact Guards.bind_read frame_post (hdeclare s1 (hp.extend e1 g1) (hown.extend hp.frame e1) _ _)
    · exact Guards.bind_read (Post.pure ⟨rfl, rfl⟩) (Guards.bind_read frame_post
        (hdeclare s hp hown _ _))

/-- The leading, optional and trailing parameters are declared in the frame with the rest
parameter, and the record they extend keeps naming declared locals. -/
theorem positional_guards (hp : p.Guarded S k s) (hown : OwnFrame p s) {params : Params Node}
    (hps : ∀ c ∈ params.nodes, c.UsesOnly S) (kind : UnitKind) (src : ArgSource)
    {names : MethodParams} (hnames : p.Declares s names.forwarded) :
    (positional r params kind src names).Guards S k p s fun b s' => p.Declares s' b.2.forwarded := by
  unfold positional
  dsimp only
  have hown' : ∀ (x : Nat × Node) s s', p.Guarded S k s → OwnFrame p s → s.env.Extends s'.env →
      OwnFrame p s' := fun _ _ _ hp h he => h.extend hp.frame he
  have hmem : ∀ {xs : List Node} {x : Nat × Node} {n : Nat}, x ∈ (List.range n).zip xs →
      x.2 ∈ xs := fun hx => (List.of_mem_zip hx).2
  refine (Guards.mapM (Q := fun _ b s' => p.Declares s' b.2.toList) hown'
    (fun _ b _ _ hp h he => @Place.Declares.extend _ _ _ b.2.toList h hp.frame he) _ hp (fun _ _ => hown)
    fun x hx s1 hp1 hown1 => preBinding_guards hr hp1 hown1 _ _ x.1
      (hps x.2 (by simp [Params.nodes, hmem hx]))).bind fun pres s1 e1 g1 hpres => ?_
  have hp1 := hp.extend e1 g1
  refine (Guards.mapM (Q := fun _ b s' => p.Declares s' [b.2]) hown'
    (fun _ b _ _ hp h he => @Place.Declares.extend _ _ _ [b.2] h hp.frame he) _ hp1 (fun _ _ => hown.extend hp.frame e1)
    fun x hx s2 hp2 hown2 => optionalBinding_guards hr hp2 hown2 params src x.1
      (hps x.2 (by simp [Params.nodes, hmem hx]))).bind fun optionals s2 e2 g2 hopt => ?_
  have hp2 := hp1.extend e2 g2
  have hown2 := (hown.extend hp.frame e1).extend hp1.frame e2
  -- the rest parameter, if there is one, is declared too; then the trailing ones follow
  split
  case' h_1 | h_2 =>
    refine (Guards.pure (Q := fun (rest : Option (Op × String)) s3 => ∀ w ∈ rest, p.Declares s3 [w.2])
      g2 fun _ h => by cases h).bind fun rest s3 e3 g3 hrest => ?_
  case' h_3 =>
    refine (restSlot_guards hp2 hown2 _ _).bind fun slot s3' e3' g3' hslot => ?_
    refine (Guards.pure (Q := fun (rest : Option (Op × String)) s3 => ∀ w ∈ rest, p.Declares s3 [w.2])
      g3' ?_).bind fun rest s3 e3'' g3 hrest => ?_
    · intro w hw
      rw [Option.mem_def, Option.some.injEq] at hw
      exact hw ▸ hslot
    have e3 := e3'.trans e3''
  all_goals
    have hp3 := hp2.extend e3 g3
    refine (Guards.mapM (Q := fun _ b s' => p.Declares s' b.2.toList) hown'
      (fun _ b _ _ hp h he => @Place.Declares.extend _ _ _ b.2.toList h hp.frame he) _ hp3 (fun _ _ => hown2.extend hp2.frame e3)
      fun x hx s4 hp4 hown4 => postBinding_guards hr hp4 hown4 params src x.1
        (hps x.2 (by simp [Params.nodes, hmem hx]))).bind fun posts s4 e4 g4 hposts => ?_
    refine Guards.pure g4 (Place.Declares.positional
      (hnames.extend hp.frame (e1.trans (e2.trans (e3.trans e4)))) (fun b hb => ?_) (fun b hb => ?_)
      (fun w hw => (hrest w hw).extend hp3.frame e4)
      (forall_mem_right_of_forall₂ (T := fun b : Op × Option String => p.Declares s4 b.2.toList) (fun _ _ h => h) hposts))
    · exact (forall_mem_right_of_forall₂ (T := fun b : Op × Option String => p.Declares s1 b.2.toList) (fun _ _ h => h)
        hpres b hb).extend hp1.frame (e2.trans (e3.trans e4))
    · exact (forall_mem_right_of_forall₂ (T := fun b : Op × String => p.Declares s2 [b.2]) (fun _ _ h => h)
        hopt b hb).extend hp2.frame (e3.trans e4)

/-- A keyword parameter is declared under its name, after its default is lowered. -/
theorem keywordBinding_guards (hp : p.Guarded S k s) (hown : OwnFrame p s)
    {kw : String × Option Node} (hkw : ∀ c ∈ kw.2, c.UsesOnly S) :
    (keywordBinding r kw).Guards S k p s fun _ s' => p.Declares s' [kw.1] := by
  refine Guards.bind_keeps (KeepsBodies.optionMapM fun c hc => hr.expr c (hkw c hc)) hp
    fun _ s1 e1 g1 => ?_
  exact Guards.bind_read frame_post ((declare_guards (hp.extend e1 g1)
    (hown.extend hp.frame e1).allowed).bind fun _ _ _ g2 h2 => Guards.pure g2 h2.2)

/-- The prelude of a unit's parameters keeps the invariant in a frame with a scope of its own, and
a method records only parameters it has declared. -/
theorem parameters_guards (hp : p.Guarded S k s) (hown : OwnFrame p s) {params : Params Node}
    (hps : ∀ c ∈ params.nodes, c.UsesOnly S) (kind : UnitKind) :
    (parameters r params kind).Guards S k p s fun _ _ => True := by
  unfold parameters
  extract_lets required optional arity check afterKeep
  have hempty : ∀ s', p.Declares s' ({} : MethodParams).forwarded := fun _ _ h => by
    simp [MethodParams.forwarded] at h
  -- each join point of the rule keeps the invariant, from the last one back
  have hafterKeep : ∀ keep s1, p.Guarded S k s1 → OwnFrame p s1 →
      (afterKeep keep).Guards S k p s1 fun _ _ => True := by
    intro keep s1 hp1 hown1
    dsimp -zeta only [afterKeep]
    extract_lets afterPositional
    have hafterPositional : ∀ (pn : List Op × MethodParams) s2, p.Guarded S k s2 → OwnFrame p s2 →
        p.Declares s2 pn.2.forwarded → (afterPositional pn).Guards S k p s2 fun _ _ => True := by
      rintro ⟨positionals, names⟩ s2 hp2 hown2 hnames
      dsimp -zeta only [afterPositional]
      refine (Guards.mapM (P := fun _ s => OwnFrame p s) (Q := fun kw _ s' => p.Declares s' [kw.1])
        (fun _ _ _ hp h he => h.extend hp.frame he)
        (fun kw _ _ _ hp h he => @Place.Declares.extend _ _ _ [kw.1] h hp.frame he) _ hp2
        (fun _ _ => hown2) fun kw hkw s3 hp3 hown3 => keywordBinding_guards hr hp3 hown3
          fun c hc => hps c ?_).bind fun keywords s3 e3 g3 hkw => ?_
      · simp only [Params.nodes, List.mem_append, List.mem_flatMap, Option.mem_toList]
        exact .inr ⟨kw, hkw, hc⟩
      have hp3 := hp2.extend e3 g3
      have hown3 := hown2.extend hp2.frame e3
      extract_lets names' afterKeywordRest
      -- the keywords are declared, and the record already named declared locals
      have hnames' : p.Declares s3 names'.forwarded := by
        have hkws := ((List.forall₂_and_left _ _).1 (hkw.imp fun kw _ h => ⟨h, trivial⟩)).1
        intro n hn
        simp only [names', MethodParams.forwarded, List.mem_append, List.mem_map] at hn
        rcases hn with ((((h | h) | h) | h) | ⟨kw, hkw', rfl⟩) | h
        case inl.inr => exact hkws kw hkw' _ (List.mem_singleton_self _)
        all_goals exact e3.mem_locals hp2.frame (hnames n (by simp [MethodParams.forwarded, h]))
      have hafterKeywordRest : ∀ (kr : List Op × MethodParams) s4, p.Guarded S k s4 →
          OwnFrame p s4 → p.Declares s4 kr.2.forwarded →
          (afterKeywordRest kr).Guards S k p s4 fun _ _ => True := by
        rintro ⟨keywordRest, names⟩ s4 hp4 hown4 hnames4
        dsimp -zeta only [afterKeywordRest]
        extract_lets afterBlock
        have hafterBlock : ∀ (bp : List Op × MethodParams) s5, p.Guarded S k s5 →
            p.Declares s5 bp.2.forwarded → (afterBlock bp).Guards S k p s5 fun _ _ => True := by
          rintro ⟨blockParam, names⟩ s5 hp5 hnames5
          dsimp -zeta only [afterBlock]
          extract_lets finish
          -- a method records its parameters, each of them declared by now
          split
          · refine Guards.bind_read frame_post (Guards.bind (Q := fun _ _ => True)
              (Post.modifyEnv ⟨Extends.modifyFrame
              ⟨rfl, rfl, rfl, List.prefix_refl _, fun h => h, List.prefix_refl _⟩ rfl,
              hp5.env.recordParams _ _ hnames5, trivial⟩) fun _ _ _ g6 _ => Guards.pure g6 trivial)
          · exact Guards.pure hp5.env trivial
        split
        · refine Guards.bind_read frame_post ((declare_guards hp4 hown4.allowed).bind
            fun _ s5 e5 g5 _ => Guards.bind_read (Post.pure ⟨rfl, rfl⟩) ?_)
          exact hafterBlock _ s5 (hp4.extend e5 g5) (hnames4.extend hp4.frame e5)
        · exact Guards.bind_read (Post.pure ⟨rfl, rfl⟩) (hafterBlock _ s4 hp4 hnames4)
      split
      · refine (restSlot_guards hp3 hown3 _ _).bind fun slot s4 e4 g4 hslot => ?_
        refine Guards.bind_read (Post.pure ⟨rfl, rfl⟩) (hafterKeywordRest _ s4 (hp3.extend e4 g4)
          (hown3.extend hp3.frame e4) fun n hn => ?_)
        simp only [MethodParams.forwarded, List.mem_append, Option.toList_some,
          List.mem_singleton] at hn
        rcases hn with h | rfl
        · refine e4.mem_locals hp3.frame (hnames' n ?_)
          simp only [MethodParams.forwarded, List.mem_append]
          exact .inl h
        · exact hslot _ (List.mem_singleton_self _)
      · exact Guards.bind_read (Post.pure ⟨rfl, rfl⟩) (hafterKeywordRest _ s3 hp3 hown3 hnames')
    split
    · -- a block spreading one array argument binds the positional parameters twice, the names
      -- of the first binding recorded
      refine (positional_guards hr hp1 hown1 hps _ _ (hempty s1)).bind fun x s2 e2 g2 hx => ?_
      obtain ⟨direct, names⟩ := x
      have hp2 := hp1.extend e2 g2
      refine (temp_guards hp2.frame hp2.env _).bind fun _ s3 e3 g3 _ => ?_
      have hp3 := hp2.extend e3 g3
      have hown3 := (hown1.extend hp1.frame e2).extend hp2.frame e3
      refine (positional_guards hr hp3 hown3 hps _ _ (hempty s3)).bind fun _ s4 e4 g4 _ => ?_
      exact Guards.bind_read (Post.pure ⟨rfl, rfl⟩) (hafterPositional _ s4 (hp3.extend e4 g4)
        (hown3.extend hp3.frame e4) (hx.extend hp2.frame (e3.trans e4)))
    · exact (positional_guards hr hp1 hown1 hps _ _ (hempty s1)).bind fun pn s2 e2 g2 h =>
        hafterPositional pn s2 (hp1.extend e2 g2) (hown1.extend hp1.frame e2) h
  split
  · refine Guards.bind_read frame_post ((declare_guards hp hown.allowed).bind
      fun _ s1 e1 g1 _ => Guards.bind_read (Post.pure ⟨rfl, rfl⟩) ?_)
    exact hafterKeep _ s1 (hp.extend e1 g1) (hown.extend hp.frame e1)
  · exact Guards.bind_read (Post.pure ⟨rfl, rfl⟩) (hafterKeep _ s hp hown)


end Params

/-! ## Blocks

A block's frame is new, so it comes after every frame of the place where it is lowered; it has a
scope of its own unless it is the body of a `for` loop, which declares nothing but its one
parameter's temporary before the loop variable and the body are lowered in it. -/

section Blocks

variable {S : String → Prop} {k : Nat} {r : Recur} (hr : r.KeepsBodies S k) {p : Place}
  {s : Progress}

/-- A new frame under the place's frame, set up by `g`: the rest runs with the frame, as `g` left
it, in an extension of the environment that is still guarded. -/
theorem pushFrame_bind_guards {β : Type} {fk : FrameKind} {g : Frame → Frame} {κ : Nat → Lower β}
    {Q : β → Progress → Prop} (hf : p.frame < s.env.frames.size) (hg : s.env.Guarded S k)
    (hset : ∀ fr, g fr = { fr with
      ownScope := (g fr).ownScope
      returnId := (g fr).returnId
      breakId := (g fr).breakId
      methodName := (g fr).methodName })
    (hown : (g ((s.env.pushFrame (some p.frame) fk).1.frame s.env.frames.size)).ownScope = false →
      fk = .block)
    (hκ : ∀ s', s.env.Extends s'.env → s'.env.Guarded S k →
      s.env.frames.size < s'.env.frames.size →
      s'.env.frame s.env.frames.size =
        g ((s.env.pushFrame (some p.frame) fk).1.frame s.env.frames.size) →
      (κ s.env.frames.size).Guards S k p s' Q) :
    (onEnv (·.pushFrame (some p.frame) fk) >>= fun bf => modifyFrame bf g >>= fun _ => κ bf).Guards
      S k p s Q := by
  set e := (s.env.pushFrame (some p.frame) fk).1 with he
  set bf := s.env.frames.size
  have hsize : e.frames.size = bf + 1 := Env.frames_size_pushFrame _ _ _
  refine Post.bind (Post.onEnv (Q := fun a s1 => a = bf ∧ s1 = { s with env := e }) ⟨rfl, rfl⟩)
    fun a s1 ⟨ha, hs1⟩ => ?_
  subst ha hs1
  refine Post.bind (Post.modifyEnv (Q := fun _ s2 => s2 = { s with env := e.modifyFrame bf g }) rfl)
    fun _ s2 hs2 => ?_
  subst hs2
  have hframe : (e.modifyFrame bf g).frame bf = g (e.frame bf) := by
    rw [Env.frame_modifyFrame, if_pos ⟨rfl, by omega⟩]
  have hext := Extends.pushFrame s.env (some p.frame) fk g
  exact Post.mono (hκ _ hext (hg.pushFrame hf fk hset hown) (by simp [hsize]) hframe)
    fun _ _ ⟨he', hg', hq⟩ => ⟨hext.trans he', hg', hq⟩

include hr

/-- The one parameter of a `for` body arrives in a temporary, and is assigned to the loop
variable. -/
theorem forParameter_keepsBodies {var : Node} (hvar : var.UsesOnly S) :
    (forParameter r var).KeepsBodies S k := by
  intro p s hp
  unfold forParameter
  refine Guards.bind (Q := fun name _ => Internal name) (Post.onEnv
    ⟨Extends.of_frames_eq (frames_allocTempName _ "for"),
      hp.env.of_frames_eq (frames_allocTempName _ "for"),
      internal_allocTempName _ "for"⟩) fun name s1 e1 g1 hname => ?_
  have hp1 := hp.extend e1 g1
  refine Guards.bind_read frame_post (Guards.bind_keeps (declare_keepsBodies p.frame (.inl hname))
    hp1 fun t s2 e2 g2 => ?_)
  exact Guards.bind_keeps (hr.target var _ hvar) (hp1.extend e2 g2) fun _ s3 _ g3 =>
    Guards.pure g3 trivial

/-- A block or lambda definition, lowered where the frame of its block comes after `k`: its unit
has a scope of its own exactly when it is a lambda or not the body of a `for` loop, and a unit
without one holds only internal names and names of `S`. -/
theorem block_guards (hf : p.frame < s.env.frames.size) (hg : s.env.Guarded S k)
    {spec : BlockSpec} (hspec : ∀ c ∈ spec.nodes, c.UsesOnly S) (kind : ProcKind)
    (hfor : p.modes.forStatement = true → kind = .proc →
      spec.locals = [] ∧ spec.forVar.isSome = true) :
    (block r spec kind).Guards S k p s fun res _ => k ≤ s.env.frames.size →
      res.1.BlockOf S kind (kind == .lambda || !p.modes.forStatement) res.2 := by
  unfold block
  extract_lets isLambda unitKind
  refine Guards.bind_read modes_post ?_
  extract_lets ownScope
  -- a frame without a scope of its own is a `for` body's
  have hscope : ownScope = false → spec.locals = [] ∧ spec.forVar.isSome = true := by
    intro h
    simp only [ownScope, isLambda, Bool.or_eq_false_iff, Bool.not_eq_false', beq_eq_false_iff_ne,
      ne_eq] at h
    exact hfor h.2 (by cases kind <;> simp_all)
  refine Guards.bind_read frame_post ?_
  extract_lets afterReturn
  have hafterReturn : ∀ ret s1, s1.env.frames = s.env.frames → s1.env.Guarded S k →
      (afterReturn ret).Guards S k p s1 fun res _ => k ≤ s.env.frames.size →
        res.1.BlockOf S kind (kind == .lambda || !p.modes.forStatement) res.2 := by
    intro ret s1 hfr1 g1
    dsimp -zeta only [afterReturn]
    refine (Guards.of_frames (x := allocBreak) rfl g1).bind fun bid s2 _ g2 hfr2 => ?_
    have hsize2 : s2.env.frames.size = s.env.frames.size := by rw [hfr2, hfr1]
    refine pushFrame_bind_guards (hsize2 ▸ hf) g2 (fun _ => rfl) (fun ho => ?_)
      fun s3 e3 g3 hlt hbf => ?_
    · have hl : isLambda = false := by
        have ho' : ownScope = false := ho
        simp only [ownScope, Bool.or_eq_false_iff] at ho'
        exact ho'.1
      simp [hl]
    set bf := s2.env.frames.size
    have hbf' : bf = s.env.frames.size := hsize2
    -- the block's own locals, declared first, are declared only where there is a scope of one's own
    refine (Guards.forIn_unit (I := fun s' => bf < s'.env.frames.size ∧
        (s'.env.frame bf).ownScope = ownScope) spec.locals g3 ⟨hlt, by rw [hbf]⟩
      fun l hl s' g' ⟨hlt', hown'⟩ => ?_).bind fun _ s4 e4 g4 ⟨hlt4, hown4⟩ => ?_
    · refine (declareAt_guards g' fun _ ho => ?_).bind fun _ s'' e'' g'' _ =>
        Guards.pure g'' ⟨Nat.lt_of_lt_of_le hlt' e''.grows.size, (e''.ownScope_eq hlt').trans hown'⟩
      rw [(hscope (hown'.symm.trans ho)).1] at hl
      cases hl
    extract_lets afterMarker
    have hafterMarker : ∀ marker, (afterMarker marker).Guards S k p s4 fun res _ =>
        k ≤ s.env.frames.size →
          res.1.BlockOf S kind (kind == .lambda || !p.modes.forStatement) res.2 := by
      intro marker
      dsimp -zeta only [afterMarker]
      refine Guards.withReader ?_
      have hp4 : Place.Guarded S k { p with frame := bf, modes := {}, markers := [] } s4 :=
        ⟨hlt4, rfl, g4⟩
      extract_lets afterParams
      have hafterParams : ∀ x s5, s4.env.Extends s5.env → s5.env.Guarded S k →
          (afterParams x).Guards S k { p with frame := bf, modes := {}, markers := [] } s5
            fun res _ => k ≤ s.env.frames.size →
              res.1.BlockOf S kind (kind == .lambda || !p.modes.forStatement) res.2 := by
        intro x s5 e5 g5
        dsimp -zeta only [afterParams]
        refine Guards.bind_keeps (exprOrNil_keepsBodies hr (fun c hc => hspec c ?_) _)
          (hp4.extend e5 g5) fun b s6 e6 g6 => ?_
        · simp only [BlockSpec.nodes, List.mem_append, Option.mem_toList]
          exact .inl (.inr hc)
        refine Guards.bind_read (withPrelude_post _ _) (Guards.bind_read (frameData_post _)
          (Guards.bind_read (unitHead_post _ _ _ _) ?_))
        -- the unit's head is its frame's at the end: the scope it was given, and its locals
        have hown6 : (s6.env.frame bf).ownScope = ownScope :=
          ((e5.trans e6).ownScope_eq hlt4).trans hown4
        refine (Guards.atSpan g6 ?_).bind fun o s7 _ g7 ho => Guards.pure g7 ho
        refine fun hk => ⟨_, _, _, _, _, rfl, hown6, fun ho name hname => ?_⟩
        exact g6.bodyLocal (Nat.lt_of_lt_of_le hlt4 (e5.trans e6).grows.size) (hbf' ▸ hk)
          (hown6.trans ho) hname
      split
      · next v hv =>
        refine Guards.bind_keeps (forParameter_keepsBodies hr (hspec v ?_)) hp4
          fun x s5 e5 g5 => hafterParams x s5 e5 g5
        simp [BlockSpec.nodes, hv]
      · next hv =>
        -- a block with parameters has a scope of its own
        have hown : OwnFrame { p with frame := bf, modes := {}, markers := [] } s4 := by
          show (s4.env.frame bf).ownScope = true
          rw [hown4]
          cases ho : ownScope
          · have := (hscope ho).2
            rw [hv] at this
            cases this
          · rfl
        exact (parameters_guards hr hp4 hown (fun c hc => hspec c (by simp [BlockSpec.nodes, hc]))
          unitKind).bind fun x s5 e5 g5 _ => hafterParams x s5 e5 g5
    split
    · exact Guards.bind_read (Post.pure ⟨rfl, rfl⟩) (hafterMarker none)
    · exact Guards.bind_read currentMarker_post (hafterMarker _)
  split
  · exact (Guards.of_frames (x := some <$> allocReturn) rfl hg).bind fun ret s1 _ g1 hfr1 =>
      hafterReturn ret s1 hfr1 g1
  · exact Guards.bind_read (frameData_post _) (Guards.bind_read (Post.pure ⟨rfl, rfl⟩)
      (hafterReturn _ s rfl hg))

/-- A literal block's definition, with its break id and the temporary that marks its frame. -/
theorem literalBlock_guards (hf : p.frame < s.env.frames.size) (hg : s.env.Guarded S k)
    {spec : BlockSpec} (hspec : ∀ c ∈ spec.nodes, c.UsesOnly S)
    (hfor : p.modes.forStatement = true → spec.locals = [] ∧ spec.forVar.isSome = true) :
    (literalBlock r spec).Guards S k p s fun res _ => k ≤ s.env.frames.size →
      ∃ d bid marker, res = (some d, some (bid, marker)) ∧
        d.BlockOf S .proc (!p.modes.forStatement) bid := by
  unfold literalBlock withMarker
  refine (temp_guards hf hg _).bind fun marker s1 e1 g1 _ => ?_
  have hblock := block_guards hr (p := { p with markers := some marker :: p.markers })
    (Nat.lt_of_lt_of_le hf e1.grows.size) g1 hspec .proc fun h _ => hfor h
  refine (Guards.withReader hblock).bind fun res s2 _ g2 hres => ?_
  obtain ⟨d, bid⟩ := res
  exact Guards.pure g2 fun hk => ⟨d, bid, marker, rfl, hres (Nat.le_trans hk e1.grows.size)⟩

theorem literalBlock_keepsBodies {spec : BlockSpec} (hspec : ∀ c ∈ spec.nodes, c.UsesOnly S) :
    (literalBlock r spec).KeepsBodies S k := fun _ _ hp =>
  (literalBlock_guards hr hp.frame hp.env hspec fun h => by rw [hp.notFor] at h; cases h).mono
    fun _ _ _ _ _ => trivial

/-- A lambda's definition, a block with a scope of its own. -/
theorem lambda_keepsBodies {b : BlockLit Node} (hb : ∀ c ∈ (BlockSpec.ofLiteral b).nodes, c.UsesOnly S) :
    (lambda r b).KeepsBodies S k := fun p _ hp =>
  (Guards.withReader (block_guards hr (p := { p with markers := none :: p.markers }) hp.frame hp.env
    hb .lambda fun _ h => by cases h)).bind fun _ s1 _ g1 _ => Guards.pure g1 trivial

theorem blockArg_keepsBodies {b : BlockArg} (hb : ∀ c ∈ b.nodes, c.UsesOnly S) :
    (blockArg r b).KeepsBodies S k := by
  unfold blockArg
  split
  · exact KeepsBodies.pure _
  · next n =>
    have hn : n.UsesOnly S := hb n (List.mem_singleton_self _)
    split
    · next blk hk =>
      refine literalBlock_keepsBodies hr fun c hc => hn.child ?_
      rw [hk, Kind.children]
      simpa [BlockSpec.nodes, BlockSpec.ofLiteral] using hc
    · next body hk =>
      exact (hr.expr body (hn.child (by simp [hk, Kind.children]))).bind fun _ =>
        (KeepsBodies.atSpan _ _).bind fun _ => KeepsBodies.pure _
    · exact (hr.expr n hn).bind fun _ => KeepsBodies.pure _
  · exact literalBlock_keepsBodies hr hb

theorem arguments_keepsBodies {args : Option Node} (hargs : ∀ c ∈ args, c.UsesOnly S) (span : Span) :
    (arguments r args span).KeepsBodies S k := by
  unfold arguments
  split
  · exact KeepsBodies.pure _
  · next a =>
    have ha := hargs a rfl
    split
    · next els hk =>
      exact (exprs_keepsBodies hr fun c hc => ha.child (by simp [hk, Kind.children, hc])).bind
        fun _ => KeepsBodies.pure _
    all_goals first
      | exact (hr.expr _ ha).bind fun _ => KeepsBodies.pure _
      | split
        · exact KeepsBodies.fail _ _ _ _
        · exact KeepsBodies.throw _

theorem finishCall_keepsBodies (receiver : Op) (name : String) (args : List Op) (splatted : Bool)
    {block : BlockArg} (hb : ∀ c ∈ block.nodes, c.UsesOnly S) (flags : CallFlags) (span : Span) :
    (finishCall r receiver name args splatted block flags span).KeepsBodies S k :=
  modes_keepsBodies.bind fun _ => (blockArg_keepsBodies hr hb).bind fun _ =>
    (KeepsBodies.atSpan _ _).bind fun _ => KeepsBodies.pure _

theorem callNode_keepsBodies (receiver : Op) (name : String) {args : Option Node}
    (hargs : ∀ c ∈ args, c.UsesOnly S) {block : BlockArg} (hb : ∀ c ∈ block.nodes, c.UsesOnly S)
    (flags : CallFlags) (span : Span) : (callNode r receiver name args block flags span).KeepsBodies S k :=
  (arguments_keepsBodies hr hargs span).bind fun _ =>
    finishCall_keepsBodies hr _ _ _ _ hb _ _

/-- The call of a `for` loop hands `each` a block over a frame with no scope of its own; the unit
of that block, reached through the catch of its break and the mark of its frame, holds only
internal names and names of `S` when the loop variable and the body name only those. -/
theorem forCall_guards (hf : p.frame < s.env.frames.size) (hg : s.env.Guarded S k)
    (hfor : p.modes.forStatement = true) {var : Node} {body : Option Node}
    (hvar : var.UsesOnly S) (hbody : ∀ c ∈ body, c.UsesOnly S) (recv : Op) (span : Span) :
    (finishCall r recv "each" [] false (.synthetic { span, body, forVar := some var }) {}
      span).Guards S k p s fun o _ => k ≤ s.env.frames.size →
        ∃ d bid, o.atPath [0, 0, 1] = some d ∧ d.BlockOf S .proc false bid := by
  have hspec : ∀ c ∈ ({ span, body, forVar := some var } : BlockSpec).nodes, c.UsesOnly S := by
    intro c hc
    simp only [BlockSpec.nodes, Params.nodes, List.nil_append, List.flatMap_nil, List.append_nil,
      Option.toList_some, List.mem_append, Option.mem_toList, List.mem_singleton] at hc
    rcases hc with hc | rfl
    · exact hbody c hc
    · exact hvar
  unfold finishCall
  refine Guards.bind_read modes_post ((literalBlock_guards hr hf hg hspec fun _ => ⟨rfl, rfl⟩).bind
    fun res s1 _ g1 hres => ?_)
  obtain ⟨value, literal⟩ := res
  refine (Guards.atSpan g1 (Q := fun o _ => o = (Op.ofForm (.call recv "each" [] value
    (if p.modes.privately = true then { ignoreVisibility := true } else {}))).withSpan span)
    rfl).bind fun o s2 _ g2 ho => Guards.pure g2 fun hk => ?_
  obtain ⟨d, bid, marker, hvl, hd⟩ := hres hk
  rw [Prod.mk.injEq] at hvl
  obtain ⟨rfl, rfl⟩ := hvl
  subst ho
  rw [hfor] at hd
  exact ⟨d, bid, rfl, hd⟩

end Blocks

/-! ## Units of methods and modules

A method or module body is a unit over a new frame with a scope of its own, its parameters and
body lowered there. -/

section Units

variable {S : String → Prop} {k : Nat} {r : Recur} (hr : r.KeepsBodies S k)

theorem withPrelude_keepsBodies (prelude : List Op) (body : Op) :
    (withPrelude prelude body).KeepsBodies S k :=
  KeepsBodies.of_frames fun _ _ => (withPrelude_post _ _).mono fun _ _ h => by rw [h.2]

theorem unitHead_keepsBodies (id : Nat) (name : String) (kind : UnitKind) (arity : Arity) :
    (unitHead id name kind arity).KeepsBodies S k :=
  KeepsBodies.of_frames fun _ _ => (unitHead_post _ _ _ _).mono fun _ _ h => by rw [h.2]

include hr

theorem method_keepsBodies (definee : Op) (name : String) {params : Params Node}
    (hps : ∀ c ∈ params.nodes, c.UsesOnly S) {body : Option Node} (hbody : ∀ c ∈ body, c.UsesOnly S)
    (span : Span) : (method r definee name params body span).KeepsBodies S k := by
  intro p s hp
  unfold method
  refine (Guards.of_frames (x := allocReturn) rfl hp.env).bind fun rid s1 _ g1 hfr1 => ?_
  have hf1 : p.frame < s1.env.frames.size := by rw [hfr1]; exact hp.frame
  have hscope := Env.frame_pushFrame_scope s1.env (some p.frame) .method
  refine Guards.bind_read frame_post (pushFrame_bind_guards hf1 g1 (fun _ => rfl)
    (fun ho => absurd (hscope.1.symm.trans ho) Bool.noConfusion) fun s2 _ g2 hlt hmf => ?_)
  have hp2 : Place.Guarded S k { p with frame := s1.env.frames.size, modes := {}, markers := [] } s2 :=
    ⟨hlt, rfl, g2⟩
  have hown : OwnFrame { p with frame := s1.env.frames.size, modes := {}, markers := [] } s2 := by
    show (s2.env.frame _).ownScope = true
    rw [hmf]
    exact hscope.1
  refine Guards.withReader ((parameters_guards hr hp2 hown hps .method).bind fun x s3 e3 g3 _ => ?_)
  obtain ⟨arity, prelude⟩ := x
  exact ((exprOrNil_keepsBodies hr hbody span).bind fun _ => (withPrelude_keepsBodies _ _).bind
    fun _ => (unitHead_keepsBodies _ _ _ _).bind fun _ => KeepsBodies.atSpan _ _).guards
    (hp2.extend e3 g3)

theorem moduleBody_keepsBodies (definee : Op) (name : String) {body : Option Node}
    (hbody : ∀ c ∈ body, c.UsesOnly S) (span : Span) (singleton : Bool) :
    (moduleBody r definee name body span singleton).KeepsBodies S k := by
  intro p s hp
  unfold moduleBody
  refine Guards.bind_read frame_post ?_
  extract_lets afterReturn
  have hafterReturn : ∀ ret s1, s1.env.frames = s.env.frames → s1.env.Guarded S k →
      (afterReturn ret).Guards S k p s1 fun _ _ => True := by
    intro ret s1 hfr1 g1
    dsimp -zeta only [afterReturn]
    have hf1 : p.frame < s1.env.frames.size := by rw [hfr1]; exact hp.frame
    have hscope := Env.frame_pushFrame_scope s1.env (some p.frame) .moduleBody
    refine pushFrame_bind_guards hf1 g1 (fun _ => rfl)
      (fun ho => absurd (hscope.1.symm.trans ho) Bool.noConfusion) fun s2 _ g2 hlt _ => ?_
    exact Guards.withReader (((exprOrNil_keepsBodies hr hbody span).bind fun _ =>
      (KeepsBodies.atSpan _ _).bind fun _ => (withPrelude_keepsBodies _ _).bind fun _ =>
        (unitHead_keepsBodies _ _ _ _).bind fun _ => KeepsBodies.atSpan _ _).guards ⟨hlt, rfl, g2⟩)
  split
  · exact Guards.bind_read (frameData_post _) (Guards.bind_read (Post.pure ⟨rfl, rfl⟩)
      (hafterReturn _ s rfl hp.env))
  · exact (Guards.of_frames (x := some <$> allocReturn) rfl hp.env).bind fun ret s1 _ g1 hfr1 =>
      hafterReturn ret s1 hfr1 g1

/-- A module enters a new lexical scope for its body and leaves it after, which touches no frame. -/
theorem openModule_keepsBodies (definee : Op) (name : String) {body : Option Node}
    (hbody : ∀ c ∈ body, c.UsesOnly S) (span : Span) (singleton : Bool) :
    (openModule r definee name body span singleton).KeepsBodies S k :=
  (KeepsBodies.of_frames (x := onEnv Env.pushLexical) fun _ _ => rfl).bind fun _ =>
    KeepsBodies.restoring (KeepsBodies.of_frames fun _ _ => rfl)
      (moduleBody_keepsBodies hr definee name hbody span singleton)

end Units

end Lower

end RubyLower
