import RubyLower.Proofs.Steps
import RubyLower.Lower.Params

/-!
# The rules for parameter lists keep the lowering good

A prelude writes each parameter from the arguments of the call or from the elements of an array
local. Every slot it writes is declared in the place's frame or is a temporary there, every
default is lowered at the place, and a destructuring pattern is assigned through the recursive
target rule: so every binding of the prelude is good (`Lower.parameters_yields`).
-/

namespace RubyLower

namespace Lower

/-- Where positional parameters take their values, good at a place: an array local points into
the place's scopes. -/
def ArgSource.Good (src : ArgSource) (p : Place) (s : Progress) : Prop :=
  ∀ a, src = .array a → a.ResolvesIn (s.env.scopes p.frame)

section Rules

variable {r : Recur} (hr : r.Sound) {p : Place} {s : Progress}

theorem ArgSource.Good.evolve {src : ArgSource} {s' : Progress} (h : src.Good p s) (hp : p.Fits s)
    (he : s.Evolves s') : src.Good p s' :=
  fun a ha => (h a ha).mono (he.grows.scopes hp.frame)

theorem arrayIndex_good {a : Slot} (h : a.ResolvesIn (s.env.scopes p.frame)) (i : Int) :
    (arrayIndex a i).Good p s :=
  Op.Good.bare rfl (List.forall_mem_singleton.2 (Op.Good.readLocal h))

theorem restSlot_yields (hp : p.Fits s) (rest : RestParam) (pfx : String) :
    (restSlot rest pfx).Yields p s fun slot s' => slot.ResolvesIn (s'.env.scopes p.frame) := by
  unfold restSlot
  split
  · exact Yields.bind_read frame_post (declare_yields hp _)
  · exact temp_yields hp pfx
  · exact temp_yields hp pfx

include hr

theorem bindParameter_yields (hp : p.Fits s) (param : Node) {value : Op} (hv : value.Good p s) :
    (bindParameter r param value).Yields p s fun b s' => b.1.Good p s' := by
  unfold bindParameter
  split
  · refine Yields.bind_read frame_post ((declare_yields hp _).bind fun slot s1 e1 hslot => ?_)
    exact Yields.pure (Op.Good.withSpan (Op.Good.writeLocal hslot (hv.evolve hp e1)))
  · refine (temp_yields hp _).bind fun t s1 e1 ht => ?_
    refine (hr.target param _ p s1 (hp.evolve e1) (Op.Good.readLocal ht)).bind
      fun d s2 e2 hd => Yields.pure (Op.Good.sequence ?_)
    simp only [List.mem_cons, List.not_mem_nil, or_false]
    rintro x (rfl | rfl)
    · exact Op.Good.writeLocal (ht.mono (e2.grows.scopes (hp.evolve e1).frame))
        ((hv.evolve hp e1).evolve (hp.evolve e1) e2)
    · exact hd
  · exact (hr.target param value p s hp hv).bind fun _ _ _ h => Yields.pure h

theorem preBinding_yields (hp : p.Fits s) (missing : MissingArg) {src : ArgSource}
    (hsrc : src.Good p s) (index : Nat) (param : Node) :
    (preBinding r missing src index param).Yields p s fun b s' => b.1.Good p s' := by
  unfold preBinding
  refine bindParameter_yields hr hp param ?_
  split
  · exact Op.Good.leaf rfl rfl
  · exact arrayIndex_good (hsrc _ rfl) _

theorem optionalBinding_yields (hp : p.Fits s) (params : Params Node) {src : ArgSource}
    (hsrc : src.Good p s) (offset : Nat) (param : Node) :
    (optionalBinding r params src offset param).Yields p s fun b s' => b.1.Good p s' := by
  unfold optionalBinding
  dsimp only
  -- a parameter that is no assignment fails; the two kinds of assignment lower alike
  split
  case h_3 => exact Yields.fail
  all_goals
    refine Yields.bind_read (Post.pure ⟨rfl, rfl⟩) ?_
    dsimp only
    split
    · refine (hr.expr _ p s hp).bind fun dflt s1 e1 hd => ?_
      refine Yields.bind_read frame_post ((declare_yields (hp.evolve e1) _).bind
        fun slot s2 e2 hslot => Yields.pure (Op.Good.withSpan (Op.Good.writeLocal hslot ?_)))
      have hd2 := hd.evolve (hp.evolve e1) e2
      split
      · exact Op.Good.bare rfl (List.forall_mem_singleton.2 hd2)
      · have ha := ((hsrc _ rfl).mono (e1.grows.scopes hp.frame)).mono
          (e2.grows.scopes (hp.evolve e1).frame)
        exact Op.Good.ifElse (Op.Good.bare rfl (List.forall_mem_singleton.2 (Op.Good.readLocal ha)))
          (arrayIndex_good ha _) hd2
    · refine Yields.bind_read (Post.pure ⟨rfl, rfl⟩) ?_
      refine Yields.bind_read frame_post ((declare_yields hp _).bind
        fun slot s2 e2 hslot => Yields.pure (Op.Good.withSpan (Op.Good.writeLocal hslot ?_)))
      split
      · exact Op.Good.bare rfl (List.forall_mem_singleton.2 Op.Good.nil)
      · have ha := (hsrc _ rfl).mono (e2.grows.scopes hp.frame)
        exact Op.Good.ifElse (Op.Good.bare rfl (List.forall_mem_singleton.2 (Op.Good.readLocal ha)))
          (arrayIndex_good ha _) Op.Good.nil

theorem postBinding_yields (hp : p.Fits s) (params : Params Node) {src : ArgSource}
    (hsrc : src.Good p s) (n : Nat) (param : Node) :
    (postBinding r params src n param).Yields p s fun b s' => b.1.Good p s' := by
  unfold postBinding
  refine bindParameter_yields hr hp param ?_
  split
  · exact Op.Good.leaf rfl rfl
  · have ha := hsrc _ rfl
    exact Op.Good.ifElse (Op.Good.bare rfl (List.forall_mem_singleton.2 (Op.Good.readLocal ha)))
      (arrayIndex_good ha _) (arrayIndex_good ha _)

theorem positional_yields (hp : p.Fits s) (params : Params Node) (kind : UnitKind)
    {src : ArgSource} (hsrc : src.Good p s) (names : MethodParams) :
    (positional r params kind src names).Yields p s fun b s' => ∀ o ∈ b.1, o.Good p s' := by
  unfold positional
  dsimp only
  refine (Yields.mapM (Q := fun b s' => b.1.Good p s') (fun _ _ _ hp he h => h.evolve hp he) _ hp
    fun ⟨i, param⟩ _ s' hp' e' => preBinding_yields hr hp' _ (hsrc.evolve hp e') i param).bind
    fun pres s1 e1 hpres => ?_
  have hp1 := hp.evolve e1
  refine (Yields.mapM (Q := fun b s' => b.1.Good p s') (fun _ _ _ hp he h => h.evolve hp he) _ hp1
    fun ⟨i, param⟩ _ s' hp' e' =>
      optionalBinding_yields hr hp' _ (hsrc.evolve hp (e1.trans e')) i param).bind
    fun optionals s2 e2 hopt => ?_
  have hp2 := hp1.evolve e2
  -- the rest parameter, if there is one, binds a slot of the frame; then the trailing ones follow
  split
  case' h_1 | h_2 =>
    refine (Yields.pure (Q := fun (rest : Option (Op × String)) s' => ∀ w ∈ rest, w.1.Good p s')
      (by simp)).bind fun rest s3 e3 hrest => ?_
  case' h_3 =>
    refine (restSlot_yields hp2 _ _).bind fun slot sr er hslot => ?_
    refine (Yields.pure (Q := fun (rest : Option (Op × String)) s' => ∀ w ∈ rest, w.1.Good p s')
      ?_).bind fun rest s3 e3' hrest => ?_
    · intro w hw
      rw [Option.mem_def, Option.some.injEq] at hw
      subst hw
      refine Op.Good.writeLocal hslot ?_
      split
      · exact Op.Good.leaf rfl rfl
      · exact Op.Good.bare rfl (List.forall_mem_singleton.2 (Op.Good.readLocal
          ((hsrc _ rfl).mono ((e1.trans (e2.trans er)).grows.scopes hp.frame))))
    have e3 := er.trans e3'
  all_goals
    have hp3 := hp2.evolve e3
    refine (Yields.mapM (Q := fun b s' => b.1.Good p s') (fun _ _ _ hp he h => h.evolve hp he) _ hp3
      fun ⟨i, param⟩ _ s' hp' e' =>
        postBinding_yields hr hp' _ (hsrc.evolve hp (e1.trans (e2.trans (e3.trans e')))) i
          param).bind fun posts s4 e4 hposts => Yields.pure ?_
    intro o ho
    simp only [List.mem_append, List.mem_map, Option.mem_toList, Option.map_eq_some_iff] at ho
    rcases ho with ((⟨b, hb, rfl⟩ | ⟨b, hb, rfl⟩) | ⟨b, hb, rfl⟩) | ⟨b, hb, rfl⟩
    · exact (((hpres b hb).evolve hp1 e2).evolve hp2 e3).evolve hp3 e4
    · exact ((hopt b hb).evolve hp2 e3).evolve hp3 e4
    · exact (hrest b hb).evolve hp3 e4
    · exact hposts b hb

theorem keywordBinding_yields (hp : p.Fits s) (kw : String × Option Node) :
    (keywordBinding r kw).Yields p s fun o s' => o.Good p s' := by
  refine (optionMapM_yields hr hp kw.2).bind fun dflt s1 e1 hd => ?_
  refine Yields.bind_read frame_post ((declare_yields (hp.evolve e1) _).bind
    fun slot s2 e2 hslot => Yields.pure (Op.Good.writeLocal hslot (Op.Good.bare rfl ?_)))
  intro x hx
  exact (hd x (by simpa [Form.children] using hx)).evolve (hp.evolve e1) e2

/-- Every binding of a prelude is good: the arity check carries nothing, and the block of a
method, the positional, keyword, keyword rest and block parameters each write a slot of the frame
from a good value. -/
theorem parameters_yields (hp : p.Fits s) (params : Params Node) (kind : UnitKind) :
    (parameters r params kind).Yields p s fun b s' => ∀ o ∈ b.2, o.Good p s' := by
  unfold parameters
  extract_lets required optional arity check afterKeep
  have hcheck : ∀ s', ∀ o ∈ check, o.Good p s' := by
    intro s' o ho
    simp only [check] at ho
    split at ho
    · simp at ho
    · rw [List.mem_singleton] at ho
      exact ho ▸ Op.Good.leaf rfl rfl
  -- each join point of the rule gets its promise once, from the last one back
  have hafterKeep : ∀ keep s1, p.Fits s1 → (∀ o ∈ keep, o.Good p s1) →
      (afterKeep keep).Yields p s1 fun b s' => ∀ o ∈ b.2, o.Good p s' := by
    intro keep s1 hp1 hkeep
    dsimp -zeta only [afterKeep]
    extract_lets afterPositional
    have hafterPositional : ∀ (pn : List Op × MethodParams) s2, p.Fits s2 →
        (∀ o ∈ keep, o.Good p s2) → (∀ o ∈ pn.1, o.Good p s2) →
        (afterPositional pn).Yields p s2 fun b s' => ∀ o ∈ b.2, o.Good p s' := by
      rintro ⟨positionals, names⟩ s2 hp2 hkeep2 hpos
      dsimp -zeta only [afterPositional]
      refine (Yields.mapM (fun _ _ _ hp he h => h.evolve hp he) _ hp2
        fun kw _ s' hp' _ => keywordBinding_yields hr hp' kw).bind fun keywords s3 e3 hkw => ?_
      have hp3 := hp2.evolve e3
      extract_lets names' afterKeywordRest
      have hafterKeywordRest : ∀ (kr : List Op × MethodParams) s4, p.Fits s4 → s3.Evolves s4 →
          (∀ o ∈ kr.1, o.Good p s4) →
          (afterKeywordRest kr).Yields p s4 fun b s' => ∀ o ∈ b.2, o.Good p s' := by
        rintro ⟨keywordRest, names⟩ s4 hp4 e4 hkr
        dsimp -zeta only [afterKeywordRest]
        extract_lets afterBlock
        have hafterBlock : ∀ (bp : List Op × MethodParams) s5, p.Fits s5 → s4.Evolves s5 →
            (∀ o ∈ bp.1, o.Good p s5) →
            (afterBlock bp).Yields p s5 fun b s' => ∀ o ∈ b.2, o.Good p s' := by
          rintro ⟨blockParam, names⟩ s5 hp5 e5 hbp
          dsimp -zeta only [afterBlock]
          extract_lets finish
          have hfinish : ∀ u s6, s5.Evolves s6 → (finish u).Yields p s6
              fun b s' => ∀ o ∈ b.2, o.Good p s' := by
            intro u s6 e6
            refine Yields.pure fun o ho => ?_
            have e36 := e4.trans (e5.trans e6)
            simp only [List.mem_append] at ho
            rcases ho with ((((ho | ho) | ho) | ho) | ho) | ho
            · exact hcheck _ o ho
            · exact (hkeep2 o ho).evolve hp2 (e3.trans e36)
            · exact (hpos o ho).evolve hp2 (e3.trans e36)
            · exact (hkw o ho).evolve hp3 e36
            · exact (hkr o ho).evolve hp4 (e5.trans e6)
            · exact (hbp o ho).evolve hp5 e6
          split
          · refine Yields.bind_read frame_post ((modifyFrame_yields ?_ ?_ ?_).bind
              fun u s6 e6 _ => hfinish u s6 e6)
            · exact fun _ => ⟨rfl, rfl, rfl, List.prefix_refl _, fun h => h, List.prefix_refl _⟩
            · exact fun _ => rfl
            · exact fun _ => rfl
          · exact hfinish () s5 (Progress.Evolves.refl _)
        split
        · refine Yields.bind_read frame_post ((declare_yields hp4 _).bind fun slot s5 e5 hslot => ?_)
          refine Yields.bind_read (Post.pure ⟨rfl, rfl⟩) (hafterBlock _ s5 (hp4.evolve e5) e5 ?_)
          exact List.forall_mem_singleton.2 (Op.Good.writeLocal hslot (Op.Good.leaf rfl rfl))
        · exact Yields.bind_read (Post.pure ⟨rfl, rfl⟩)
            (hafterBlock _ s4 hp4 (Progress.Evolves.refl _) (by simp))
      split
      · refine (restSlot_yields hp3 _ _).bind fun slot s4 e4 hslot => ?_
        refine Yields.bind_read (Post.pure ⟨rfl, rfl⟩) (hafterKeywordRest _ s4 (hp3.evolve e4) e4 ?_)
        exact List.forall_mem_singleton.2 (Op.Good.writeLocal hslot (Op.Good.leaf rfl rfl))
      · exact Yields.bind_read (Post.pure ⟨rfl, rfl⟩)
          (hafterKeywordRest _ s3 hp3 (Progress.Evolves.refl _) (by simp))
    split
    · refine (positional_yields hr hp1 params kind (fun _ h => by cases h) {}).bind
        fun ⟨direct, names⟩ s2 e2 hdirect => ?_
      have hp2 := hp1.evolve e2
      refine (temp_yields hp2 _).bind fun array s3 e3 harray => ?_
      have hp3 := hp2.evolve e3
      refine (positional_yields hr hp3 params kind (fun _ h => ?_) {}).bind
        fun ⟨spread, _⟩ s4 e4 hspread => ?_
      · cases h
        exact harray
      have hp4 := hp3.evolve e4
      refine Yields.bind_read (Post.pure ⟨rfl, rfl⟩) (hafterPositional _ s4 hp4
        (fun o ho => ((hkeep o ho).evolve hp1 e2).evolve hp2 (e3.trans e4)) ?_)
      simp only [List.mem_singleton, forall_eq]
      refine Op.Good.ifElse (Op.Good.leaf rfl rfl) (Op.Good.sequence ?_)
        (Op.Good.sequence fun o ho => (hdirect o ho).evolve hp2 (e3.trans e4))
      simp only [List.mem_cons]
      rintro o (rfl | ho)
      · exact Op.Good.writeLocal (harray.mono (e4.grows.scopes hp3.frame))
          (Op.Good.bare rfl (List.forall_mem_singleton.2 (Op.Good.leaf rfl rfl)))
      · exact hspread o ho
    · exact (positional_yields hr hp1 params kind (fun _ h => by cases h) {}).bind
        fun pn s2 e2 hpn => hafterPositional pn s2 (hp1.evolve e2)
          (fun o ho => (hkeep o ho).evolve hp1 e2) hpn
  split
  · refine Yields.bind_read frame_post ((declare_yields hp _).bind fun slot s1 e1 hslot => ?_)
    refine Yields.bind_read (Post.pure ⟨rfl, rfl⟩) (hafterKeep _ s1 (hp.evolve e1) ?_)
    exact List.forall_mem_singleton.2 (Op.Good.writeLocal hslot (Op.Good.leaf rfl rfl))
  · exact Yields.bind_read (Post.pure ⟨rfl, rfl⟩) (hafterKeep [] s hp (by simp))

end Rules

end Lower

end RubyLower
