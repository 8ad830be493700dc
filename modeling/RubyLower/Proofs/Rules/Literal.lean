import RubyLower.Proofs.Steps
import RubyLower.Lower.Literal

/-!
# The rules for literals keep the lowering good

Numbers, strings, symbols, regular expressions, hashes and ranges are built from the lowerings of
their parts and carry nothing of their own. Two rules do: a regular expression match with named
groups writes each group to a local (`Lower.match2_yields`), and a flip-flop keeps its state in a
slot of its own frame that the frame's unit sets up first (`Lower.flipFlop_yields`).
-/

namespace RubyLower

namespace Lower

/-- A range lowers its bounds in order, a missing one being nil. -/
theorem range_eq (r : Recur) (low high : Option Node) (exclusive : Bool) (span : Span) :
    range r low high exclusive span = (do
      let lo ← low.elim (pure Op.nil) r.expr
      let hi ← high.elim (pure Op.nil) r.expr
      atSpan (Op.ofForm (.range lo hi exclusive)) span) := by
  cases low <;> cases high <;> rfl

section Rules

variable {r : Recur} (hr : r.Sound) {p : Place} {s : Progress}

theorem fixnum_yields (v : Int) (span : Span) :
    (fixnum v span).Yields p s fun o s' => o.Good p s' := by
  unfold fixnum
  split <;> exact Yields.atSpan (Op.Good.withSpan (Op.Good.leaf rfl rfl))

theorem bignum_yields (digits : String) (span : Span) :
    (bignum digits span).Yields p s fun o s' => o.Good p s' := by
  unfold bignum
  split
  · exact Yields.fail
  · split
    · exact Yields.pure (Op.Good.withSpan (Op.Good.leaf rfl rfl))
    · exact Yields.pure (Op.Good.withSpan (Op.Good.object _))

theorem str_yields (value : String) (frozen : Bool) (span : Span) :
    (str value frozen span).Yields p s fun o s' => o.Good p s' := by
  refine Yields.bind_read options_post ?_
  split
  · exact Yields.pure (Op.Good.withSpan (Op.Good.bare rfl (List.forall_mem_singleton.2 (Op.Good.object _))))
  · exact Yields.pure (Op.Good.withSpan (Op.Good.leaf rfl rfl))

theorem command_yields {text : Op} (h : text.Good p s) (span : Span) :
    (command text span).Yields p s fun o s' => o.Good p s' :=
  Yields.atSpan (Op.Good.withSpan (Op.Good.call Op.Good.selfValue (List.forall_mem_singleton.2 h) _ _))

theorem regexp_yields (source : String) (flags : RegexpFlags) (span : Span) :
    (regexp source flags span).Yields p s fun o s' => o.Good p s' :=
  Yields.atSpan (Op.Good.withSpan (Op.Good.object _))

theorem topConst_good (name : String) : (topConst name).Good p s :=
  Op.Good.bare rfl (List.forall_mem_singleton.2 (Op.Good.object _))

/-- The interpolation of good parts is good. -/
theorem interpolated_good {parts : List Op} (h : ∀ o ∈ parts, o.Good p s) :
    (Op.ofForm (.interpolated parts)).Good p s :=
  Op.Good.bare rfl (by simpa [Form.children] using h)

/-- The setters of a named group write a slot of the group's name found from the place's
frame. -/
theorem captureSetters_yields (hp : p.Fits s) {matchData : Slot}
    (hm : matchData.ResolvesIn (s.env.scopes p.frame)) (declareIn : Nat) (name : String) :
    (captureSetters matchData declareIn name).Yields p s fun w s' =>
      w.1.Good p s' ∧ w.2.Good p s' := by
  refine (declare_yields_any declareIn name).bind fun _ s1 e1 _ => ?_
  refine (resolveOrDeclare_yields (hp.evolve e1) name).bind fun slot s2 e2 hslot => Yields.pure ?_
  have hm2 := (hm.mono (e1.grows.scopes hp.frame)).mono (e2.grows.scopes (hp.evolve e1).frame)
  exact ⟨Op.Good.writeLocal hslot (Op.Good.call (Op.Good.readLocal hm2)
    (List.forall_mem_singleton.2 (Op.Good.symbol name)) _ _), Op.Good.writeLocal hslot Op.Good.nil⟩

/-- What a hash literal has gathered: good finished parts and good pending pairs, at a place that
fits. -/
def HashAcc (p : Place) (acc : List Op × List (Op × Op)) (s : Progress) : Prop :=
  p.Fits s ∧ (∀ o ∈ acc.1, o.Good p s) ∧ ∀ kv ∈ acc.2, kv.1.Good p s ∧ kv.2.Good p s

theorem HashAcc.evolve {acc : List Op × List (Op × Op)} {s' : Progress} (h : HashAcc p acc s)
    (he : s.Evolves s') : HashAcc p acc s' :=
  ⟨h.1.evolve he, fun o ho => (h.2.1 o ho).evolve h.1 he,
    fun kv hkv => ⟨(h.2.2 kv hkv).1.evolve h.1 he, (h.2.2 kv hkv).2.evolve h.1 he⟩⟩

theorem hashLit_good {pairs : List (Op × Op)} (h : ∀ kv ∈ pairs, kv.1.Good p s ∧ kv.2.Good p s) :
    (Op.ofForm (.hashLit pairs)).Good p s := by
  refine Op.Good.bare rfl fun x hx => ?_
  simp only [Form.children, List.mem_flatMap, List.mem_cons, List.not_mem_nil, or_false] at hx
  obtain ⟨kv, hkv, rfl | rfl⟩ := hx
  · exact (h kv hkv).1
  · exact (h kv hkv).2

section Parts

include hr

theorem rational_yields (hp : p.Fits s) (a b : Node) (span : Span) :
    (rational r a b span).Yields p s fun o s' => o.Good p s' := by
  refine (hr.expr a p s hp).bind fun n s1 e1 hn => ?_
  refine (hr.expr b p s1 (hp.evolve e1)).bind fun d s2 e2 hd => Yields.pure ?_
  exact Op.Good.withSpan
    (Op.Good.call (topConst_good _) (by simpa using ⟨hn.evolve (hp.evolve e1) e2, hd⟩) _ _)

theorem complex_yields (hp : p.Fits s) (a : Node) (span : Span) :
    (complex r a span).Yields p s fun o s' => o.Good p s' := by
  refine (hr.expr a p s hp).bind fun n s1 _ hn => Yields.pure ?_
  have hzero : (Op.ofForm (.integer 0)).Good p s1 := Op.Good.leaf rfl rfl
  exact Op.Good.withSpan (Op.Good.call (topConst_good _) (by simpa using ⟨hzero, hn⟩) _ _)

theorem dstr_yields (hp : p.Fits s) (parts : List Node) (span : Span) :
    (dstr r parts span).Yields p s fun o s' => o.Good p s' :=
  (exprs_yields hr hp parts).bind fun _ _ _ h => Yields.pure (Op.Good.withSpan (interpolated_good h))

theorem dsymbol_yields (hp : p.Fits s) (parts : List Node) (span : Span) :
    (dsymbol r parts span).Yields p s fun o s' => o.Good p s' :=
  (exprs_yields hr hp parts).bind fun _ _ _ h => Yields.pure
    (Op.Good.withSpan (Op.Good.bare rfl (List.forall_mem_singleton.2 (interpolated_good h))))

theorem dxstr_yields (hp : p.Fits s) (parts : List Node) (span : Span) :
    (dxstr r parts span).Yields p s fun o s' => o.Good p s' :=
  (exprs_yields hr hp parts).bind fun _ _ _ h => command_yields (interpolated_good h) span

theorem evstr_yields (hp : p.Fits s) (body : Option Node) (span : Span) :
    (evstr r body span).Yields p s fun o s' => o.Good p s' := by
  unfold evstr
  split
  · exact Yields.pure (Op.Good.withSpan (Op.Good.leaf rfl rfl))
  · exact (hr.expr _ p s hp).bind fun _ _ _ h =>
      Yields.pure (Op.Good.withSpan (Op.Good.bare rfl (List.forall_mem_singleton.2 h)))

theorem dregexp_yields (hp : p.Fits s) (parts : List Node) (flags : RegexpFlags) (span : Span) :
    (dregexp r parts flags span).Yields p s fun o s' => o.Good p s' := by
  refine (exprs_yields hr hp parts).bind fun _ _ _ h => ?_
  have hre : (Op.ofForm (.interpolatedRegexp _ flags.withoutOnce)).Good p _ :=
    Op.Good.bare rfl (by simpa [Form.children] using h)
  split
  · exact Yields.pure (Op.Good.withSpan (Op.Good.bare rfl (List.forall_mem_singleton.2 hre)))
  · exact Yields.pure (Op.Good.withSpan hre)

theorem matchLastLine_yields (hp : p.Fits s) (re : Node) (span : Span) :
    (matchLastLine r re span).Yields p s fun o s' => o.Good p s' :=
  (hr.expr re p s hp).bind fun _ _ _ h => Yields.pure
    (Op.Good.withSpan (Op.Good.call h (List.forall_mem_singleton.2 (Op.Good.leaf rfl rfl)) _ _))

theorem match2_yields (hp : p.Fits s) (receiver value : Node) (span : Span) :
    (match2 r receiver value span).Yields p s fun o s' => o.Good p s' := by
  refine (hr.expr receiver p s hp).bind fun re s1 e1 hre => ?_
  refine (hr.expr value p s1 (hp.evolve e1)).bind fun v s2 e2 hv => ?_
  have hp2 := (hp.evolve e1).evolve e2
  have hcall : ((Op.call re "=~" [v]).withSpan span).Good p s2 :=
    Op.Good.withSpan (Op.Good.call (hre.evolve (hp.evolve e1) e2) (List.forall_mem_singleton.2 hv) _ _)
  refine Yields.bind_read (Post.atSpan ⟨rfl, rfl⟩) ?_
  split
  · dsimp only
    split
    · exact Yields.pure hcall
    · refine (temp_yields hp2 _).bind fun md s3 e3 hmd => ?_
      have hp3 := hp2.evolve e3
      refine Yields.bind_read env_post (Yields.bind_read frame_post ?_)
      refine (Yields.mapM (Q := fun w s' => w.1.Good p s' ∧ w.2.Good p s')
        (fun _ _ _ hp he h => ⟨h.1.evolve hp he, h.2.evolve hp he⟩) _ hp3
        fun n _ s' hp' e' => captureSetters_yields hp' (hmd.mono (e'.grows.scopes hp3.frame)) _ n).bind
        fun setters s4 e4 hs => Yields.pure (Op.Good.bare rfl ?_)
      simp only [Form.children, List.mem_cons, List.mem_append, List.mem_map]
      rintro x ((rfl | rfl | ⟨w, hw, rfl⟩) | ⟨w, hw, rfl⟩)
      · exact hcall.evolve hp2 (e3.trans e4)
      · exact Op.Good.writeLocal (hmd.mono (e4.grows.scopes hp3.frame))
          (Op.Good.leaf rfl rfl)
      · exact (hs w hw).1
      · exact (hs w hw).2
  · exact Yields.pure hcall

theorem hashStep_yields (acc : List Op × List (Op × Op)) (pair : Option Node × Node)
    (hacc : HashAcc p acc s) : (hashStep r acc pair).Yields p s fun acc' s' => HashAcc p acc' s' := by
  obtain ⟨hp, hparts, hpairs⟩ := hacc
  unfold hashStep
  split
  · refine (hr.expr _ p s hp).bind fun k s1 e1 hk => ?_
    refine (hr.expr _ p s1 (hp.evolve e1)).bind fun v s2 e2 hv => Yields.pure ?_
    have h2 := (HashAcc.evolve ⟨hp, hparts, hpairs⟩ e1).evolve e2
    refine ⟨h2.1, h2.2.1, fun kv hkv => ?_⟩
    rcases List.mem_append.1 hkv with hkv | hkv
    · exact h2.2.2 kv hkv
    · rw [List.mem_singleton] at hkv
      exact hkv ▸ ⟨hk.evolve (hp.evolve e1) e2, hv⟩
  · refine (hr.expr _ p s hp).bind fun v s1 e1 hv => Yields.pure ?_
    have h1 := HashAcc.evolve ⟨hp, hparts, hpairs⟩ e1
    refine ⟨h1.1, fun o ho => ?_, by simp⟩
    simp only [List.mem_append, List.mem_singleton] at ho
    rcases ho with ho | rfl
    · split at ho
      · exact h1.2.1 o ho
      · rcases List.mem_append.1 ho with ho | ho
        · exact h1.2.1 o ho
        · rw [List.mem_singleton] at ho
          exact ho ▸ hashLit_good h1.2.2
    · exact Op.Good.bare rfl (List.forall_mem_singleton.2 hv)

theorem hash_yields (hp : p.Fits s) (pairs : List (Option Node × Node)) (span : Span) :
    (hash r pairs span).Yields p s fun o s' => o.Good p s' := by
  refine (Yields.foldlM pairs (I := HashAcc p) ⟨hp, by simp, by simp⟩
    fun pair _ acc s' h => hashStep_yields hr acc pair h).bind fun ⟨parts, pending⟩ s1 _ h1 => ?_
  -- the pending pairs close the last part, unless there are none after a part
  have hall : ∀ o ∈ (if !pending.isEmpty || parts.isEmpty then
      parts ++ [Op.ofForm (.hashLit pending)] else parts), o.Good p s1 := by
    intro o ho
    split at ho
    · rcases List.mem_append.1 ho with ho | ho
      · exact h1.2.1 o ho
      · rw [List.mem_singleton] at ho
        exact ho ▸ hashLit_good h1.2.2
    · exact h1.2.1 o ho
  dsimp only
  split
  · next single hsingle =>
    rw [hsingle] at hall
    exact Yields.atSpan (Op.Good.withSpan (hall single (List.mem_singleton_self _)))
  · exact Yields.pure (Op.Good.withSpan (Op.Good.bare rfl hall))

theorem range_yields (hp : p.Fits s) (low high : Option Node) (exclusive : Bool) (span : Span) :
    (range r low high exclusive span).Yields p s fun o s' => o.Good p s' := by
  -- the rule lowers each bound, a missing one being nil
  have bound : ∀ (n : Option Node) s', p.Fits s' →
      (n.elim (pure Op.nil) r.expr).Yields p s' fun o s'' => o.Good p s'' := by
    intro n s' hp'
    cases n with
    | some n => exact hr.expr n p s' hp'
    | none => exact Yields.pure Op.Good.nil
  rw [range_eq]
  refine (bound low s hp).bind fun lo s1 e1 hlo => ?_
  refine (bound high s1 (hp.evolve e1)).bind fun hi s2 e2 hhi => Yields.pure ?_
  exact Op.Good.withSpan (Op.Good.bare rfl (by simpa [Form.children] using
    ⟨hlo.evolve (hp.evolve e1) e2, hhi⟩))

/-- A flip-flop's state is a slot of depth zero of the place's frame, among the states the frame's
unit sets up first. -/
theorem flipFlop_yields (hp : p.Fits s) (low high : Node) (exclusive : Bool) (span : Span) :
    (flipFlop r low high exclusive span).Yields p s fun o s' => o.Good p s' := by
  refine (hr.expr low p s hp).bind fun lo s1 e1 hlo => ?_
  refine (hr.expr high p s1 (hp.evolve e1)).bind fun hi s2 e2 hhi => ?_
  have hp2 := (hp.evolve e1).evolve e2
  refine Yields.bind_read frame_post ((allocFlipFlop_yields hp2).bind
    fun state s3 e3 hstate => Yields.pure (Op.Good.withSpan (Op.Good.node rfl hstate trivial
      (fun _ _ => trivial) ?_)))
  simpa [Form.children] using ⟨(hlo.evolve (hp.evolve e1) e2).evolve hp2 e3, hhi.evolve hp2 e3⟩

end Parts

end Rules

end Lower

end RubyLower
