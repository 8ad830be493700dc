import RubyLower.Proofs.ForBody

/-!
# What `super` without arguments passes on

`super` without arguments passes on the parameters of the method it is written in. It finds the
method's frame (`Env.methodFrame`: the first frame out from its own that is no block or lambda),
takes the parameter names recorded there (`MethodParams.forwarded`), and reads each of them with
`Lower.readParam`. That read resolves the name from the frame the `super` stands in, as every read
of a local does, so it reads the first frame on the way out that declares the name. That is the
method's own slot, as many frames out as there are blocks in between and at the name's position
in the method's locals, exactly when none of those blocks declares a local of the same name
(`Lower.zsuper_forwardsSeenSlots`). A block parameter named like a parameter of the method is
passed on in its place (`compileUnit_zsuper_passesShadowingParam`).
-/

namespace RubyLower

/-- The parameters that `super` without arguments passes on, by name: leading, optional, rest,
trailing, keywords and the keyword rest. The block goes separately. -/
def MethodParams.forwarded (ps : MethodParams) : List String :=
  ps.pre ++ ps.optional ++ ps.rest.toList ++ ps.post ++ ps.keywords ++ ps.keywordRest.toList

namespace Op

theorem mem_nodes_mk {f : Form Op} {sp : Option Span} {fl : OpFlags} {x : Op} :
    x ∈ (Op.mk f sp fl).nodes ↔ x = Op.mk f sp fl ∨ ∃ c ∈ f.children, x ∈ c.nodes := by
  rw [nodes]
  simp only [List.mem_cons, List.mem_flatMap, List.mem_attach, true_and, Subtype.exists,
    exists_prop]

/-- Every local that `o` reads satisfies `R`. -/
def ReadsOnly (R : Slot → Prop) (o : Op) : Prop :=
  ∀ x ∈ o.nodes, ∀ slot, x.form = .readLocal slot → R slot

variable {R : Slot → Prop}

theorem readsOnly_readLocal {slot : Slot} : (Op.readLocal slot).ReadsOnly R ↔ R slot := by
  refine ⟨fun h => h _ (self_mem_nodes _) slot rfl, fun h x hx t ht => ?_⟩
  rcases mem_nodes_mk.1 hx with rfl | ⟨c, hc, -⟩
  · cases ht
    exact h
  · cases hc

/-- A node that reads no local itself reads only what its children read. -/
theorem ReadsOnly.mk {f : Form Op} {sp : Option Span} {fl : OpFlags}
    (hf : ∀ slot, f ≠ .readLocal slot) (hc : ∀ c ∈ f.children, c.ReadsOnly R) :
    (Op.mk f sp fl).ReadsOnly R := by
  intro x hx slot hslot
  rcases mem_nodes_mk.1 hx with rfl | ⟨c, hmem, hxc⟩
  · exact absurd hslot (hf slot)
  · exact hc c hmem x hxc slot hslot

/-- The slot a node reads, when it reads a local. -/
def localSlot (o : Op) : Option Slot :=
  match o.form with
  | .readLocal s => some s
  | _ => none

end Op

/-- The arguments of a `super` without arguments. -/
def Form.implicitSuperArgs {α : Type} : Form α → Option (List α)
  | .superCall args _ _ true => some args
  | _ => none

theorem Form.eq_superCall_of_implicitSuperArgs {α : Type} {f : Form α} {args : List α}
    (h : f.implicitSuperArgs = some args) :
    ∃ value splatted, f = .superCall args value splatted true := by
  unfold implicitSuperArgs at h
  split at h
  · cases h
    exact ⟨_, _, rfl⟩
  · cases h

namespace Env

/-- A name that a frame of the chain declares, the frames before it being blocks or lambdas, is
seen from the chain's first frame. -/
theorem findsAt_of_declared {e : Env} {f k m : Nat} {name : String}
    (hm : (e.chain f)[k]? = some m)
    (hblocks : ∀ i < k, ∀ j ∈ (e.chain f)[i]?, (e.frame j).isBlock = true)
    (hdecl : ((e.frame m).find name).isSome) : ∃ d index, e.FindsAt f name d index := by
  by_contra hunseen
  have hnone := find_eq_none_of_unseen (fun d index h => hunseen ⟨d, index, h⟩) hblocks k
    (Nat.le_refl k) m hm
  rw [hnone] at hdecl
  cases hdecl

/-- Where a frame sees a name that the frame `k` steps out declares, past blocks and lambdas: at
that frame exactly when none of the frames before it declares the name. -/
theorem FindsAt.eq_iff {e : Env} {f k m d index mi : Nat} {name : String}
    (h : e.FindsAt f name d index) (hm : (e.chain f)[k]? = some m)
    (hblocks : ∀ i < k, ∀ j ∈ (e.chain f)[i]?, (e.frame j).isBlock = true)
    (hmi : (e.frame m).find name = some mi) :
    d = k ∧ index = mi ↔ ∀ i < k, ∀ j ∈ (e.chain f)[i]?, (e.frame j).find name = none := by
  constructor
  · rintro ⟨rfl, -⟩ i hi j hj
    exact (h.1 i hi j hj).2
  · intro hnone
    exact h.unique ⟨fun i hi j hj => ⟨hblocks i hi j hj, hnone i hi j hj⟩, m, hm, hmi⟩

end Env

namespace Lower

section Reads

variable {p : Place} {e : Env}

theorem Post.bind_read {α β : Type} {s : Progress} {x : Lower α} {f : α → Lower β}
    {R : β → Progress → Prop} {v : α} (hx : x.Post p s fun a s' => a = v ∧ s' = s)
    (hf : (f v).Post p s R) : (x >>= f).Post p s R :=
  Post.bind hx fun _ _ ⟨ha, hs⟩ => ha ▸ hs ▸ hf

/-- Reading a name that the frame sees finds it where the frame sees it, and only marks frames. -/
theorem exec_resolveOrDeclare_of_findsAt {s : Progress} {name : String} {d index : Nat}
    (hok : s.env.Ok) (hf : p.frame < s.env.frames.size)
    (hseen : s.env.FindsAt p.frame name d index) :
    ∃ e', s.env.Marks e' ∧
      (resolveOrDeclare name).exec p s = (.ok ⟨name, index, d⟩, { s with env := e' }) := by
  have hres := ((Env.resolveLocal_spec hok p.frame name).1 d index).2 hseen
  refine ⟨_, (Env.resolveLocal_resolves hok hf name).1, ?_⟩
  simp only [resolveOrDeclare, exec_bind, exec_frame, resolve, exec_onEnv]
  rcases hr : s.env.resolveLocal p.frame name with ⟨e1, r⟩
  rw [hr] at hres
  cases hres
  rfl

/-- Reads of a parameter, from a progress whose environment is `e` with some frames marked: the
read is of the slot where the frame sees the name in `e`. -/
theorem readParam_post {s : Progress} {name : String} (hok : e.Ok) (hf : p.frame < e.frames.size)
    (hm : e.Marks s.env) (hseen : ∃ d index, e.FindsAt p.frame name d index) :
    (readParam name).Post p s fun o s' => e.Marks s'.env ∧
      ∃ d index, o = Op.readLocal ⟨name, index, d⟩ ∧ e.FindsAt p.frame name d index := by
  obtain ⟨d, index, hat⟩ := hseen
  obtain ⟨e', hm', hexec⟩ := exec_resolveOrDeclare_of_findsAt (p := p) (s := s) (hm.ok hok)
    (hm.size ▸ hf) (hm.findsAt.2 hat)
  unfold Post readParam
  rw [exec_bind, hexec]
  exact ⟨hm.trans hm', d, index, rfl, hat⟩

/-- What a read of a parameter name gives: a read of the slot where the frame sees the name. -/
def SeenRead (e : Env) (f : Nat) (name : String) (o : Op) : Prop :=
  ∃ d index, o = Op.readLocal ⟨name, index, d⟩ ∧ e.FindsAt f name d index

theorem mapM_readParam_post (hok : e.Ok) (hf : p.frame < e.frames.size) :
    ∀ (names : List String) (s : Progress), e.Marks s.env →
      (∀ n ∈ names, ∃ d index, e.FindsAt p.frame n d index) →
      (names.mapM readParam).Post p s fun os s' =>
        e.Marks s'.env ∧ List.Forall₂ (SeenRead e p.frame) names os
  | [], _, hm, _ => Post.pure ⟨hm, .nil⟩
  | n :: ns, s, hm, hseen => by
    rw [List.mapM_cons]
    refine (readParam_post hok hf hm (hseen n List.mem_cons_self)).bind fun o s1 ⟨hm1, ho⟩ => ?_
    refine (mapM_readParam_post hok hf ns s1 hm1 fun n' hn' =>
      hseen n' (List.mem_cons_of_mem _ hn')).bind fun os s2 ⟨hm2, hos⟩ => ?_
    exact Post.pure ⟨hm2, .cons ho hos⟩

end Reads

end Lower

namespace Env

/-- The operations `os` read the names `names`, each where frame `f` of `e` sees it: every local
they read is one of the names, read at the slot where the frame sees it, and every name is read. -/
structure ReadsSeen (e : Env) (f : Nat) (names : List String) (os : List Op) : Prop where
  only : ∀ o ∈ os, o.ReadsOnly fun slot => slot.name ∈ names ∧ e.FindsAt f slot.name slot.depth slot.index
  all : ∀ n ∈ names, ∃ o ∈ os, ∃ d index, Op.readLocal ⟨n, index, d⟩ ∈ o.nodes

namespace ReadsSeen

variable {e : Env} {f : Nat} {names names' : List String} {os os' : List Op}

theorem nil : e.ReadsSeen f [] [] :=
  ⟨fun _ h => (List.not_mem_nil h).elim, fun _ h => (List.not_mem_nil h).elim⟩

/-- One more read, of a name where the frame sees it. -/
theorem cons {n : String} {o : Op} (ho : Lower.SeenRead e f n o) (h : e.ReadsSeen f names os) :
    e.ReadsSeen f (n :: names) (o :: os) := by
  obtain ⟨d, index, rfl, hat⟩ := ho
  refine ⟨fun o ho => ?_, fun n' hn => ?_⟩
  · rcases List.mem_cons.1 ho with rfl | ho
    · exact Op.readsOnly_readLocal.2 ⟨List.mem_cons_self, hat⟩
    · exact fun x hx slot hs => And.imp_left (List.mem_cons_of_mem _) (h.only o ho x hx slot hs)
  · rcases List.mem_cons.1 hn with rfl | hn
    · exact ⟨_, List.mem_cons_self, d, index, Op.self_mem_nodes _⟩
    · obtain ⟨o, ho, hread⟩ := h.all n' hn
      exact ⟨o, List.mem_cons_of_mem _ ho, hread⟩

/-- One more operation that reads no local. -/
theorem cons_quiet {o : Op} (ho : o.ReadsOnly fun _ => False) (h : e.ReadsSeen f names os) :
    e.ReadsSeen f names (o :: os) := by
  refine ⟨fun o' ho' => ?_, fun n hn => ?_⟩
  · rcases List.mem_cons.1 ho' with rfl | ho'
    · exact fun x hx slot hs => (ho x hx slot hs).elim
    · exact h.only o' ho'
  · obtain ⟨o', ho', hread⟩ := h.all n hn
    exact ⟨o', List.mem_cons_of_mem _ ho', hread⟩

theorem of_forall₂ (h : List.Forall₂ (Lower.SeenRead e f) names os) : e.ReadsSeen f names os := by
  induction h with
  | nil => exact nil
  | cons hx _ ih => exact ih.cons hx

theorem append (h : e.ReadsSeen f names os) (h' : e.ReadsSeen f names' os') :
    e.ReadsSeen f (names ++ names') (os ++ os') := by
  refine ⟨fun o ho => ?_, fun n hn => ?_⟩
  · rcases List.mem_append.1 ho with ho | ho
    · exact fun x hx slot hs => And.imp_left (List.mem_append_left _) (h.only o ho x hx slot hs)
    · exact fun x hx slot hs => And.imp_left (List.mem_append_right _) (h'.only o ho x hx slot hs)
  · rcases List.mem_append.1 hn with hn | hn
    · obtain ⟨o, ho, hread⟩ := h.all n hn
      exact ⟨o, List.mem_append_left _ ho, hread⟩
    · obtain ⟨o, ho, hread⟩ := h'.all n hn
      exact ⟨o, List.mem_append_right _ ho, hread⟩

/-- Only which names are read counts, not their order. -/
theorem congr (h : e.ReadsSeen f names os) (hn : ∀ n, n ∈ names ↔ n ∈ names') :
    e.ReadsSeen f names' os :=
  ⟨fun o ho x hx slot hs => And.imp_left (hn _).1 (h.only o ho x hx slot hs),
    fun n hn' => h.all n ((hn n).2 hn')⟩

/-- A node that reads no local itself, with the operations as its children, reads what they read. -/
theorem wrap {fm : Form Op} {sp : Option Span} {fl : OpFlags} (h : e.ReadsSeen f names os)
    (hf : ∀ slot, fm ≠ .readLocal slot) (hc : fm.children = os) :
    e.ReadsSeen f names [Op.mk fm sp fl] := by
  refine ⟨fun o ho => ?_, fun n hn => ?_⟩
  · obtain rfl := List.mem_singleton.1 ho
    exact Op.ReadsOnly.mk hf fun c hmem => h.only c (hc ▸ hmem)
  · obtain ⟨o, ho, d, index, hread⟩ := h.all n hn
    exact ⟨_, List.mem_singleton_self _, d, index,
      Op.mem_nodes_mk.2 (.inr ⟨o, hc ▸ ho, hread⟩)⟩

end ReadsSeen

end Env

namespace Lower

section Forward

variable {p : Place} {e : Env}

open Env

theorem Post.true {α : Type} {s : Progress} (x : Lower α) : x.Post p s fun _ _ => True := by
  unfold Post
  split <;> trivial

/-- A step that relates each input to its result, mapped over a list, relates the list to the
results item by item. -/
theorem Post.mapM_forall₂ {α β : Type} {f : α → Lower β} {R : α → β → Prop} :
    ∀ (xs : List α), (∀ x ∈ xs, ∀ s, (f x).Post p s fun b _ => R x b) →
      ∀ s : Progress, (xs.mapM f).Post p s fun bs _ => List.Forall₂ R xs bs
  | [], _, _ => Post.pure .nil
  | x :: xs, hf, s => by
    rw [List.mapM_cons]
    exact (hf x List.mem_cons_self s).bind fun b s1 hb =>
      (Post.mapM_forall₂ xs (fun y hy => hf y (List.mem_cons_of_mem x hy)) s1).bind
        fun bs _ hbs => Post.pure (.cons hb hbs)

theorem readsOnly_symbol (n : String) : (Op.symbol n).ReadsOnly fun _ => False :=
  Op.ReadsOnly.mk (fun _ h => by cases h) fun _ h => by cases h

/-- The keyword pairs `super` passes on: each keyword's symbol with a read of it. -/
theorem keywordPairs_post (hok : e.Ok) (hf : p.frame < e.frames.size) :
    ∀ (names : List String) (s : Progress), e.Marks s.env →
      (∀ n ∈ names, ∃ d index, e.FindsAt p.frame n d index) →
      (names.mapM fun n => do return (Op.symbol n, ← readParam n)).Post p s fun pairs s' =>
        e.Marks s'.env ∧ e.ReadsSeen p.frame names (pairs.flatMap fun (kv : Op × Op) => [kv.1, kv.2])
  | [], _, hm, _ => Post.pure ⟨hm, ReadsSeen.nil⟩
  | n :: ns, s, hm, hseen => by
    rw [List.mapM_cons]
    refine Post.bind ((readParam_post hok hf hm (hseen n List.mem_cons_self)).bind
      fun o s1 h => Post.pure (Q := fun (kv : Op × Op) s' => e.Marks s'.env ∧ kv.1 = Op.symbol n ∧
        SeenRead e p.frame n kv.2) ⟨h.1, rfl, h.2⟩) fun kv s1 ⟨hm1, hsym, ho⟩ => ?_
    refine (keywordPairs_post hok hf ns s1 hm1 fun n' hn' =>
      hseen n' (List.mem_cons_of_mem _ hn')).bind fun pairs s2 ⟨hm2, hpairs⟩ => ?_
    refine Post.pure ⟨hm2, ?_⟩
    rw [List.flatMap_cons, hsym]
    exact (hpairs.cons ho).cons_quiet (readsOnly_symbol n)

/-- The keyword arguments `super` passes on read every keyword name and the keyword rest, each
where the frame sees it, and nothing else. -/
theorem forwardedKeywords_post {s : Progress} (hok : e.Ok) (hf : p.frame < e.frames.size)
    (hm : e.Marks s.env) (ps : MethodParams)
    (hseen : ∀ n ∈ ps.keywords ++ ps.keywordRest.toList, ∃ d index, e.FindsAt p.frame n d index) :
    (forwardedKeywords ps).Post p s fun k s' =>
      e.Marks s'.env ∧ e.ReadsSeen p.frame (ps.keywords ++ ps.keywordRest.toList) k.toList := by
  unfold forwardedKeywords
  split
  · next hnone =>
    simp only [Bool.and_eq_true, List.isEmpty_iff, Option.isNone_iff_eq_none] at hnone
    rw [hnone.1, hnone.2]
    exact Post.pure ⟨hm, ReadsSeen.nil⟩
  · refine (keywordPairs_post hok hf ps.keywords s hm fun n hn =>
      hseen n (List.mem_append_left _ hn)).bind fun pairs s1 ⟨hm1, hpairs⟩ => ?_
    have hhash : e.ReadsSeen p.frame ps.keywords [Op.ofForm (.hashLit pairs)] :=
      hpairs.wrap (fun _ h => by cases h) rfl
    split
    · next kr hkr =>
      refine (readParam_post hok hf hm1 (hseen kr (by simp [hkr]))).bind
        fun rest s2 ⟨hm2, hrest⟩ => Post.pure ⟨hm2, ?_⟩
      have hcast : e.ReadsSeen p.frame [kr] [Op.ofForm (.hashCast rest)] :=
        (ReadsSeen.nil.cons hrest).wrap (fun _ h => by cases h) rfl
      rw [hkr]
      exact (hhash.append hcast).wrap (fun _ h => by cases h) rfl
    · next hkr =>
      rw [hkr, Option.toList_none, List.append_nil]
      exact Post.pure ⟨hm1, hhash⟩

/-- The arguments of `super` without arguments read every forwarded parameter of the method
frame, each where the `super`'s frame sees it, and no other local. -/
theorem zsuper_post {r : Recur} {iter : Option Node} {span : Span} {s : Progress}
    (hok : s.env.Ok) (hf : p.frame < s.env.frames.size)
    (hseen : ∀ n ∈ ((s.env.frame (s.env.methodFrame p.frame)).parameters.getD {}).forwarded,
      ∃ d index, s.env.FindsAt p.frame n d index) :
    (zsuper r iter span).Post p s fun o _ => ∃ args value splatted sp fl literal,
      o = wrapLiteralBlock (.mk (.superCall args value splatted true) sp fl) literal ∧
      s.env.ReadsSeen p.frame ((s.env.frame (s.env.methodFrame p.frame)).parameters.getD {}).forwarded
        args := by
  unfold zsuper
  refine Post.bind_read env_post (Post.bind_read frame_post ?_)
  extract_lets m afterArgs
  refine Post.bind_read (frameData_post _) ?_
  extract_lets ps
  have hin : ∀ {names : List String}, (∀ n ∈ names, n ∈ ps.forwarded) →
      ∀ n ∈ names, ∃ d index, s.env.FindsAt p.frame n d index :=
    fun hsub n hn => hseen n (hsub n hn)
  refine (mapM_readParam_post hok hf _ s (Marks.refl _) (hin fun n hn => by
    simp only [MethodParams.forwarded, List.mem_append] at hn ⊢; tauto)).bind
    fun leading s1 ⟨hm1, hlead⟩ => ?_
  refine (mapM_readParam_post hok hf _ s1 hm1 (hin fun n hn => by
    simp only [MethodParams.forwarded, List.mem_append] at hn ⊢; tauto)).bind
    fun post s2 ⟨hm2, hpost⟩ => ?_
  refine (forwardedKeywords_post hok hf hm2 ps (hin fun n hn => by
    simp only [MethodParams.forwarded, List.mem_append] at hn ⊢; tauto)).bind
    fun keywords s3 ⟨hm3, hkw⟩ => ?_
  have hafterArgs : ∀ args splatted s4, s.env.ReadsSeen p.frame ps.forwarded args →
      (afterArgs (args, splatted)).Post p s4 fun o _ => ∃ args value splatted sp fl literal,
        o = wrapLiteralBlock (.mk (.superCall args value splatted true) sp fl) literal ∧
        s.env.ReadsSeen p.frame ps.forwarded args := by
    intro args splatted s4 hargs
    dsimp -zeta only [afterArgs]
    extract_lets afterBlock
    have hafterBlock : ∀ value literal s5, (afterBlock (value, literal)).Post p s5
        fun o _ => ∃ args value splatted sp fl literal,
          o = wrapLiteralBlock (.mk (.superCall args value splatted true) sp fl) literal ∧
          s.env.ReadsSeen p.frame ps.forwarded args := by
      intro value literal s5
      dsimp -zeta only [afterBlock]
      exact Post.bind (Post.atSpan (Q := fun o _ => o = (Op.ofForm (.superCall args value splatted
        true)).withSpan span) rfl) fun o _ ho => Post.pure ⟨args, value, splatted, some span, {},
        literal, ho ▸ rfl, hargs⟩
    split
    · exact (Post.true _).bind fun x s5 _ => hafterBlock x.1 x.2 s5
    · exact (Post.true _).bind fun v s5 _ => Post.bind_read (Post.pure ⟨rfl, rfl⟩)
        (hafterBlock v none s5)
  have hlead' := ReadsSeen.of_forall₂ hlead
  have hpost' := ReadsSeen.of_forall₂ hpost
  split
  · next rest hrest =>
    -- a rest parameter: the arguments are spread from one array built of all of them
    refine (readParam_post hok hf hm3 (@hin [rest] (fun n hn => by
      simp [List.mem_singleton.1 hn, MethodParams.forwarded, hrest]) rest
      (List.mem_singleton_self rest))).bind fun restOp s4 ⟨_, hro⟩ => ?_
    refine Post.bind_read (Post.pure ⟨rfl, rfl⟩) (hafterArgs _ _ s4 ?_)
    have hleadLit : s.env.ReadsSeen p.frame (ps.pre ++ ps.optional)
        [Op.ofForm (.arrayLit leading)] := hlead'.wrap (fun _ h => by cases h) rfl
    have hrestCast : s.env.ReadsSeen p.frame [rest]
        [Op.ofForm (.splatCast .convert false false restOp)] :=
      (ReadsSeen.nil.cons hro).wrap (fun _ h => by cases h) rfl
    have hpostLit : s.env.ReadsSeen p.frame ps.post
        (if post.isEmpty then [] else [Op.ofForm (.arrayLit post)]) := by
      split
      · next hempty =>
        obtain rfl := List.isEmpty_iff.1 hempty
        rw [List.forall₂_nil_right_iff.1 hpost]
        exact ReadsSeen.nil
      · exact hpost'.wrap (fun _ h => by cases h) rfl
    have hkwLit : s.env.ReadsSeen p.frame (ps.keywords ++ ps.keywordRest.toList)
        (keywords.map fun k => Op.ofForm (.arrayLit [k])).toList := by
      cases keywords with
      | none => exact hkw
      | some k => exact hkw.wrap (fun _ h => by cases h) rfl
    refine (((hleadLit.append hrestCast).append hpostLit).append hkwLit).wrap
      (fun _ h => by cases h) rfl |>.congr fun n => ?_
    simp only [MethodParams.forwarded, hrest, Option.toList_some, List.mem_append,
      List.mem_singleton]
    tauto
  · next hrest =>
    refine Post.bind_read (Post.pure ⟨rfl, rfl⟩) (hafterArgs _ _ s3 ?_)
    refine ((hlead'.append hpost').append hkw).congr fun n => ?_
    simp only [MethodParams.forwarded, hrest, Option.toList_none, List.mem_append]
    tauto

/-- `o` is a `super` call passing on the parameters `ps` of the method frame `m`, seen from frame
`f` of `e`: every parameter is read, and every local read is of a parameter at the slot where `f`
sees it. With `m` as `k` frames out from `f` past blocks and lambdas, that is `m`'s own slot, `k`
frames out and at the name's position among `m`'s locals, exactly when none of the frames before
`m` declares the name. -/
def PassesOn (e : Env) (f m : Nat) (ps : MethodParams) (o : Op) : Prop :=
  ∃ args value splatted sp fl literal,
    o = wrapLiteralBlock (.mk (.superCall args value splatted true) sp fl) literal ∧
    (∀ n ∈ ps.forwarded, ∃ a ∈ args, ∃ d index, Op.readLocal ⟨n, index, d⟩ ∈ a.nodes) ∧
    ∃ k, (e.chain f)[k]? = some m ∧ (∀ i < k, ∀ j ∈ (e.chain f)[i]?, (e.frame j).isBlock = true) ∧
      ∀ a ∈ args, a.ReadsOnly fun slot => slot.name ∈ ps.forwarded ∧
        e.FindsAt f slot.name slot.depth slot.index ∧
        (slot.depth = k ∧ (e.frame m).find slot.name = some slot.index ↔
          ∀ i < k, ∀ j ∈ (e.chain f)[i]?, (e.frame j).find slot.name = none)

/-- `super` without arguments passes on every parameter recorded for the method frame around it,
each read from the frame the `super` stands in: the read is of the method's own slot exactly when
no block or lambda between declares a local of the parameter's name. -/
theorem zsuper_forwardsSeenSlots {r : Recur} {iter : Option Node} {span : Span} {s s' : Progress}
    {o : Op} {m : Nat} {ps : MethodParams} (hok : s.env.Ok) (hf : p.frame < s.env.frames.size)
    (hm : s.env.methodFrame p.frame = m) (hps : (s.env.frame m).parameters.getD {} = ps)
    (hdecl : ∀ n ∈ ps.forwarded, ((s.env.frame m).find n).isSome)
    (hrun : (zsuper r iter span).exec p s = (.ok o, s')) :
    PassesOn s.env p.frame m ps o := by
  obtain ⟨k, hk, hblocks, -⟩ := Env.methodFrame_spec hok p.frame
  rw [hm] at hk
  have hpost : (zsuper r iter span).Post p s _ := zsuper_post hok hf (by
    rw [hm, hps]
    exact fun n hn => Env.findsAt_of_declared hk hblocks (hdecl n hn))
  unfold Post at hpost
  rw [hrun] at hpost
  obtain ⟨args, value, splatted, sp, fl, literal, rfl, hreads⟩ := hpost
  rw [hm, hps] at hreads
  refine ⟨args, value, splatted, sp, fl, literal, rfl, hreads.all, k, hk, hblocks,
    fun a ha x hx slot hs => ?_⟩
  obtain ⟨hname, hat⟩ := hreads.only a ha x hx slot hs
  obtain ⟨mi, hmi⟩ := Option.isSome_iff_exists.1 (hdecl _ hname)
  refine ⟨hname, hat, ?_⟩
  rw [hmi, Option.some.injEq, eq_comm (a := mi)]
  exact hat.eq_iff hk hblocks hmi

/-- A method frame with parameter `a`, and a block in it whose own parameter is also `a`: the
`super` in the block passes on the block's `a`. -/
theorem zsuper_forwardsSeenSlots_shadowed :
    ∃ s s', s.env = (((((Env.initial.pushFrame (some 0) .method).1.declareLocal 1 "a").1.modifyFrame 1
        fun fr => { fr with parameters := some { pre := ["a"] } }).pushFrame (some 1)
          .block).1.declareLocal 2 "a").1 ∧
      (zsuper (recurAt 0) none ⟨0, 0⟩).exec
        { source := SourceInfo.ofUnit {} "t.rb" "", frame := 2 } s =
        (.ok (Op.mk (.superCall [Op.readLocal ⟨"a", 0, 0⟩] none false true) (some ⟨0, 0⟩) {}), s') ∧
      PassesOn s.env 2 1 { pre := ["a"] }
        (Op.mk (.superCall [Op.readLocal ⟨"a", 0, 0⟩] none false true) (some ⟨0, 0⟩) {}) :=
  ⟨{ env := _ }, _, rfl, rfl, zsuper_forwardsSeenSlots
    (p := { source := SourceInfo.ofUnit {} "t.rb" "", frame := 2 })
    (((Env.initial_ok.pushFrame (by decide) .method).declareLocal 1 "a").modifyFrame rfl id
      |>.pushFrame (by decide) .block |>.declareLocal 2 "a")
    (by decide) (by decide) (by decide) (by decide)
    (rfl : (zsuper (recurAt 0) none ⟨0, 0⟩).exec _ _ = _)⟩

end Forward

end Lower

/-- In `def m(a); foo { |a| super }; end` the block's parameter `a` shadows the method's: the
method's unit keeps its `a` in slot 1, yet the `super` in the block passes on slot 0 of the
block's own frame. -/
theorem compileUnit_zsuper_passesShadowingParam :
    ∃ c, compileUnit {} { file := "t.rb", root := some (.mk ⟨0, 0⟩ false (.defn "m"
      { pre := [.mk ⟨0, 0⟩ false (.argument "a")] } (some (.mk ⟨0, 0⟩ false (.fcall "foo" none
        (some (.mk ⟨0, 0⟩ false (.iter
          { span := ⟨0, 0⟩, params := { pre := [.mk ⟨0, 0⟩ false (.argument "a")] },
            body := some (.mk ⟨0, 0⟩ false (.zsuper none)), locals := [] })))))))) } = .ok c ∧
      ∃ w ∈ c.root.body.units, w.head.kind = .method ∧ w.head.locals.idxOf? "a" = some 1 ∧
        ∃ x ∈ w.body.nodes, ∃ args value splatted, x.form = .superCall args value splatted true ∧
          args.map Op.localSlot = [some ⟨"a", 0, 0⟩] := by
  -- the method's definition, and in its body the `super` inside the block handed to `foo`; the
  -- kernel runs the compile
  have hrun : ∃ c, compileUnit {} { file := "t.rb", root := some (.mk ⟨0, 0⟩ false (.defn "m"
      { pre := [.mk ⟨0, 0⟩ false (.argument "a")] } (some (.mk ⟨0, 0⟩ false (.fcall "foo" none
        (some (.mk ⟨0, 0⟩ false (.iter
          { span := ⟨0, 0⟩, params := { pre := [.mk ⟨0, 0⟩ false (.argument "a")] },
            body := some (.mk ⟨0, 0⟩ false (.zsuper none)), locals := [] })))))))) } = .ok c ∧
      ∃ d ∈ c.root.body.atPath [0], ∃ w ∈ d.ownUnit, w.head.kind = .method ∧
        w.head.locals.idxOf? "a" = some 1 ∧ ∃ x ∈ w.body.atPath [3, 0, 0, 0, 1, 0, 1, 0],
          x.form.implicitSuperArgs.map (List.map Op.localSlot) = some [some ⟨"a", 0, 0⟩] := by
    set_option synthInstance.maxSize 1024 in
    decide +kernel
  obtain ⟨c, hc, d, hd, w, hw, hkind, hslot, x, hx, hsuper⟩ := hrun
  obtain ⟨args, hargs, hslots⟩ := Option.map_eq_some_iff.1 hsuper
  obtain ⟨value, splatted, hform⟩ := Form.eq_superCall_of_implicitSuperArgs hargs
  exact ⟨c, hc, w, Op.mem_units_of_atPath [0] hd hw, hkind, hslot, x,
    Op.mem_nodes_of_atPath hx, args, value, splatted, hform, hslots⟩

end RubyLower
