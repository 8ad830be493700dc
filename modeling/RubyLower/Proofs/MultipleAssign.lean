import RubyLower.Proofs.ArrayReads
import RubyLower.Proofs.OperandCopies

/-!
# What a multiple assignment binds

`pre, *rest, post = value` is lowered in one of two ways. With as many values in a list literal
as there are targets and no rest or trailing targets, each value goes to a temporary of its own,
in order, and then target `k` is assigned a read of temporary `k` (`Lower.ParallelBinding`).
Otherwise the value goes to a temporary, the array made of it to a second one, and each target
is assigned a read of that array (`Lower.IndexedBinding`): leading target `k` reads element `k`,
the rest the elements between the leading and the trailing ones, and trailing target `n` element
`n` of the last `post.length`, or, in an array too short for all targets, the element `n` places
after the leading ones. The reads are those of `Op.readIn`, where a negative index counts from
the end and an index out of range gives nil.

The targets are lowered through the recursion, so the statements hold for any recursion whose
target step builds a node that satisfies a relation `A t v o` ("`o` assigns `v` to `t`"):
`Lower.masgnIndexed_binds`, `Lower.masgnParallel_binds`, and for the whole rule
`Lower.masgn_bindsTargets`.
-/

namespace RubyLower

namespace Lower

/-- The lowering by position of `pre, *rest, post = value`, where `A t v o` says that `o`
assigns `v` to `t`: the value is written to a temporary and the array made of it to a second one
before any target is assigned, and each target is assigned a read of that array which gives, for
any array held there, the element of the target's position. -/
def IndexedBinding (A : Node → Op → Op → Prop) (pre : List Node) (rest : Option Node)
    (post : List Node) (rhs core : Op) : Prop :=
  ∃ (rhsTemp arrayTemp : Slot) (nilAs : SplatNil) (useToAry : Bool) (leading middle trailing : List Op),
    core = Op.ofForm (.elidable
      (Op.sequence ([Op.writeLocal rhsTemp rhs,
        Op.writeLocal arrayTemp (Op.ofForm (.splatCast nilAs useToAry false (Op.readLocal rhsTemp)))] ++
        leading ++ middle ++ trailing))
      (Op.readLocal rhsTemp)) ∧
    List.Forall₂ (fun (kt : Nat × Node) o => ∃ v, A kt.2 v o ∧
        ∀ {V : Type} (arr : List V), v.readIn arrayTemp arr = Read.nth arr kt.1)
      ((List.range pre.length).zip pre) leading ∧
    List.Forall₂ (fun t o => ∃ v, A t v o ∧ ∀ {V : Type} (arr : List V),
        v.readIn arrayTemp arr =
          .slice ((arr.drop pre.length).take (arr.length - post.length - pre.length)))
      rest.toList middle ∧
    List.Forall₂ (fun (nt : Nat × Node) o => ∃ v, A nt.2 v o ∧ ∀ {V : Type} (arr : List V),
        v.readIn arrayTemp arr =
          if pre.length + post.length ≤ arr.length then Read.nth arr (arr.length - post.length + nt.1)
          else Read.nth arr (pre.length + nt.1))
      ((List.range post.length).zip post) trailing

/-- The lowering of `a, b = x, y` with as many values as targets: each value is written to a
temporary, in order, before any target is assigned, and target `k` is assigned a read of
temporary `k`. -/
def ParallelBinding (A : Node → Op → Op → Prop) (pre : List Node) (rhs core : Op) : Prop :=
  ∃ (values : List Op) (temps : List (Slot × Op)) (assigns : List Op),
    rhs.form = .arrayLit values ∧ values.length = pre.length ∧ temps.map Prod.snd = values ∧
    core = Op.ofForm (.elidable
      (Op.sequence (temps.map (fun tv => Op.writeLocal tv.1 tv.2) ++ assigns))
      (Op.ofForm (.arrayLit (temps.map fun tv => Op.readLocal tv.1)))) ∧
    List.Forall₂ (fun (ts : Node × (Slot × Op)) o => A ts.1 (Op.readLocal ts.2.1) o)
      (pre.zip temps) assigns

/-- `*rest = value`: a bare `*` binds nothing and the value is the result; a list literal is
handed to the rest target itself; any other value is written to a temporary (a cast of a literal
`nil` as that `nil`), the array made of it to a second one, and the rest target is assigned a
read of the second. -/
def RestBinding (A : Node → Op → Op → Prop) (rest : Node) (rhs : Op) (isList : Bool) (core : Op) :
    Prop :=
  (rest.kind = .star ∧ core = rhs) ∨
  (rest.kind ≠ .star ∧ isList = true ∧ A rest rhs core) ∨
  (rest.kind ≠ .star ∧ isList = false ∧
    ∃ (rhsTemp splatTemp : Slot) (written : Op) (nilAs : SplatNil) (assign value : Op),
      (written = rhs ∨ ∃ n u c, rhs.form = .splatCast n u c written) ∧
      core = Op.ofForm (.elidable (Op.sequence [Op.writeLocal rhsTemp written,
        Op.writeLocal splatTemp (Op.ofForm (.splatCast nilAs true false (Op.readLocal rhsTemp))), assign])
        value) ∧
      A rest (Op.readLocal splatTemp) assign)

/-- As many values in a list literal as leading targets, and no other target. -/
def SameArity (m : MultiAsgn Node) (rhs : Op) : Prop :=
  m.pre ≠ [] ∧ m.rest = none ∧ m.post = [] ∧
    ∃ values, rhs.form = .arrayLit values ∧ values.length = m.pre.length

/-- How a multiple assignment binds its targets: in parallel when it has as many values in a list
literal as leading targets and no other target, by position when it has a leading or a trailing
target otherwise, and as a whole when it has only a rest target. -/
def MasgnBinding (A : Node → Op → Op → Prop) (m : MultiAsgn Node) (rhs : Op) (isList : Bool)
    (core : Op) : Prop :=
  (SameArity m rhs ∧ ParallelBinding A m.pre rhs core) ∨
  (¬ SameArity m rhs ∧ (m.pre ≠ [] ∨ m.post ≠ []) ∧
    IndexedBinding A m.pre m.rest m.post rhs core) ∨
  (m.pre = [] ∧ m.post = [] ∧ ∃ rn, m.rest = some rn ∧ RestBinding A rn rhs isList core)

section Binds

variable {p : Place} {s : Progress} {r : Recur} {A : Node → Op → Op → Prop}
  (hr : ∀ t v p s, (r.target t v).Post p s fun o _ => A t v o)
include hr

theorem masgnIndexed_binds (pre : List Node) (rest : Option Node) (post : List Node) (rhs : Op)
    (useToAry : Bool) :
    (masgnIndexed r pre rest post rhs useToAry).Post p s fun core _ =>
      IndexedBinding A pre rest post rhs core := by
  unfold masgnIndexed
  refine (Post.true _).bind fun rhsTemp _ _ => (Post.true _).bind fun arrayTemp _ _ => ?_
  refine (Post.true _).bind fun nilAs _ _ => ?_
  extract_lets load preCount postCount
  refine (Post.mapM_forall₂ (R := fun (kt : Nat × Node) o => ∃ v, A kt.2 v o ∧
      ∀ {V : Type} (arr : List V), v.readIn arrayTemp arr = Read.nth arr kt.1) _
    (fun kt _ s1 => (hr kt.2 (arrayIndex arrayTemp kt.1) p s1).mono
      fun o _ h => ⟨_, h, fun arr => Op.readIn_arrayIndex_ofNat arrayTemp arr kt.1⟩) _).bind
    fun leading _ hlead => ?_
  extract_lets jp
  -- the trailing targets come after the rest, whichever way the rest is bound
  have hjp : ∀ middle s1, List.Forall₂ (fun t o => ∃ v, A t v o ∧ ∀ {V : Type} (arr : List V),
      v.readIn arrayTemp arr = .slice ((arr.drop pre.length).take (arr.length - post.length - pre.length)))
      rest.toList middle → (jp middle).Post p s1 fun core _ => IndexedBinding A pre rest post rhs core := by
    intro middle s1 hmid
    refine (Post.mapM_forall₂ (R := fun (nt : Nat × Node) o => ∃ v, A nt.2 v o ∧
        ∀ {V : Type} (arr : List V), v.readIn arrayTemp arr =
          if pre.length + post.length ≤ arr.length then Read.nth arr (arr.length - post.length + nt.1)
          else Read.nth arr (pre.length + nt.1)) _
      (fun nt hnt s2 => (hr nt.2 _ p s2).mono fun o _ h => ⟨_, h, fun arr =>
        Op.readIn_trailing arrayTemp arr (List.mem_range.1 (List.of_mem_zip hnt).1)⟩) _).bind
      fun trailing _ htrail => Post.pure ?_
    exact ⟨rhsTemp, arrayTemp, nilAs, useToAry, leading, middle, trailing, rfl, hlead, hmid, htrail⟩
  cases rest with
  | none => exact Post.bind_read (Post.pure ⟨rfl, rfl⟩) (hjp [] _ .nil)
  | some rn =>
    refine (hr rn _ p _).bind fun o s2 ho => Post.bind_read (Post.pure ⟨rfl, rfl⟩) (hjp [o] s2 ?_)
    exact .cons ⟨_, ho, fun arr => Op.readIn_arraySlice arrayTemp arr pre.length post.length⟩ .nil

theorem masgnParallel_binds (pre : List Node) {rhs : Op} {values : List Op}
    (hform : rhs.form = .arrayLit values) (hlen : values.length = pre.length) :
    (masgnParallel r pre rhs).Post p s fun core _ => ParallelBinding A pre rhs core := by
  unfold masgnParallel
  simp only [hform]
  refine (mapM_temp_post "multi" values s).bind fun temps _ htemps => ?_
  refine (Post.mapM_forall₂ (R := fun (ts : Node × (Slot × Op)) o => A ts.1 (Op.readLocal ts.2.1) o) _
    (fun ts _ s1 => hr ts.1 _ p s1) _).bind fun assigns _ hassigns => Post.pure ?_
  exact ⟨values, temps, assigns, hform, hlen, htemps, rfl, hassigns⟩

theorem masgnRestOnly_binds {rest : Node} (hk : rest.kind ≠ .star) (rhs : Op) :
    (masgnRestOnly r rest rhs).Post p s fun core _ => RestBinding A rest rhs false core := by
  unfold masgnRestOnly
  refine (Post.true _).bind fun dflt _ _ => ?_
  split
  next written nilAs hsel =>
  -- a cast of a literal nil is written as the nil itself
  have hwritten : written = rhs ∨ ∃ n u c, rhs.form = .splatCast n u c written := by
    split at hsel
    · next n u c child hf =>
      split at hsel
      · cases hsel
        exact .inr ⟨n, u, c, hf⟩
      · cases hsel
        exact .inl rfl
    · cases hsel
      exact .inl rfl
  refine (Post.true _).bind fun rhsTemp _ _ => (Post.true _).bind fun splatTemp _ _ => ?_
  refine (hr rest _ p _).bind fun assign _ hassign => Post.pure ?_
  exact .inr (.inr ⟨hk, rfl, rhsTemp, splatTemp, written, nilAs, assign, _, hwritten, rfl, hassign⟩)

/-- A multiple assignment binds its targets in parallel, by position or as a whole, as
`MasgnBinding` says, and flags the result as an assignment at its span. -/
theorem masgn_bindsTargets (m : MultiAsgn Node) (rhs : Op) (isList : Bool) :
    (masgn r m rhs isList).Post p s fun o _ =>
      ∃ core, o = (asAssignment core).withSpan m.span ∧ MasgnBinding A m rhs isList core := by
  unfold masgn
  extract_lets sameArity finish
  have hfinish : ∀ {Q : Op → Prop} res s', Q res →
      (finish res).Post p s' fun o _ => ∃ core, o = (asAssignment core).withSpan m.span ∧ Q core :=
    fun res _ hq => Post.atSpan ⟨res, rfl, hq⟩
  clear_value finish
  -- the rule's test for the parallel path is `SameArity`
  have hiff : sameArity = true ↔ SameArity m rhs := by
    simp only [sameArity, SameArity, Bool.and_eq_true, Bool.not_eq_true', List.isEmpty_eq_false_iff,
      Option.isNone_iff_eq_none, List.isEmpty_iff]
    constructor
    · rintro ⟨⟨⟨hpre, hrest⟩, hpost⟩, hlen⟩
      split at hlen
      · next vs hv => exact ⟨hpre, hrest, hpost, vs, hv, by simpa using hlen⟩
      · cases hlen
    · rintro ⟨hpre, hrest, hpost, values, hv, hlen⟩
      simp only [hv, hlen, beq_self_eq_true]
      exact ⟨⟨⟨hpre, hrest⟩, hpost⟩, trivial⟩
  split
  · next hsame =>
    have hSA := hiff.1 hsame
    obtain ⟨values, hv, hlen⟩ := hSA.2.2.2
    exact (masgnParallel_binds hr m.pre hv hlen).bind fun res s' hres =>
      hfinish res s' (.inl ⟨hSA, hres⟩)
  next hsame =>
  have hnot : ¬ SameArity m rhs := fun h => hsame (hiff.2 h)
  split
  · next hpre =>
    rw [Bool.not_eq_true', List.isEmpty_eq_false_iff] at hpre
    exact (masgnIndexed_binds hr _ _ _ _ _).bind fun res s' hres =>
      hfinish res s' (.inr (.inl ⟨hnot, .inl hpre, hres⟩))
  next hpre =>
  rw [Bool.not_eq_true, Bool.not_eq_false', List.isEmpty_iff] at hpre
  split
  · next hpost =>
    rw [List.isEmpty_iff] at hpost
    split
    · next rn hrest =>
      split
      · next hk =>
        -- a bare `*` binds nothing
        exact Post.bind_read (Post.pure ⟨rfl, rfl⟩)
          (hfinish rhs s (.inr (.inr ⟨hpre, hpost, rn, hrest, .inl ⟨hk, rfl⟩⟩)))
      · next hk =>
        split
        · next hlist =>
          exact (hr rn rhs p s).bind fun res s' hres =>
            hfinish res s' (.inr (.inr ⟨hpre, hpost, rn, hrest, .inr (.inl ⟨hk, hlist, hres⟩)⟩))
        · next hlist =>
          rw [Bool.not_eq_true] at hlist
          subst hlist
          exact (masgnRestOnly_binds hr hk rhs).bind fun res s' hres =>
            hfinish res s' (.inr (.inr ⟨hpre, hpost, rn, hrest, hres⟩))
    · exact (Post.fail (Q := fun _ _ => False)).bind fun _ _ h => h.elim
  · next hpost =>
    split
    · exact (masgnIndexed_binds hr _ _ _ _ _).bind fun res s' hres =>
        hfinish res s' (.inr (.inl ⟨hnot, .inr (by simpa using hpost), hres⟩))
    · exact (Post.fail (Q := fun _ _ => False)).bind fun _ _ h => h.elim

end Binds

/-- `a, b = v` binds by position when the targets are lowered as the values they are handed. -/
theorem masgn_bindsTargets_byPosition :
    ∃ m : MultiAsgn Node,
      m = { span := ⟨0, 8⟩, pre := [.mk ⟨0, 1⟩ false (.localAsgn "a" 0 none)], rest := none,
            post := [.mk ⟨3, 1⟩ false (.localAsgn "b" 0 none)], value := none } ∧
      (masgn Recur.tagging m (Op.readLocal ⟨"v", 0, 0⟩) false).Post
        { source := SourceInfo.ofUnit {} "t.rb" "", frame := 0 } { env := Env.initial } fun o _ =>
        ∃ core, o = (asAssignment core).withSpan m.span ∧
          MasgnBinding (fun _ v o => o = v) m (Op.readLocal ⟨"v", 0, 0⟩) false core :=
  ⟨_, rfl, masgn_bindsTargets (fun _ v _ _ => Post.pure (Q := fun o _ => o = v) rfl) _ _ _⟩

end Lower

end RubyLower
