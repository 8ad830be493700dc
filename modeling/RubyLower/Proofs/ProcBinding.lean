import RubyLower.Proofs.ArrayReads

/-!
# Binding a block's parameters from one array

A block with several positional parameters that is called with one array spreads the array over
its parameters. Its prelude holds both bindings (`Lower.parameters`): the direct one reads the
call's arguments, the spread one reads the elements of the array, kept in a temporary. Each is
`Lower.positional` over its source, and the value each positional parameter is bound to is
`ArgSource.value` of its place (`Lower.preBinding_eq`, `Lower.optionalBinding_post`,
`Lower.positional_rest_post`, `Lower.postBinding_eq`).

Read over an array `arr`, the spread values bind as `procBinding` says
(`Op.readIn_arrayValue`): leading parameter `k` gets `arr[k]`, the rest the elements between the
optional and the trailing ones, trailing parameter `n` the `n`-th of the last ones when the array
holds the leading and trailing ones and otherwise the one right after the leading ones. An
optional parameter `j` takes `arr[pre + j]` once the array has `pre + j + 1` elements. The direct
binding asks for `pre + post + j + 1` arguments there (the `minimum` of its `Form.optionalArg`),
which is how a proc binds its arguments: the trailing parameters are served first. So the two
bindings differ for an optional parameter exactly when there are trailing parameters and the
array's length is between the two (`procBinding_spread_eq_direct`); in `foo { |a, b = 5, c| }`
called with `[0, 1]` the spread binding gives `b` the element `1`
(`compileUnit_spreadOptional_takesTrailing`).
-/

namespace RubyLower

/-- A positional parameter by its place: leading `k` with the behaviour of a missing argument,
optional `j` with its lowered default, the rest, or trailing `n`. -/
inductive ArgPosition where
  | pre (k : Nat) (missing : MissingArg)
  | optional (j : Nat) (default : Op)
  | rest
  | post (n : Nat)

/-- A trailing place exists in the parameter list; every other place is taken as it comes. -/
def ArgPosition.FitsIn (p : Params Node) : ArgPosition → Prop
  | .post n => n < p.post.length
  | _ => True

instance ArgPosition.decFitsIn (p : Params Node) : (pos : ArgPosition) → Decidable (pos.FitsIn p)
  | .post n => Nat.decLt n p.post.length
  | .pre _ _ | .optional _ _ | .rest => isTrue trivial

namespace Lower

/-- The value the prelude binds a positional parameter to when it reads from `src`. -/
def ArgSource.value (p : Params Node) : ArgSource → ArgPosition → Op
  | .arguments, .pre k missing => Op.ofForm (.preArg k missing)
  | .array a, .pre k _ => arrayIndex a k
  | .arguments, .optional j default =>
    Op.ofForm (.optionalArg (p.pre.length + j) (p.pre.length + p.post.length + j + 1) default)
  | .array a, .optional j default =>
    Op.ifElse (Op.ofForm (.arraySizeAtLeast (Op.readLocal a) (p.pre.length + j + 1)))
      (arrayIndex a (p.pre.length + j : Nat)) default
  | .arguments, .rest => Op.ofForm (.restArgs (p.pre.length + p.optional.length) p.post.length)
  | .array a, .rest =>
    Op.ofForm (.arraySlice (Op.readLocal a) (p.pre.length + p.optional.length)
      (-(p.post.length : Int)))
  | .arguments, .post n => Op.ofForm (.postArg (p.post.length - n) p.pre.length p.optional.length)
  | .array a, .post n =>
    Op.ifElse (Op.ofForm (.arraySizeAtLeast (Op.readLocal a) (p.pre.length + p.post.length)))
      (arrayIndex a (-((p.post.length - n : Nat) : Int))) (arrayIndex a (p.pre.length + n))

/-! ## The values the prelude binds -/

section Values

variable {pl : Place} {s : Progress} (r : Recur) (p : Params Node) (src : ArgSource)
  (param : Node)

theorem preBinding_eq (missing : MissingArg) (k : Nat) :
    preBinding r missing src k param = bindParameter r param (src.value p (.pre k missing)) := by
  cases src <;> rfl

theorem postBinding_eq (n : Nat) :
    postBinding r p src n param = bindParameter r param (src.value p (.post n)) := by
  cases src <;> rfl

/-- An optional parameter is written the value of its place, with its lowered default. -/
theorem optionalBinding_post (j : Nat) :
    (optionalBinding r p src j param).Post pl s fun res _ =>
      ∃ slot default, res.1 = (Op.writeLocal slot (src.value p (.optional j default))).withSpan
        param.span := by
  unfold optionalBinding
  extract_lets index named
  -- the name and default, then the default lowered, reach the write the same way
  have hnamed : ∀ x s', (named x).Post pl s' fun res _ => ∃ slot default,
      res.1 = (Op.writeLocal slot (src.value p (.optional j default))).withSpan param.span := by
    rintro ⟨name, default?⟩ s'
    dsimp -zeta only [named]
    extract_lets withDefault
    have hdefault : ∀ default s'', (withDefault default).Post pl s'' fun res _ => ∃ slot default,
        res.1 = (Op.writeLocal slot (src.value p (.optional j default))).withSpan param.span := by
      intro default s''
      dsimp -zeta only [withDefault]
      extract_lets value
      refine (Post.true _).bind fun f _ _ => (Post.true _).bind fun slot _ _ => ?_
      refine Post.bind (Post.atSpan (Q := fun o _ =>
        o = (Op.writeLocal slot value).withSpan param.span) rfl) fun o _ ho =>
          Post.pure ⟨slot, default, ?_⟩
      rw [ho]
      cases src <;> rfl
    split <;> exact (Post.true _).bind fun d s'' _ => hdefault d s''
  split <;> exact (Post.true _).bind fun x s' _ => hnamed x s'

/-- A rest parameter, unless it is the trailing comma of `|a,|`, is written the value of its
place. -/
theorem positional_rest_post (kind : UnitKind) (names : MethodParams) :
    (positional r p kind src names).Post pl s fun res _ =>
      ∀ rest, p.rest = some rest → rest ≠ .excessComma →
        ∃ slot, Op.writeLocal slot (src.value p .rest) ∈ res.1 := by
  unfold positional
  extract_lets missing value
  refine (Post.true _).bind fun pres _ _ => (Post.true _).bind fun optionals _ _ => ?_
  extract_lets afterRest
  have hvalue : value = src.value p .rest := by
    cases src <;> rfl
  -- whatever the rest parameter is, the bindings after it keep its write
  have hafter : ∀ restOp s', (∀ rest, p.rest = some rest → rest ≠ .excessComma →
      ∃ slot, restOp.map Prod.fst = some (Op.writeLocal slot value)) →
      (afterRest restOp).Post pl s' fun res _ => ∀ rest, p.rest = some rest →
        rest ≠ .excessComma → ∃ slot, Op.writeLocal slot (src.value p .rest) ∈ res.1 := by
    intro restOp s' hrest
    dsimp -zeta only [afterRest]
    refine (Post.true _).bind fun posts _ _ => ?_
    extract_lets names'
    refine Post.pure fun rest hp hne => ?_
    obtain ⟨slot, hslot⟩ := hrest rest hp hne
    refine ⟨slot, List.mem_append_left _ (List.mem_append_right _ ?_)⟩
    rw [hslot, ← hvalue]
    exact List.mem_singleton_self _
  split
  · next hnone => exact hafter none _ fun rest hp => absurd (hnone ▸ hp) (by simp)
  · next hcomma =>
    exact hafter none _ fun rest hp hne => absurd (Option.some.inj (hcomma ▸ hp)) (Ne.symm hne)
  · exact (Post.true _).bind fun slot s' _ => hafter _ s' fun _ _ _ => ⟨slot, rfl⟩

end Values

end Lower

/-! ## What the spread values read -/

/-- How a proc binds an array `arr` of arguments to the positional parameters of `p`: the
optional parameter `j` needs `minimum j` arguments, and `dflt` is what a default gives. -/
def procBinding {V : Type} (p : Params Node) (arr : List V) (dflt : Op → Read V)
    (minimum : Nat → Nat) : ArgPosition → Read V
  | .pre k _ => Read.nth arr k
  | .optional j default =>
    if minimum j ≤ arr.length then Read.nth arr (p.pre.length + j) else dflt default
  | .rest =>
    .slice ((arr.drop (p.pre.length + p.optional.length)).take
      (arr.length - p.post.length - (p.pre.length + p.optional.length)))
  | .post n =>
    if p.pre.length + p.post.length ≤ arr.length then Read.nth arr (arr.length - p.post.length + n)
    else Read.nth arr (p.pre.length + n)

namespace Op

variable {V : Type}

/-- Read over the array in `a`, the spread values bind as a proc does, except that optional
parameter `j` takes its element once the array has `pre + j + 1` elements. -/
theorem readIn_arrayValue (p : Params Node) (a : Slot) (arr : List V) {pos : ArgPosition}
    (hpos : pos.FitsIn p) :
    ((Lower.ArgSource.array a).value p pos).readIn a arr =
      procBinding p arr (·.readLeaf a arr) (fun j => p.pre.length + j + 1) pos := by
  cases pos with
  | pre k missing => exact readIn_arrayIndex_ofNat a arr k
  | optional j default =>
    rw [Lower.ArgSource.value, readIn_sizeAtLeast, readLeaf_arrayIndex, Read.index_ofNat]
    rfl
  | rest =>
    rw [Lower.ArgSource.value, ← Int.natCast_add, readIn_arraySlice]
    rfl
  | post n => exact readIn_trailing a arr hpos

/-- The one trailing parameter, read over `[0, 1]`. -/
theorem readIn_arrayValue_trailing :
    (ArgPosition.post 0).FitsIn { post := [.mk ⟨0, 0⟩ false (.argument "c")] } ∧
      ((Lower.ArgSource.array ⟨"t", 0, 0⟩).value { post := [.mk ⟨0, 0⟩ false (.argument "c")] }
          (.post 0)).readIn ⟨"t", 0, 0⟩ [0, 1] =
        procBinding { post := [.mk ⟨0, 0⟩ false (.argument "c")] } [0, 1]
          (·.readLeaf ⟨"t", 0, 0⟩ [0, 1]) (fun j => 0 + j + 1) (.post 0) :=
  ⟨by decide, readIn_arrayValue _ _ _ (by decide)⟩

end Op

/-- The spread binding and a proc's own binding agree everywhere but at an optional parameter
`j` when there are trailing parameters and the array has at least `pre + j + 1` elements but
fewer than `pre + post + j + 1`. -/
theorem procBinding_spread_eq_direct {V : Type} (p : Params Node) (arr : List V)
    (dflt : Op → Read V) {pos : ArgPosition}
    (houtside : ∀ j d, pos = .optional j d → p.post.length = 0 ∨
      arr.length < p.pre.length + j + 1 ∨ p.pre.length + p.post.length + j + 1 ≤ arr.length) :
    procBinding p arr dflt (fun j => p.pre.length + j + 1) pos =
      procBinding p arr dflt (fun j => p.pre.length + p.post.length + j + 1) pos := by
  cases pos with
  | optional j d =>
    have h := houtside j d rfl
    simp only [procBinding]
    split <;> split <;> first | rfl | omega
  | _ => rfl

/-- In `foo { |a, b = 5, c| }`, the block's spread binding writes into `b` a value that, when
the spread array is `[0, 1]`, is its second element; a proc serves the trailing `c` first and
leaves `b` its default there. -/
theorem compileUnit_spreadOptional_takesTrailing :
    ∃ c, compileUnit {} { file := "t.rb", root := some (.mk ⟨0, 0⟩ false (.fcall "foo" none
      (some (.mk ⟨0, 0⟩ false (.iter
        { span := ⟨0, 0⟩, body := none, locals := [], params :=
          { pre := [.mk ⟨0, 0⟩ false (.argument "a")],
            optional := [.mk ⟨0, 0⟩ false (.localAsgn "b" 0 (some (.mk ⟨0, 0⟩ false (.fixnum 5))))],
            post := [.mk ⟨0, 0⟩ false (.argument "c")] } }))))) } = .ok c ∧
      ∃ w ∈ c.root.body.units, w.head.kind = .proc ∧
        ∃ x ∈ w.body.nodes, ∃ v, x.form = .writeLocal ⟨"b", 1, 0⟩ v ∧
          v.readIn ⟨"%destructure_1", 3, 0⟩ [0, 1] = .elem 1 := by
  -- the block's unit under the call, and in its prelude the spread branch's write of `b`; the
  -- kernel runs the compile
  have hrun : ∃ c, compileUnit {} { file := "t.rb", root := some (.mk ⟨0, 0⟩ false (.fcall "foo"
      none (some (.mk ⟨0, 0⟩ false (.iter
        { span := ⟨0, 0⟩, body := none, locals := [], params :=
          { pre := [.mk ⟨0, 0⟩ false (.argument "a")],
            optional := [.mk ⟨0, 0⟩ false (.localAsgn "b" 0 (some (.mk ⟨0, 0⟩ false (.fixnum 5))))],
            post := [.mk ⟨0, 0⟩ false (.argument "c")] } }))))) } = .ok c ∧
      ∃ d ∈ c.root.body.atPath [0, 0, 0, 1], ∃ w ∈ d.ownUnit, w.head.kind = .proc ∧
        ∃ x ∈ w.body.atPath [0, 1, 2], ∃ sv ∈ x.localWrite, sv.1 = ⟨"b", 1, 0⟩ ∧
          sv.2.readIn ⟨"%destructure_1", 3, 0⟩ [0, 1] = .elem 1 := by
    set_option synthInstance.maxSize 1024 in
    decide +kernel
  obtain ⟨c, hc, d, hd, w, hw, hkind, x, hx, ⟨slot, v⟩, hwrite, rfl, hread⟩ := hrun
  exact ⟨c, hc, w, Op.mem_units_of_atPath _ hd hw, hkind, x, Op.mem_nodes_of_atPath hx, v,
    Op.form_of_localWrite hwrite, hread⟩

end RubyLower
