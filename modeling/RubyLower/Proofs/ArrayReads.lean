import RubyLower.Proofs.SuperArgs

/-!
# Reading the elements of an array kept in a local

A multiple assignment, and the prelude of a block that spreads one array over its parameters,
keep the array in a local and read its elements with three forms. `Form.arrayIndex` reads one
element: a negative index counts from the end, and an index out of range gives nil.
`Form.arraySlice` reads a run of elements, up to an end that is counted back from the end of the
array when it is not positive. `Form.arraySizeAtLeast`, as the condition of an `Form.ifElse`,
picks one of two reads by the array's length.

`Op.readIn a arr o` is what such a read `o` gives when the local `a` holds `arr`
(`Read.elem`, `Read.nil` or `Read.slice`), and `Read.other` for the value of any other
expression, such as an optional parameter's default. The lemmas give the reads the lowering
builds: an element from the front (`readIn_arrayIndex_ofNat`), a run between two bounds
(`readIn_arraySlice`), and a trailing element, which is taken from the end when the array is
long enough and from the front otherwise (`readIn_trailing`).
-/

namespace RubyLower

/-- What reading a value gives: an element of the array, nil, a run of elements, or the value of
another expression. -/
inductive Read (V : Type) where
  | elem (v : V)
  | nil
  | slice (vs : List V)
  | other
  deriving DecidableEq

namespace Read

variable {V : Type}

/-- The element at a position from the front, nil past the end. -/
def nth (arr : List V) (k : Nat) : Read V :=
  match arr[k]? with
  | some v => elem v
  | none => nil

/-- The element an index reads: a negative index counts from the end; out of range, nil. -/
def index (arr : List V) (i : Int) : Read V :=
  let j := if i < 0 then arr.length + i else i
  if 0 ≤ j then nth arr j.toNat else nil

/-- The elements from `first` up to `last`, exclusive; a `last` that is not positive is counted
back from the end. -/
def sliceOf (arr : List V) (first last : Int) : Read V :=
  let stop := if last ≤ 0 then arr.length + last else last
  slice ((arr.drop first.toNat).take (stop - first).toNat)

theorem index_ofNat (arr : List V) (k : Nat) : index arr k = nth arr k := by
  have hk : ¬ (k : Int) < 0 := by omega
  simp only [index, hk, if_false, Int.natCast_nonneg, if_true, Int.toNat_natCast]

/-- A negative index `-m` reads the element `m` places before the end. -/
theorem index_neg (arr : List V) {m : Nat} (hm : 0 < m) (hle : m ≤ arr.length) :
    index arr (-(m : Int)) = nth arr (arr.length - m) := by
  have hneg : -(m : Int) < 0 := by omega
  have hj : (0 : Int) ≤ arr.length + -(m : Int) := by omega
  have hval : ((arr.length : Int) + -(m : Int)).toNat = arr.length - m := by omega
  simp only [index, hneg, if_true, hj, hval]

/-- A run from a position up to `post` elements before the end: empty when they overlap. -/
theorem sliceOf_neg (arr : List V) (first post : Nat) :
    sliceOf arr first (-(post : Int)) =
      slice ((arr.drop first).take (arr.length - post - first)) := by
  have hlast : -(post : Int) ≤ 0 := by omega
  have hcount : ((arr.length : Int) + -(post : Int) - first).toNat = arr.length - post - first := by
    omega
  simp only [sliceOf, hlast, if_true, Int.toNat_natCast, hcount]

end Read

namespace Op

variable {V : Type}

/-- What an element read or a run read of the array in `a` gives; `Read.other` for any other
node. -/
def readLeaf (a : Slot) (arr : List V) (o : Op) : Read V :=
  match o.form with
  | .arrayIndex (.mk (.readLocal s) _ _) i => if s = a then Read.index arr i else .other
  | .arraySlice (.mk (.readLocal s) _ _) first last =>
    if s = a then Read.sliceOf arr first last else .other
  | _ => .other

/-- What `o` gives when the local `a` holds `arr`: a read of the array, or one of two picked by
whether the array has at least some number of elements. -/
def readIn (a : Slot) (arr : List V) (o : Op) : Read V :=
  match o.form with
  | .ifElse (.mk (.arraySizeAtLeast (.mk (.readLocal s) _ _) size) _ _) t e =>
    if s = a then (if size ≤ arr.length then t.readLeaf a arr else e.readLeaf a arr) else .other
  | _ => o.readLeaf a arr

/-- The slot a node writes and the value it writes there, when it writes a local. -/
def localWrite (o : Op) : Option (Slot × Op) :=
  match o.form with
  | .writeLocal s v => some (s, v)
  | _ => none

theorem form_of_localWrite {o : Op} {s : Slot} {v : Op} (h : o.localWrite = some (s, v)) :
    o.form = .writeLocal s v := by
  unfold localWrite at h
  split at h
  · cases h
    assumption
  · cases h

variable (a : Slot) (arr : List V)

theorem readLeaf_arrayIndex (i : Int) :
    (Lower.arrayIndex a i).readLeaf a arr = Read.index arr i := by
  simp only [readLeaf, Lower.arrayIndex, ofForm, form, readLocal, if_true]

theorem readIn_arrayIndex (i : Int) :
    (Lower.arrayIndex a i).readIn a arr = Read.index arr i :=
  readLeaf_arrayIndex a arr i

theorem readIn_arrayIndex_ofNat (k : Nat) :
    (Lower.arrayIndex a k).readIn a arr = Read.nth arr k := by
  rw [readIn_arrayIndex, Read.index_ofNat]

theorem readIn_arraySlice (first post : Nat) :
    (Op.ofForm (.arraySlice (Op.readLocal a) first (-(post : Int)))).readIn a arr =
      .slice ((arr.drop first).take (arr.length - post - first)) := by
  simp only [readIn, readLeaf, ofForm, form, readLocal, if_true, Read.sliceOf_neg]

/-- A read guarded by the array's length reads one branch or the other. -/
theorem readIn_sizeAtLeast (size : Nat) (t e : Op) :
    (Op.ifElse (Op.ofForm (.arraySizeAtLeast (Op.readLocal a) size)) t e).readIn a arr =
      if size ≤ arr.length then t.readLeaf a arr else e.readLeaf a arr := by
  simp only [readIn, ifElse, ofForm, form, readLocal, if_true]

/-- The read of the `n`-th of `post` trailing elements after `pre` leading ones: from the end
when the array holds both, else right after the leading ones. -/
theorem readIn_trailing {pre post n : Nat} (hn : n < post) :
    (Op.ifElse (Op.ofForm (.arraySizeAtLeast (Op.readLocal a) (pre + post)))
        (Lower.arrayIndex a (-((post - n : Nat) : Int))) (Lower.arrayIndex a (pre + n))).readIn a
      arr =
      if pre + post ≤ arr.length then Read.nth arr (arr.length - post + n)
      else Read.nth arr (pre + n) := by
  rw [readIn_sizeAtLeast]
  split
  · next hlong =>
    have hfromEnd : arr.length - (post - n) = arr.length - post + n := by omega
    rw [readLeaf_arrayIndex, Read.index_neg arr (by omega) (by omega), hfromEnd]
  · rw [← Int.natCast_add, readLeaf_arrayIndex, Read.index_ofNat]

end Op

end RubyLower
