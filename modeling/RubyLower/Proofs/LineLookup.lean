import Mathlib.Data.List.Nodup
import RubyLower.Text.Lines

/-!
# Line lookup counts line feeds

The line of an offset is looked up by a binary search of the line starts (`LineIndex.lineOf`).
Its main statement, `LineIndex.lineOf_ofText`, says that this gives what counting gives: one more
than the number of line feed bytes before the offset.

It is built in three steps.

* The line starts of a text increase strictly (`starts_pairwise`), and those at or before an
  offset are one for the start of the text and one for each line feed before the offset
  (`countP_breaksFrom`).
* The binary search answers as documented on a strictly increasing array (`search_eq`): the
  index of `x` if it finds it, otherwise the index where `x` would be inserted, both being the
  number of elements below `x`. Its window keeps the invariant `Window`: not empty, inside the
  array, its first element at most `x` unless it starts the array, every element past it
  greater than `x`; each halving keeps it (`Window.halve`), and the last comparison reads the
  answer off it (`Window.last`).
* So the line of an offset, one past a found index or else the insertion point, is the number
  of line starts at or before it (`lineOf_eq_countP`).
-/

namespace RubyLower.LineIndex

/-! ## The line starts -/

theorem lt_of_mem_breaksFrom {base : Nat} {bs : List UInt8} {y : Nat}
    (h : y ∈ breaksFrom base bs) : base < y := by
  induction bs generalizing base with
  | nil => cases h
  | cons b bs ih =>
    unfold breaksFrom at h
    split at h
    · rcases List.mem_cons.1 h with rfl | h
      · omega
      · have := ih h; omega
    · have := ih h; omega

theorem breaksFrom_pairwise (base : Nat) (bs : List UInt8) :
    (breaksFrom base bs).Pairwise (· < ·) := by
  induction bs generalizing base with
  | nil => exact .nil
  | cons b bs ih =>
    unfold breaksFrom
    split
    · exact .cons (fun y hy => lt_of_mem_breaksFrom hy) (ih _)
    · exact ih _

/-- The starts after line feeds at or before `pos` are one for each line feed before `pos`. -/
theorem countP_breaksFrom (base : Nat) (bs : List UInt8) (pos : Nat) :
    (breaksFrom base bs).countP (· ≤ pos) = (bs.take (pos - base)).count 10 := by
  induction bs generalizing base with
  | nil => simp [breaksFrom]
  | cons b bs ih =>
    unfold breaksFrom
    -- the byte at `base` is before `pos` exactly when the start after it is at or before `pos`
    rcases Nat.lt_or_ge base pos with h | h
    · rw [show pos - base = (pos - (base + 1)) + 1 by omega, List.take_succ_cons]
      split
      · rename_i hb
        rw [List.countP_cons, ih, hb, List.count_cons_self]
        simp; omega
      · rename_i hb
        rw [ih, List.count_cons_of_ne hb]
    · rw [show pos - base = 0 by omega, List.take_zero, List.count_nil]
      split
      · rw [List.countP_cons, ih, show pos - (base + 1) = 0 by omega]
        simp; omega
      · rw [ih, show pos - (base + 1) = 0 by omega]; rfl

theorem starts_pairwise (text : String) : (ofText text).starts.toList.Pairwise (· < ·) := by
  simp only [ofText, List.toList_toArray]
  exact .cons (fun y hy => lt_of_mem_breaksFrom hy) (breaksFrom_pairwise 0 _)

/-! ## Binary search -/

/-- A list whose elements satisfy `p` exactly before index `k` has `k` of them. -/
theorem countP_eq_of_partition {l : List Nat} {p : Nat → Bool} {k : Nat} (hk : k ≤ l.length)
    (hp : ∀ j (h : j < l.length), p l[j] = true ↔ j < k) : l.countP p = k := by
  induction l generalizing k with
  | nil => simp at hk; simp [hk]
  | cons y l ih =>
    have hy := hp 0 (by simp)
    have hrest : ∀ j (h : j < l.length), p l[j] = true ↔ j < k - 1 := fun j h => by
      have := hp (j + 1) (by simp; omega)
      simp only [List.getElem_cons_succ] at this
      rw [this]; omega
    rw [List.countP_cons, ih (by simp at hk; omega) hrest]
    cases k with
    | zero => simp at hy; simp [hy]
    | succ k => simp at hy; simp [hy]

section Search

variable {a : Array Nat} {x : Nat}

theorem getElem_lt_getElem (hs : a.toList.Pairwise (· < ·)) {i j : Nat} (hi : i < a.size)
    (hj : j < a.size) (hij : i < j) : a[i] < a[j] := by
  have := List.pairwise_iff_getElem.1 hs i j (by simpa) (by simpa) hij
  simpa using this

/-- The elements below `x` are those before an index `k` that splits the array there. -/
theorem countP_lt_eq {k : Nat} (hk : k ≤ a.size) (hlt : ∀ j (h : j < a.size), j < k → a[j] < x)
    (hge : ∀ j (h : j < a.size), k ≤ j → x ≤ a[j]) : a.toList.countP (· < x) = k := by
  refine countP_eq_of_partition (by simpa using hk) fun j hj => ?_
  have hj' : j < a.size := by simpa using hj
  simp only [Array.getElem_toList, decide_eq_true_eq]
  constructor
  · intro h; by_contra hkj; exact absurd (hge j hj' (by omega)) (Nat.not_le_of_lt h)
  · exact hlt j hj'

theorem not_mem_of_ne (h : ∀ j (hj : j < a.size), a[j] ≠ x) : x ∉ a.toList := by
  intro hx
  obtain ⟨j, hj, hjx⟩ := List.mem_iff_getElem.1 hx
  exact h j (by simpa using hj) (by simpa using hjx)

/-- What the window `[base, base + size)` of a binary search for `x` knows: it is not empty and
lies in the array, its first element is at most `x` unless it starts the array, and every
element past it is greater than `x`. -/
structure Window (a : Array Nat) (x base size : Nat) : Prop where
  pos : 0 < size
  fits : base + size ≤ a.size
  start : ∀ h : base < a.size, 0 < base → a[base] ≤ x
  past : ∀ j (h : j < a.size), base + size ≤ j → x < a[j]

theorem Window.init (hz : a.size ≠ 0) : Window a x 0 a.size :=
  ⟨by omega, by omega, fun _ h => absurd h (Nat.lt_irrefl 0), fun _ _ hj => by omega⟩

/-- Halving keeps the window: the lower half when the middle element is greater than `x`, and
from the middle on otherwise. -/
theorem Window.halve (hs : a.toList.Pairwise (· < ·)) {base size : Nat}
    (w : Window a x base size) (h2 : 1 < size) (hmid : base + size / 2 < a.size) :
    Window a x (if x < a[base + size / 2] then base else base + size / 2) (size - size / 2) := by
  split
  · rename_i hlt
    -- the kept half reaches the middle, and everything from the middle on is above `x`
    refine ⟨by omega, by have := w.fits; omega, w.start, fun j hj hle => ?_⟩
    rcases Nat.eq_or_lt_of_le (show base + size / 2 ≤ j by omega) with heq | hgt
    · subst heq; exact hlt
    · exact Nat.lt_trans hlt (getElem_lt_getElem hs hmid hj hgt)
  · rename_i hge
    refine ⟨by omega, by have := w.fits; omega, fun _ _ => Nat.le_of_not_lt hge,
      fun j hj hle => w.past j hj (by omega)⟩

/-- The halving loop ends with a window of one element. -/
theorem Window.narrow (hs : a.toList.Pairwise (· < ·)) {base size : Nat}
    (h : base + size ≤ a.size) (w : Window a x base size) :
    Window a x (LineIndex.narrow a x base size h) 1 := by
  fun_induction LineIndex.narrow a x base size h with
  | case1 base size h hle =>
    obtain rfl : size = 1 := by have := w.pos; omega
    exact w
  | case2 base size h hle hmid ih => exact ih (w.halve hs (by omega) hmid)

namespace Window

variable {base : Nat}

/-- An element below `x` left by the search is the last one below `x`, and `x` is not there. -/
theorem countP_of_lt (hs : a.toList.Pairwise (· < ·)) (w : Window a x base 1)
    (hb : base < a.size) (hlt : a[base] < x) :
    a.toList.countP (· < x) = base + 1 ∧ x ∉ a.toList := by
  refine ⟨countP_lt_eq (by have := w.fits; omega) (fun j hj hjk => ?_)
    (fun j hj hkj => Nat.le_of_lt (w.past j hj hkj)), not_mem_of_ne fun j hj hjx => ?_⟩
  · rcases Nat.eq_or_lt_of_le (show j ≤ base by omega) with rfl | hjb
    · exact hlt
    · exact Nat.lt_trans (getElem_lt_getElem hs hj hb hjb) hlt
  · -- past the element everything is above `x`, before it everything is below it
    rcases Nat.lt_or_ge base j with hbj | hjb
    · exact absurd (w.past j hj hbj) (by omega)
    · rcases Nat.eq_or_lt_of_le hjb with rfl | hjb
      · omega
      · have := getElem_lt_getElem hs hj hb hjb; omega

/-- An element equal to `x` left by the search has every element below `x` before it. -/
theorem countP_of_eq (hs : a.toList.Pairwise (· < ·)) (hb : base < a.size) (heq : a[base] = x) :
    a.toList.countP (· < x) = base := by
  refine countP_lt_eq (Nat.le_of_lt hb) (fun j hj hjk => heq ▸ getElem_lt_getElem hs hj hb hjk)
    (fun j hj hkj => ?_)
  rcases Nat.eq_or_lt_of_le hkj with rfl | hbj
  · exact Nat.le_of_eq heq.symm
  · exact heq ▸ Nat.le_of_lt (getElem_lt_getElem hs hb hj hbj)

/-- An element above `x` is left only at the start of the array, and then every element is
above `x`. -/
theorem countP_of_gt (w : Window a x base 1) (hb : base < a.size) (hgt : x < a[base]) :
    base = 0 ∧ a.toList.countP (· < x) = 0 ∧ x ∉ a.toList := by
  have h0 : base = 0 := Nat.eq_zero_of_not_pos fun hpos => absurd (w.start hb hpos) (by omega)
  subst h0
  have hge : ∀ j (hj : j < a.size), x < a[j] := fun j hj => by
    rcases Nat.eq_zero_or_pos j with rfl | hj0
    · exact hgt
    · exact w.past j hj hj0
  exact ⟨rfl, countP_lt_eq (Nat.zero_le _) (fun j _ hj => absurd hj (Nat.not_lt_zero _))
      (fun j hj _ => Nat.le_of_lt (hge j hj)),
    not_mem_of_ne fun j hj hjx => by have := hge j hj; omega⟩

/-- The last comparison of a binary search: the element left is `x`, or `x` belongs just after
it, or at it when it starts the array. -/
theorem last (hs : a.toList.Pairwise (· < ·)) (w : Window a x base 1) (hb : base < a.size) :
    (if a[base] = x then Except.ok base else if a[base] < x then Except.error (base + 1)
      else Except.error base) =
      if x ∈ a.toList then .ok (a.toList.countP (· < x)) else .error (a.toList.countP (· < x)) := by
  rcases Nat.lt_trichotomy a[base] x with hlt | heq | hgt
  · obtain ⟨hcount, hx⟩ := countP_of_lt hs w hb hlt
    rw [if_neg (Nat.ne_of_lt hlt), if_pos hlt, if_neg hx, hcount]
  · rw [if_pos heq, if_pos (heq ▸ Array.getElem_mem_toList hb), countP_of_eq hs hb heq]
  · obtain ⟨rfl, hcount, hx⟩ := countP_of_gt w hb hgt
    rw [if_neg (by omega), if_neg (by omega), if_neg hx, hcount]

end Window

/-- **Binary search answers as documented.** On a strictly increasing array the search finds
`x` at its index, which is the number of elements below it, or else answers the index where `x`
would be inserted, which is that number too. -/
theorem search_eq (hs : a.toList.Pairwise (· < ·)) (x : Nat) :
    search a x = if x ∈ a.toList then .ok (a.toList.countP (· < x))
      else .error (a.toList.countP (· < x)) := by
  unfold search
  split
  · rename_i hz
    have hnil : a.toList = [] := by simpa using hz
    simp [hnil]
  · rename_i hz
    exact Window.last hs ((Window.init hz).narrow hs (by omega)) _

end Search

/-! ## The line of an offset -/

/-- The elements at most `x` are those below it and the copies of `x`. -/
theorem countP_le_eq (l : List Nat) (x : Nat) :
    l.countP (· ≤ x) = l.countP (· < x) + l.count x := by
  induction l with
  | nil => rfl
  | cons y l ih =>
    rw [List.countP_cons, List.countP_cons, List.count_cons, ih]
    by_cases hyx : y < x
    · simp [hyx, Nat.le_of_lt hyx, Nat.ne_of_lt hyx]; omega
    · by_cases hxy : y = x
      · subst hxy; simp; omega
      · simp [hyx, hxy]; omega

/-- On increasing line starts, the line of an offset is the number of line starts at or
before it. -/
theorem lineOf_eq_countP (idx : LineIndex) (hs : idx.starts.toList.Pairwise (· < ·))
    (pos : Nat) : idx.lineOf pos = idx.starts.toList.countP (· ≤ pos) := by
  unfold lineOf
  rw [search_eq hs, countP_le_eq]
  -- a found start is counted once, as the starts are distinct
  by_cases hmem : pos ∈ idx.starts.toList
  · rw [if_pos hmem, List.count_eq_one_of_mem (hs.imp Nat.ne_of_lt) hmem]
  · rw [if_neg hmem, List.count_eq_zero_of_not_mem hmem, Nat.add_zero]

/-- **Line lookup counts line feeds.** The line of offset `pos` in a source is one more than
the number of line feed bytes before `pos`, or before the end of the source if `pos` is past
it. -/
theorem lineOf_ofText (source : String) (pos : Nat) :
    (ofText source).lineOf pos = 1 + (source.toUTF8.toList.take pos).count 10 := by
  rw [lineOf_eq_countP _ (starts_pairwise source)]
  simp only [ofText, List.toList_toArray, List.countP_cons, countP_breaksFrom, Nat.sub_zero]
  simp; omega

example : (ofText "x = 1\ny = 2\nputs x").lineOf 6 = 2 := by decide +kernel

end RubyLower.LineIndex
