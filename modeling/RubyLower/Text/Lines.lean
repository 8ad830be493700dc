/-!
# Line numbers

The lines of a source text start at offset 0 and just after each line feed byte. The line of an
offset is found by a binary search of the line starts: an offset that starts a line is on that
line, and any other offset is on the line of the last start before it, so a line feed belongs to
the line it ends and an offset past the end falls on the last line.

`LineIndex.search` is the binary search of a sorted array: it answers `.ok i` when it finds the
value at `i`, and otherwise `.error i` with `i` the index where the value would be inserted to
keep the order.
-/

namespace RubyLower

/-- The byte offsets at which the lines of a text start, in increasing order. -/
structure LineIndex where
  starts : Array Nat

namespace LineIndex

/-- Offsets just after each line feed of `bytes`, from offset `base` on. -/
def breaksFrom : Nat → List UInt8 → List Nat
  | _, [] => []
  | base, b :: bs => if b = 10 then (base + 1) :: breaksFrom (base + 1) bs else breaksFrom (base + 1) bs

/-- The line starts of a text: offset 0, then the offset after each line feed. -/
def ofText (text : String) : LineIndex :=
  ⟨(0 :: breaksFrom 0 text.toUTF8.toList).toArray⟩

/-- The window of `size` elements from `base` of a binary search for `x`, halved until one
element is left. The element at the middle decides: when it is greater than `x` the window
keeps its lower half, otherwise it starts at the middle. The loop never stops early, so its
number of steps depends on the size alone. -/
def narrow (a : Array Nat) (x : Nat) (base size : Nat) (h : base + size ≤ a.size) : Nat :=
  if hs : size ≤ 1 then base
  else
    have hmid : base + size / 2 < a.size := by omega
    narrow a x (if x < a[base + size / 2] then base else base + size / 2) (size - size / 2)
      (by split <;> omega)
termination_by size
decreasing_by omega

/-- The window a binary search ends with lies in the array. -/
theorem narrow_lt (a : Array Nat) (x : Nat) (base size : Nat) (h : base + size ≤ a.size)
    (hs : 0 < size) : narrow a x base size h < a.size := by
  fun_induction narrow a x base size h with
  | case1 base size h hle => omega
  | case2 base size h hle hmid ih => exact ih (by omega)

/-- Binary search of a sorted array for `x`: `.ok i` when the element at `i` is `x`, otherwise
`.error i` with `i` the index at which `x` would be inserted to keep the order. The one element
left by `narrow` is compared with `x` last. -/
def search (a : Array Nat) (x : Nat) : Except Nat Nat :=
  if hz : a.size = 0 then .error 0
  else
    let base := narrow a x 0 a.size (by omega)
    have hb : base < a.size := narrow_lt a x 0 a.size _ (by omega)
    if a[base] = x then .ok base
    else if a[base] < x then .error (base + 1)
    else .error base

/-- The 1-based line of the byte offset `pos`: one past the index of the line start found at
`pos`, or else the number of line starts before `pos`. -/
def lineOf (idx : LineIndex) (pos : Nat) : Nat :=
  match search idx.starts pos with
  | .ok i => i + 1
  | .error i => i

end LineIndex

end RubyLower
