/-!
# Byte offsets in text

Offsets into a source are counted in bytes of its UTF-8 encoding, while the text is scanned as a
list of characters. `byteLength` counts the bytes of a run of characters; `dropBytes` and
`sliceBytes` cut a text at byte offsets that fall on character boundaries, and `bytePrefix`
keeps the characters that fit in a number of bytes, standing one replacement character for a
character cut in two.
-/

namespace RubyLower.Text

/-- Bytes of the UTF-8 encoding of a run of characters. -/
def byteLength : List Char → Nat
  | [] => 0
  | c :: cs => c.utf8Size + byteLength cs

@[simp]
theorem byteLength_nil : byteLength [] = 0 := rfl

@[simp]
theorem byteLength_cons (c : Char) (cs : List Char) :
    byteLength (c :: cs) = c.utf8Size + byteLength cs := rfl

/-- The characters that start at or after byte offset `n`. -/
def dropBytes : List Char → Nat → List Char
  | [], _ => []
  | cs@(c :: r), n => if n = 0 then cs else dropBytes r (n - min n c.utf8Size)

/-- The characters that end within the first `n` bytes, followed by a replacement character
when the next character starts within them but ends beyond. -/
def bytePrefix : List Char → Nat → List Char
  | [], _ => []
  | c :: r, n =>
    if n = 0 then []
    else if c.utf8Size ≤ n then c :: bytePrefix r (n - c.utf8Size)
    else ['�']

/-- The text between byte offsets `a` and `b` of `s`. -/
def sliceBytes (s : String) (a b : Nat) : String :=
  String.ofList (bytePrefix (dropBytes s.toList a) (b - a))

@[simp]
theorem byteLength_append (l m : List Char) : byteLength (l ++ m) = byteLength l + byteLength m := by
  induction l with
  | nil => simp
  | cons c l ih => simp [ih, Nat.add_assoc]

theorem byteLength_eq_utf8ByteSize (l : List Char) :
    byteLength l = (String.ofList l).utf8ByteSize := by
  induction l with
  | nil => rfl
  | cons c l ih =>
    rw [← List.singleton_append, String.ofList_append, String.utf8ByteSize_append, ← ih,
      byteLength_append, ← String.singleton_eq_ofList, String.utf8ByteSize_singleton]
    simp

/-- The characters of a text take its size in bytes. -/
theorem byteLength_toList (s : String) : byteLength s.toList = s.utf8ByteSize := by
  rw [byteLength_eq_utf8ByteSize, String.ofList_toList]

/-- Characters of one byte each take as many bytes as there are of them. -/
theorem byteLength_eq_length {l : List Char} (h : ∀ c ∈ l, c.utf8Size = 1) :
    byteLength l = l.length := by
  induction l with
  | nil => rfl
  | cons c l ih =>
    rw [byteLength_cons, h c List.mem_cons_self, ih fun d hd => h d (List.mem_cons_of_mem _ hd)]
    simp [Nat.add_comm]

/-- The characters after a prefix start at the prefix's byte length. -/
theorem dropBytes_append (pre rest : List Char) :
    dropBytes (pre ++ rest) (byteLength pre) = rest := by
  induction pre with
  | nil => cases rest <;> rfl
  | cons c pre ih =>
    have hc := c.utf8Size_pos
    rw [List.cons_append, dropBytes, if_neg (by simp; omega), byteLength_cons,
      Nat.min_eq_right (Nat.le_add_right _ _), Nat.add_sub_cancel_left, ih]

/-- The characters that fit in the byte length of a prefix are the prefix. -/
theorem bytePrefix_append (l rest : List Char) : bytePrefix (l ++ rest) (byteLength l) = l := by
  induction l with
  | nil => cases rest <;> rfl
  | cons c l ih =>
    have hc := c.utf8Size_pos
    rw [List.cons_append, bytePrefix, if_neg (by simp; omega), byteLength_cons,
      if_pos (Nat.le_add_right _ _), Nat.add_sub_cancel_left, ih]

/-- The text between the byte offsets where `mid` starts and ends is `mid`. -/
theorem sliceBytes_eq {s : String} {pre mid rest : List Char} (h : s.toList = pre ++ mid ++ rest) :
    sliceBytes s (byteLength pre) (byteLength pre + byteLength mid) = String.ofList mid := by
  rw [sliceBytes, h, List.append_assoc, dropBytes_append, Nat.add_sub_cancel_left,
    bytePrefix_append]

end RubyLower.Text
