/-!
# Source spans

A span is a run of bytes of the source, given by its start offset and its length. Spans are
joined by `Span.union`, the least span that covers both, and shown as `start..stop`.

Offsets are 32-bit numbers: a span whose stop is past `maxOffset` can be held (its start and
length are each in range) but its stop cannot be computed. `Span.fits` says whether it can, and
`Span.join` is the union of two spans whose stops are both computed, failing with an
`OffsetOverflow` otherwise. A wider byte offset is cut to its low 32 bits when a span stores it
(`Span.wrap`).
-/

namespace RubyLower

/-- A run of `length` bytes of the source starting at byte offset `start`. -/
structure Span where
  start : Nat
  length : Nat
  deriving DecidableEq, Inhabited

namespace Span

/-- The offset just past the span. -/
def stop (s : Span) : Nat :=
  s.start + s.length

/-- The span from offset `a` up to offset `b`. -/
def ofBounds (a b : Nat) : Span :=
  ⟨a, b - a⟩

/-- The least span covering both. -/
def union (a b : Span) : Span :=
  ofBounds (min a.start b.start) (max a.stop b.stop)

/-- The largest offset. -/
def maxOffset : Nat := 0xFFFFFFFF

/-- The offset that a span holds for byte offset `n`: its low 32 bits. -/
def wrap (n : Nat) : Nat :=
  n % (maxOffset + 1)

/-- Whether the stop of the span is an offset: at most `maxOffset`. -/
def fits (s : Span) : Bool :=
  decide (s.stop ≤ maxOffset)

/-- The span written as `start..stop`. -/
def text (s : Span) : String :=
  s!"{s.start}..{s.stop}"

@[simp] theorem stop_ofBounds {a b : Nat} (h : a ≤ b) : (ofBounds a b).stop = b := by
  simp [ofBounds, stop]; omega

/-- The union starts at the earlier start. -/
@[simp] theorem union_start (a b : Span) : (a.union b).start = min a.start b.start := rfl

/-- The union stops at the later stop. -/
@[simp] theorem union_stop (a b : Span) : (a.union b).stop = max a.stop b.stop := by
  simp only [union]
  rw [stop_ofBounds]
  simp only [stop]
  omega

end Span

/-- A sum of offsets past `maxOffset`, which no offset can hold. -/
inductive OffsetOverflow where
  | sum
  deriving DecidableEq, Inhabited

namespace Span

/-- The union of two spans, which computes both stops: it fails unless both fit. -/
def join (a b : Span) : Except OffsetOverflow Span :=
  if a.fits && b.fits then .ok (a.union b) else .error .sum

/-- The union of spans that fit fits as well. -/
theorem fits_union {a b : Span} (ha : a.fits = true) (hb : b.fits = true) :
    (a.union b).fits = true := by
  simp only [fits, decide_eq_true_eq] at ha hb ⊢
  rw [union_stop]
  omega

end Span

end RubyLower
