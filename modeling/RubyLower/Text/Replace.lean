/-!
# Replacing a pattern in a text

`replaceList pat rep s` scans `s` from the left and puts `rep` in place of each occurrence of
`pat`, going on just after it: occurrences do not overlap, and the text put in is not scanned
again. An empty pattern is never looked for; every pattern this library replaces has a
character.
-/

namespace RubyLower.Text

/-- Every occurrence of `pat` in a run of characters replaced by `rep`, leftmost first. -/
def replaceList (pat rep : List Char) : List Char → List Char
  | [] => []
  | c :: cs =>
    if _ : pat ≠ [] ∧ pat.isPrefixOf (c :: cs) then
      rep ++ replaceList pat rep ((c :: cs).drop pat.length)
    else c :: replaceList pat rep cs
termination_by s => s.length
decreasing_by
  · have : 0 < pat.length := List.length_pos_iff.2 ‹pat ≠ [] ∧ _›.1
    simp only [List.length_drop, List.length_cons]
    omega
  · simp

/-- Every occurrence of `pat` in a text replaced by `rep`. -/
def replaceAll (s pat rep : String) : String :=
  String.ofList (replaceList pat.toList rep.toList s.toList)

variable {pat rep : List Char}

@[simp]
theorem replaceList_nil : replaceList pat rep [] = [] := by
  rw [replaceList]

/-- An occurrence at the front is replaced, and the scan goes on after it. -/
theorem replaceList_pattern_append (hp : pat ≠ []) (rest : List Char) :
    replaceList pat rep (pat ++ rest) = rep ++ replaceList pat rep rest := by
  obtain ⟨p, ps, rfl⟩ := List.exists_cons_of_ne_nil hp
  rw [List.cons_append, replaceList, dif_pos ⟨hp, by simp⟩, ← List.cons_append,
    List.drop_left]

/-- A character that starts no occurrence is kept. -/
theorem replaceList_cons {c : Char} {cs : List Char} (h : ¬ pat <+: c :: cs) :
    replaceList pat rep (c :: cs) = c :: replaceList pat rep cs := by
  rw [replaceList, dif_neg (by simpa using fun _ => h)]

end RubyLower.Text
