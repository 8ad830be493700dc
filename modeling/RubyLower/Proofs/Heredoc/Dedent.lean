import Mathlib.Data.List.Forall2
import Mathlib.Tactic.SplitIfs
import RubyLower.Heredoc.Dedent

/-!
# Squiggly dedent removes the common indentation, once

`dedentSquiggly` takes from the front of each line's first literal a run of spaces and tabs that
fills at most the least indentation `w` of the lines (`dedentLine_strips`). What follows such a run
decides whether a line has content, and a column count, however it starts, ends the same way on
the same text (`IndentEnd.shape`), so no line goes from content to blank or back
(`isSome_indentOf_dedentLine`). A line whose indentation is `w` fills exactly `w` columns with its
blanks, and each of its tabs stops within them, so it loses them all and ends at indentation zero
(`indentOf_dedentLine_self`). Hence the least indentation after dedenting is zero, and dedenting
again changes nothing (`dedentSquiggly_removesCommonIndent`).
-/

namespace RubyLower.Heredoc

/-- The column a run of blanks from column `col` ends at: a space advances one column, a tab to
the next tab stop. -/
def blankColumn : List Char → Nat → Nat
  | [], col => col
  | c :: r, col => blankColumn r (if c = '\t' then tabStop col else col + 1)

/-- The column a walk over leading blanks stops at, unless a line break ends it. -/
def IndentEnd.column? : IndentEnd → Option Nat
  | .content col => some col
  | .lineBreak => none
  | .exhausted col => some col

/-- How a walk over leading blanks ends, its column left out. -/
def IndentEnd.shape : IndentEnd → IndentEnd
  | .content _ => .content 0
  | .lineBreak => .lineBreak
  | .exhausted _ => .exhausted 0

theorem lt_tabStop (col : Nat) : col < tabStop col := by
  unfold tabStop tabWidth
  omega

/-! ## Walking over blanks -/

/-- A walk over leading blanks stops at or after the column it started from. -/
theorem le_of_column?_indentEnd : ∀ {cs : List Char} {col k : Nat},
    (indentEnd cs col).column? = some k → col ≤ k
  | [], _, _, h => by simpa [indentEnd, IndentEnd.column?] using Nat.le_of_eq (Option.some_inj.1 h)
  | c :: r, col, k, h => by
    unfold indentEnd at h
    split_ifs at h
    · exact Nat.le_of_lt (Nat.lt_of_lt_of_le (Nat.lt_succ_self col) (le_of_column?_indentEnd h))
    · exact Nat.le_of_lt (Nat.lt_of_lt_of_le (lt_tabStop col) (le_of_column?_indentEnd h))
    · cases h
    · exact Nat.le_of_eq (Option.some_inj.1 h)

/-- Where a walk over leading blanks ends does not depend on the column it starts from. -/
theorem shape_indentEnd : ∀ (cs : List Char) (col col' : Nat),
    (indentEnd cs col).shape = (indentEnd cs col').shape
  | [], _, _ => rfl
  | c :: r, col, col' => by
    unfold indentEnd
    split_ifs
    · exact shape_indentEnd r _ _
    · exact shape_indentEnd r _ _
    · rfl
    · rfl

/-- Walking over a run of blanks, then the rest, is walking the rest from where the run ends. -/
theorem indentEnd_blanks_append : ∀ {pre : List Char} (cs : List Char) (col : Nat),
    (∀ c ∈ pre, c = ' ' ∨ c = '\t') → indentEnd (pre ++ cs) col = indentEnd cs (blankColumn pre col)
  | [], _, _, _ => rfl
  | c :: pre, cs, col, h => by
    have hc := h c List.mem_cons_self
    have hpre : ∀ c ∈ pre, c = ' ' ∨ c = '\t' := fun x hx => h x (List.mem_cons_of_mem c hx)
    rcases hc with rfl | rfl
    · simp only [List.cons_append, indentEnd, blankColumn, if_pos, if_neg (by decide : ' ' ≠ '\t')]
      exact indentEnd_blanks_append cs _ hpre
    · simp only [List.cons_append, indentEnd, blankColumn, if_neg (by decide : '\t' ≠ ' ')]
      exact indentEnd_blanks_append cs _ hpre

/-! ## Dedenting one line -/

/-- Dedenting from column `col` up to `width` takes off a run of blanks ending within `width`. -/
theorem dedentChars_strips (width : Nat) : ∀ (cs : List Char) {col : Nat}, col ≤ width →
    ∃ pre, cs = pre ++ dedentChars cs col width ∧ (∀ c ∈ pre, c = ' ' ∨ c = '\t') ∧
      blankColumn pre col ≤ width
  | [], _, hcol => ⟨[], rfl, by simp, hcol⟩
  | c :: r, col, hcol => by
    unfold dedentChars
    by_cases hw : width ≤ col
    · rw [if_pos hw]
      exact ⟨[], rfl, by simp, hcol⟩
    rw [if_neg hw]
    by_cases hsp : c = ' '
    · -- a space fills one column inside the width
      rw [if_pos hsp]
      obtain ⟨pre, hcs, hpre, hend⟩ := dedentChars_strips width r (show col + 1 ≤ width by omega)
      refine ⟨c :: pre, by rw [List.cons_append, ← hcs], ?_, ?_⟩
      · exact List.forall_mem_cons.2 ⟨.inl hsp, hpre⟩
      · simpa [blankColumn, hsp] using hend
    rw [if_neg hsp]
    by_cases htab : c = '\t'
    · rw [if_pos htab]
      by_cases hcross : width < tabStop col
      · -- a tab that would cross the width stays
        rw [if_pos hcross]
        exact ⟨[], rfl, by simp, hcol⟩
      rw [if_neg hcross]
      obtain ⟨pre, hcs, hpre, hend⟩ := dedentChars_strips width r (show tabStop col ≤ width by omega)
      refine ⟨c :: pre, by rw [List.cons_append, ← hcs], ?_, ?_⟩
      · exact List.forall_mem_cons.2 ⟨.inr htab, hpre⟩
      · simpa [blankColumn, htab] using hend
    · rw [if_neg htab]
      exact ⟨[], rfl, by simp, hcol⟩

/-- A text whose blanks fill exactly `width` columns from `col` loses them all: what is left
starts at column zero and ends the way the text does. -/
theorem indentEnd_dedentChars_self {width : Nat} : ∀ {cs : List Char} {col : Nat}, col ≤ width →
    (indentEnd cs col).column? = some width →
      indentEnd (dedentChars cs col width) 0 = (indentEnd cs col).shape
  | [], col, _, h => by
    simp only [indentEnd, IndentEnd.column?, Option.some_inj] at h
    rfl
  | c :: r, col, hcol, h => by
    rw [indentEnd.eq_2] at h ⊢
    unfold dedentChars
    by_cases hw : width ≤ col
    · -- the blanks are used up, so `c` is the content the walk stops at
      rw [if_pos hw]
      split_ifs at h ⊢ with hsp htab hbr
      · exact absurd (le_of_column?_indentEnd h) (by omega)
      · exact absurd (le_of_column?_indentEnd h) (by have := lt_tabStop col; omega)
      · cases h
      · simp [indentEnd, hsp, htab, hbr, IndentEnd.shape]
    rw [if_neg hw]
    split_ifs at h ⊢ with hsp htab hcross hbr
    · exact indentEnd_dedentChars_self (le_of_column?_indentEnd h) h
    · exact absurd (le_of_column?_indentEnd h) (by omega)
    · exact indentEnd_dedentChars_self (le_of_column?_indentEnd h) h
    · cases h
    · exact absurd (Option.some_inj.1 h) (by omega)

/-- Dedenting a text takes a run of blanks off its front that ends within the width. -/
theorem dedentLine_strips (text : String) (width : Nat) :
    ∃ pre, text.toList = pre ++ (dedentLine text width).toList ∧ (∀ c ∈ pre, c = ' ' ∨ c = '\t') ∧
      blankColumn pre 0 ≤ width := by
  rw [dedentLine, String.toList_ofList]
  exact dedentChars_strips width text.toList (Nat.zero_le width)

/-- Whether a line starting with a literal has content depends on how the literal's leading
blanks end, not where. -/
theorem isSome_indentOf_literal {text text' : String} (rest : List Part)
    (h : (indentEnd text.toList 0).shape = (indentEnd text'.toList 0).shape) :
    (indentOf (.literal text :: rest)).isSome = (indentOf (.literal text' :: rest)).isSome := by
  simp only [indentOf]
  cases h1 : indentEnd text.toList 0 <;> cases h2 : indentEnd text'.toList 0 <;>
    simp_all [IndentEnd.shape]
  split <;> rfl

/-- Dedenting keeps a line with content and a blank line blank. -/
theorem isSome_indentOf_dedentLine (text : String) (rest : List Part) (width : Nat) :
    (indentOf (.literal (dedentLine text width) :: rest)).isSome =
      (indentOf (.literal text :: rest)).isSome := by
  obtain ⟨pre, hpre, hblank, -⟩ := dedentLine_strips text width
  apply isSome_indentOf_literal
  rw [hpre, indentEnd_blanks_append _ _ hblank]
  exact shape_indentEnd _ _ _

/-- A line indented by exactly the width loses its whole indentation. -/
theorem indentOf_dedentLine_self {text : String} {rest : List Part} {width : Nat}
    (h : indentOf (.literal text :: rest) = some width) :
    indentOf (.literal (dedentLine text width) :: rest) = some 0 := by
  have hstrip : ∀ e, indentEnd text.toList 0 = e → e.column? = some width →
      indentEnd (dedentLine text width).toList 0 = e.shape := by
    rintro e he hcol
    rw [dedentLine, String.toList_ofList, ← he]
    exact indentEnd_dedentChars_self (Nat.zero_le width) (he ▸ hcol)
  simp only [indentOf] at h ⊢
  split at h
  · next col he =>
    rw [hstrip _ he (by rw [IndentEnd.column?, h])]
    rfl
  · cases h
  · next col he =>
    split at h
    · cases h
    · rw [hstrip _ he (by rw [IndentEnd.column?, Option.some_inj.1 h])]
      simp_all [IndentEnd.shape]

/-! ## Dedenting the lines -/

/-- `line'` is `line` with a run of blanks taken off the front of its first literal, a run that
ends within `width` columns. -/
def Stripped (width : Nat) (line line' : List Part) : Prop :=
  line' = line ∨ ∃ text text' rest pre, line = .literal text :: rest ∧
    line' = .literal text' :: rest ∧ text.toList = pre ++ text'.toList ∧
    (∀ c ∈ pre, c = ' ' ∨ c = '\t') ∧ blankColumn pre 0 ≤ width

/-- Each line is dedented within the common indentation, and keeps its content or blankness. -/
theorem dedentSquiggly_forall₂ (lines : List (List Part)) :
    List.Forall₂ (fun line line' => Stripped (commonIndent lines) line line' ∧
      (indentOf line').isSome = (indentOf line).isSome) lines (dedentSquiggly lines) := by
  unfold dedentSquiggly
  dsimp only
  split
  · exact List.forall₂_same.2 fun line _ => ⟨.inl rfl, rfl⟩
  rw [List.forall₂_map_right_iff, List.forall₂_same]
  intro line _
  rcases line with _ | ⟨text | sp | sp, rest⟩
  · exact ⟨.inl rfl, rfl⟩
  · obtain ⟨pre, hpre, hblank, hend⟩ := dedentLine_strips text (commonIndent lines)
    exact ⟨.inr ⟨text, _, rest, pre, rfl, rfl, hpre, hblank, hend⟩,
      isSome_indentOf_dedentLine text rest _⟩
  · exact ⟨.inl rfl, rfl⟩
  · exact ⟨.inl rfl, rfl⟩

/-- With a line of content, the common indentation is the least indentation of the lines. -/
theorem min?_indentOf_eq_commonIndent {lines : List (List Part)}
    (h : ∃ line ∈ lines, (indentOf line).isSome) :
    (lines.filterMap indentOf).min? = some (commonIndent lines) := by
  obtain ⟨line, hline, hsome⟩ := h
  cases hm : (lines.filterMap indentOf).min? with
  | none =>
    obtain ⟨k, hk⟩ := Option.isSome_iff_exists.1 hsome
    have : k ∈ lines.filterMap indentOf := List.mem_filterMap.2 ⟨line, hline, hk⟩
    rw [List.min?_eq_none_iff.1 hm] at this
    cases this
  | some m => simp [commonIndent, hm]

/-- Lines that need no dedenting are kept as they are. -/
theorem dedentSquiggly_of_commonIndent_eq_zero {lines : List (List Part)}
    (h : commonIndent lines = 0) : dedentSquiggly lines = lines := by
  simp [dedentSquiggly, h]

theorem min?_eq_zero {l : List Nat} (h : 0 ∈ l) : l.min? = some 0 :=
  List.min?_eq_some_iff.2 ⟨h, fun b _ => Nat.zero_le b⟩

/-- After dedenting, a line of content has indentation zero, when there is a line of content. -/
theorem min?_indentOf_dedentSquiggly {lines : List (List Part)}
    (h : ∃ line ∈ lines, (indentOf line).isSome) :
    ((dedentSquiggly lines).filterMap indentOf).min? = some 0 := by
  have hmin := min?_indentOf_eq_commonIndent h
  by_cases hw : commonIndent lines = 0
  · rw [dedentSquiggly_of_commonIndent_eq_zero hw, hmin, hw]
  -- a line indented by exactly the common indentation loses all of it
  obtain ⟨line, hline, hindent⟩ := List.mem_filterMap.1 (List.min?_mem hmin)
  apply min?_eq_zero
  unfold dedentSquiggly
  dsimp only
  rw [if_neg hw, List.mem_filterMap]
  rcases line with _ | ⟨text | sp | sp, rest⟩
  · cases hindent
  · exact ⟨_, List.mem_map.2 ⟨_, hline, rfl⟩, indentOf_dedentLine_self hindent⟩
  · exact absurd (Option.some_inj.1 hindent).symm hw
  · exact absurd (Option.some_inj.1 hindent).symm hw

/-- **Squiggly dedent is minimal and idempotent.** Each line loses at most a run of blanks at the
front of its first literal, within the least indentation of the lines, and keeps its content or
blankness; with a line of content, the least indentation afterwards is zero; so dedenting twice
is dedenting once. -/
theorem dedentSquiggly_removesCommonIndent (lines : List (List Part)) :
    List.Forall₂ (fun line line' => Stripped (commonIndent lines) line line' ∧
        (indentOf line').isSome = (indentOf line).isSome) lines (dedentSquiggly lines) ∧
      ((∃ line ∈ lines, (indentOf line).isSome) →
        ((dedentSquiggly lines).filterMap indentOf).min? = some 0) ∧
      dedentSquiggly (dedentSquiggly lines) = dedentSquiggly lines := by
  refine ⟨dedentSquiggly_forall₂ lines, min?_indentOf_dedentSquiggly, ?_⟩
  apply dedentSquiggly_of_commonIndent_eq_zero
  by_cases h : ∃ line ∈ lines, (indentOf line).isSome
  · simp [commonIndent, min?_indentOf_dedentSquiggly h]
  -- no line has content: nothing was dedented, and nothing is to dedent
  have hnone : lines.filterMap indentOf = [] := by
    rw [List.filterMap_eq_nil_iff]
    intro line hline
    simpa using fun hs => h ⟨line, hline, hs⟩
  have hw : commonIndent lines = 0 := by simp [commonIndent, hnone]
  rw [dedentSquiggly_of_commonIndent_eq_zero hw, hw]

/-- A tab and eight spaces indent alike: both lines lose their whole indentation. -/
theorem dedentSquiggly_removesCommonIndent_tab :
    (∃ line ∈ [[Part.literal "\tx\n"], [.literal "        y\n"]], (indentOf line).isSome) ∧
      ((dedentSquiggly [[Part.literal "\tx\n"], [.literal "        y\n"]]).filterMap indentOf).min? =
        some 0 :=
  ⟨⟨_, List.mem_cons_self, rfl⟩,
    (dedentSquiggly_removesCommonIndent _).2.1 ⟨_, List.mem_cons_self, rfl⟩⟩

example : dedentSquiggly [[.literal "    a\n"], [.literal "      b\n"], [.literal "\n"],
    [.literal "    c\n"]] = [[.literal "a\n"], [.literal "  b\n"], [.literal "\n"], [.literal "c\n"]] := by
  decide

end RubyLower.Heredoc
