import RubyLower.Proofs.Heredoc.Scan
import RubyLower.Heredoc.Start

/-!
# Scanning a heredoc body moves forward and stops

The scanners of a heredoc body are loops over the characters of the source that carry a byte
offset, and the program stops if it ever cut the source inside a character. Here every loop is
shown to move forward:

* an escape read at a backslash ends at least two bytes on, at a character boundary no further
  than the end of the source (`readEscapeAt_advances`). The reader returns the text it decodes
  and the line scanner appends it to the pending literal, so an escape only ever appends;
* each round of the line scanner (`scanLine_round`) and of the body scan
  (`Terminator.scanLines_round`) ends its loop, with an answer that does not depend on the rounds
  left, or goes on from fewer characters at the offset just past those it read
  (`RoundAdvances`). A loop of such rounds needs no more rounds than it has characters
  (`rounds_congr`): the round counts the scanners are given are a variant, not a budget;
* a line scanned from a character before the end ends strictly later, on a character boundary
  (`scanLine_advances`), and a body scanned from a character boundary runs without a fault
  (`Terminator.scanFrom_of_isValid`).

`Terminator.scan_terminates` gathers these. Character boundaries are those of the standard
library, `String.Pos.Raw.IsValid`: the byte offsets at which a run of leading characters ends.
-/
namespace RubyLower.Heredoc

open Text

/-! ## Character boundaries -/

/-- A byte offset is a character boundary of a text exactly when some run of its leading
characters ends there. -/
theorem isValid_iff_byteLength_take {s : String} {j : Nat} :
    (String.Pos.Raw.mk j).IsValid s ↔ ∃ k, j = byteLength (s.toList.take k) := by
  rw [String.Pos.Raw.isValid_iff_exists_take_toList]
  simp only [byteLength_eq_utf8ByteSize]

theorem isValid_byteLength_take (s : String) (k : Nat) :
    (String.Pos.Raw.mk (byteLength (s.toList.take k))).IsValid s :=
  isValid_iff_byteLength_take.2 ⟨k, rfl⟩

/-- What a scanner takes from the characters after the `k`-th leaves the characters after a later
one, and ends at that one's offset. -/
theorem Consumes.of_drop {s rest : List Char} {k j : Nat}
    (h : Consumes (s.drop k) rest (byteLength (s.take k)) j) :
    ∃ k', k ≤ k' ∧ rest = s.drop k' ∧ j = byteLength (s.take k') := by
  obtain ⟨used, hs, rfl⟩ := h
  refine ⟨k + used.length, Nat.le_add_right _ _, ?_, ?_⟩
  · rw [← List.drop_drop, hs, List.drop_left]
  · rw [List.take_add, hs, List.take_left, byteLength_append]

/-! ## Escapes -/

/-- An escape is at least two bytes wide, its backslash and the character after it. -/
theorem readEscape_width {cs : List Char} {e : EscapeRead} (h : readEscape cs = .ok e) :
    2 ≤ e.width := by
  unfold readEscape at h
  split at h
  · cases h
  rename_i c r
  split at h
  · cases h; exact Nat.le_refl _
  split at h
  · cases h; exact Nat.le_refl _
  · cases h; exact Nat.le_succ _
  · -- `\xH` and `\xHH`
    simp only at h
    split at h
    · cases h
    · rw [(byteEscape_ok h).2]
      exact Nat.le_add_right _ _
  · -- a braced list starts three bytes in
    obtain ⟨used, -, hw⟩ := readBraced_consumes h
    omega
  · -- `\uHHHH`
    simp only at h
    split at h
    · split at h
      · cases h; simp
      · cases h
    · cases h
  · split at h
    · -- the octal digits read start with the one after the backslash
      rename_i hoct
      rw [(byteEscape_ok h).2, show (c :: r).take 3 = c :: r.take 2 from rfl,
        List.takeWhile_cons_of_pos hoct, List.length_cons]
      omega
    · cases h
      show 2 ≤ 1 + c.utf8Size
      have := c.utf8Size_pos
      omega

/-- An escape read at a backslash ends at least two bytes on, at a character boundary that is no
further than the end of the text. -/
theorem readEscapeAt_advances {source : String} {k : Nat} (hk : source.toList[k]? = some '\\')
    {value : String} {j : Nat}
    (h : readEscapeAt source (byteLength (source.toList.take k)) = .ok (value, j)) :
    byteLength (source.toList.take k) + 2 ≤ j ∧ ∃ k', k < k' ∧ j = byteLength (source.toList.take k') := by
  have hdrop : dropBytes source.toList (byteLength (source.toList.take k)) = source.toList.drop k := by
    nth_rewrite 1 [← List.take_append_drop k source.toList]
    exact dropBytes_append _ _
  obtain ⟨rest, hrest⟩ : ∃ rest, source.toList.drop k = '\\' :: rest :=
    ⟨_, List.drop_eq_getElem_cons (List.getElem?_eq_some_iff.1 hk).1 |>.trans (by
      rw [(List.getElem?_eq_some_iff.1 hk).2])⟩
  simp only [readEscapeAt, hdrop, hrest] at h
  cases he : readEscape rest with
  | error e => rw [he] at h; cases h
  | ok e =>
    rw [he] at h
    obtain ⟨-, rfl⟩ := Prod.mk.inj (Except.ok.inj h)
    obtain ⟨used, hr, hw⟩ := readEscape_consumes he
    refine ⟨by have := readEscape_width he; omega, ?_⟩
    -- the escape ends after its backslash and the characters it used
    have hc : Consumes (source.toList.drop k) e.rest (byteLength (source.toList.take k))
        (byteLength (source.toList.take k) + e.width) :=
      hrest ▸ ⟨'\\' :: used, by rw [hr]; rfl, by rw [hw]; simp [Char.utf8Size]⟩
    obtain ⟨k', hle, -, hj⟩ := hc.of_drop
    refine ⟨k', ?_, hj⟩
    rcases Nat.lt_or_eq_of_le hle with hlt | rfl
    · exact hlt
    · have := readEscape_width he
      omega

/-! ## Rounds of a scanning loop -/

/-- One round of a scanning loop `run`, which is called with the rounds left, the characters
still to read, their byte offset and the loop's own state, from characters `cs` at offset `i` in
state `s`: the round ends the loop, with an answer that does not depend on the rounds left, or
the loop goes on from fewer characters, at the offset just past those the round read. -/
def RoundAdvances {σ α : Type} (run : Nat → List Char → Nat → σ → α) (cs : List Char) (i : Nat)
    (s : σ) : Prop :=
  (∀ f g, run (f + 1) cs i s = run (g + 1) cs i s) ∨
    ∃ rest j s', rest.length < cs.length ∧ Consumes cs rest i j ∧
      ∀ f, run (f + 1) cs i s = run f rest j s'

/-- A loop whose every round advances needs no more rounds than it has characters: any two
round counts above that give the same answer. -/
theorem rounds_congr {σ α : Type} {run : Nat → List Char → Nat → σ → α}
    (hround : ∀ cs i s, RoundAdvances run cs i s) :
    ∀ {f g : Nat} (cs : List Char) (i : Nat) (s : σ), cs.length < f → cs.length < g →
      run f cs i s = run g cs i s := by
  intro f
  -- the rounds left bound the characters left, which every round that goes on shortens
  induction f with
  | zero => intro g cs i s hf; omega
  | succ f ih =>
    intro g cs i s hf hg
    obtain ⟨g, rfl⟩ : ∃ g', g = g' + 1 := ⟨g - 1, by omega⟩
    rcases hround cs i s with hend | ⟨rest, j, s', hlt, -, hnext⟩
    · exact hend f g
    · rw [hnext f, hnext g]
      exact ih rest j s' (by omega) (by omega)

/-! ## The line scanner -/

/-- A run of the line scanner takes characters off the front and ends at their byte length past
its start. -/
theorem scanLine_consumes {total fuel : Nat} {cs : List Char} {i : Nat} {lit : String}
    {parts : Array Part} {ps : List Part} {rest : List Char} {next : Nat}
    (h : scanLine total fuel cs i lit parts = .ok (ps, rest, next)) : Consumes cs rest i next := by
  -- the scanner never reads the text before its offset: any `i` one-byte characters stand for it
  have hpad : i = byteLength (List.replicate i 'a') := by
    rw [byteLength_eq_length fun c hc => by rw [(List.mem_replicate.1 hc).2]; rfl,
      List.length_replicate]
  have hsrc : (String.ofList (List.replicate i 'a' ++ cs)).toList = List.replicate i 'a' ++ cs :=
    String.toList_ofList
  obtain ⟨used, hcs, hnext, -⟩ := scanLine_reads hsrc hpad h
  exact ⟨used, hcs, hnext⟩

/-- What is left after some characters split off the front of `r` is shorter than `c :: r`. -/
theorem length_lt_cons_of_eq_append {c : Char} {r used rest : List Char} (h : r = used ++ rest) :
    rest.length < (c :: r).length := by
  rw [h, List.length_cons, List.length_append]
  omega

/-- The same after two reads one after the other. -/
theorem length_lt_cons_of_eq_append_append {c : Char} {r r' u v rest : List Char}
    (hu : r = u ++ r') (hv : r' = v ++ rest) : rest.length < (c :: r).length :=
  length_lt_cons_of_eq_append (show r = (u ++ v) ++ rest by rw [hu, hv, List.append_assoc])

/-- A run of the line scanner with a round left reads at least one character of a nonempty
line. -/
theorem scanLine_rest_lt {total fuel : Nat} {cs : List Char} {i : Nat} {lit : String}
    {parts : Array Part} {ps : List Part} {rest : List Char} {next : Nat}
    (h : scanLine total fuel cs i lit parts = .ok (ps, rest, next)) (hf : 0 < fuel)
    (hcs : cs ≠ []) : rest.length < cs.length := by
  fun_induction scanLine total fuel cs i lit parts with
  | case1 => omega
  | case2 => exact absurd rfl hcs
  | case3 | case6 => cases h
  | case4 _ r i lit parts e he _ =>
    cases h
    obtain ⟨u, hr, -⟩ := readEscape_consumes he
    exact length_lt_cons_of_eq_append hr
  | case5 _ r i lit parts e he _ _ =>
    obtain ⟨u, hr, -⟩ := readEscape_consumes he
    obtain ⟨v, hv, -⟩ := scanLine_consumes h
    exact length_lt_cons_of_eq_append_append hr hv
  | case7 _ c r i lit parts _ hc close rest' hclose _ =>
    obtain ⟨rfl, hr⟩ := hc
    obtain ⟨r, rfl⟩ := List.head?_eq_some_iff.1 hr
    obtain ⟨u, hu, -⟩ := closingBrace_consumes (by simp) hclose
    obtain ⟨v, rfl, -⟩ := scanLine_consumes h
    rw [List.tail_cons] at hu
    exact Nat.lt_succ_of_lt (length_lt_cons_of_eq_append
      (show r = (u ++ '}' :: v) ++ rest by rw [hu, List.append_assoc, List.cons_append]))
  | case8 _ r i lit parts stop rest' hvar _ _ _ =>
    obtain ⟨u, hu, -⟩ := variableEnd_consumes hvar
    obtain ⟨v, hv, -⟩ := scanLine_consumes h
    exact length_lt_cons_of_eq_append_append hu hv
  | case9 _ r i lit parts _ _ _ _ | case11 _ c r i lit parts _ _ _ _ _ =>
    obtain ⟨v, hv, -⟩ := scanLine_consumes h
    exact length_lt_cons_of_eq_append hv
  | case10 => cases h; simp

/-- Each round of the line scanner ends the line or goes on past the characters it read. -/
theorem scanLine_round (total : Nat) (cs : List Char) (i : Nat) (s : String × Array Part) :
    RoundAdvances (fun f cs i s => scanLine total f cs i s.1 s.2) cs i s := by
  obtain ⟨lit, parts⟩ := s
  cases cs with
  | nil => exact .inl fun f g => rfl
  | cons c r =>
    -- the characters fix the round's branch; only a branch that goes on reads the rounds left
    by_cases hb : c = '\\'
    · subst hb
      cases he : readEscape r with
      | error e => exact .inl fun f g => by simp [scanLine, he]
      | ok e =>
        by_cases hn : r.head? = some '\n'
        · exact .inl fun f g => by simp [scanLine, he, hn]
        · obtain ⟨u, hr, hw⟩ := readEscape_consumes he
          refine .inr ⟨e.rest, i + e.width, (lit ++ e.value, parts), length_lt_cons_of_eq_append hr,
            ⟨'\\' :: u, by rw [hr]; rfl, by rw [hw]; simp [Char.utf8Size]⟩,
            fun f => by simp [scanLine, he, hn]⟩
    · by_cases hi : c = '#' ∧ r.head? = some '{'
      · obtain ⟨rfl, hr⟩ := hi
        obtain ⟨r, rfl⟩ := List.head?_eq_some_iff.1 hr
        cases hcl : closingBrace none r (i + 2) 1 with
        | none => exact .inl fun f g => by simp [scanLine, hcl]
        | some p =>
          obtain ⟨close, rest⟩ := p
          obtain ⟨u, hu, hclose⟩ := closingBrace_consumes (by simp) hcl
          refine .inr ⟨rest, close + 1, ("", (flushLiteral parts lit).push
              (.interpolation (Span.ofBounds (i + 2) close))),
            Nat.lt_succ_of_lt (length_lt_cons_of_eq_append
              (show r = (u ++ ['}']) ++ rest by rw [hu, List.append_assoc, List.singleton_append])),
            ⟨'#' :: '{' :: u ++ ['}'], by simp [hu], by simp [hclose, Char.utf8Size]; omega⟩,
            fun f => by simp [scanLine, hcl]⟩
      · by_cases hh : c = '#'
        · subst hh
          have hr : ¬r.head? = some '{' := fun h => hi ⟨rfl, h⟩
          cases hv : variableEnd r (i + 1) with
          | some p =>
            obtain ⟨stop, rest⟩ := p
            obtain ⟨u, hu, hstop⟩ := variableEnd_consumes hv
            refine .inr ⟨rest, stop, ("", (flushLiteral parts lit).push
                (.varRef (Span.ofBounds (i + 1) stop))), length_lt_cons_of_eq_append hu,
              ⟨'#' :: u, by simp [hu], by simp [hstop, Char.utf8Size]; omega⟩,
              fun f => by simp [scanLine, hr, hv]⟩
          | none =>
            exact .inr ⟨r, i + 1, (lit.push '#', parts), by simp,
              ⟨['#'], rfl, by simp [Char.utf8Size]⟩, fun f => by simp [scanLine, hr, hv]⟩
        · by_cases hn : c = '\n'
          · subst hn
            exact .inl fun f g => by simp [scanLine]
          · exact .inr ⟨r, i + c.utf8Size, (lit.push c, parts), by simp,
              ⟨[c], rfl, by simp⟩, fun f => by simp [scanLine, hb, hh, hn]⟩

/-- Characters take at least a byte each. -/
theorem byteLength_pos {l : List Char} (h : l ≠ []) : 0 < byteLength l := by
  cases l with
  | nil => exact absurd rfl h
  | cons c l =>
    have := c.utf8Size_pos
    rw [byteLength_cons]
    omega

/-- A line scanned from a character before the end of the source, with a round for each of its
characters, ends strictly later, at a character boundary. -/
theorem scanLine_advances {source : String} {k fuel : Nat} {lit : String} {parts : Array Part}
    {ps : List Part} {rest : List Char} {next : Nat} (hk : k < source.length)
    (hf : (source.toList.drop k).length < fuel)
    (h : scanLine source.utf8ByteSize fuel (source.toList.drop k) (byteLength (source.toList.take k))
      lit parts = .ok (ps, rest, next)) :
    byteLength (source.toList.take k) < next ∧ (String.Pos.Raw.mk next).IsValid source := by
  have hne : source.toList.drop k ≠ [] := by simp [String.length_toList, hk]
  have hlt := scanLine_rest_lt h (by omega) hne
  obtain ⟨used, hcs, hnext⟩ := scanLine_consumes h
  have hused : used ≠ [] := by
    rintro rfl
    rw [hcs, List.nil_append] at hlt
    exact Nat.lt_irrefl _ hlt
  refine ⟨by have := byteLength_pos hused; omega, ?_⟩
  obtain ⟨k', -, -, rfl⟩ := Consumes.of_drop ⟨used, hcs, hnext⟩
  exact isValid_byteLength_take _ _

/-! ## The body scan -/

/-- Each round of the body scan ends the body or goes on past the logical line it read. -/
theorem Terminator.scanLines_round (t : Terminator) (total bodyStart : Nat) (cs : List Char)
    (pos : Nat) (lines : Array (List Part)) :
    RoundAdvances (t.scanLines total bodyStart) cs pos lines := by
  cases cs with
  | nil => exact .inl fun f g => rfl
  | cons c r =>
    by_cases hend : t.endsBody (firstLine (c :: r)) = true
    · exact .inl fun f g => by simp [Terminator.scanLines, hend]
    by_cases hexp : t.flags.expand = true
    · cases hl : scanLine total (r.length + 1 + 1) (c :: r) pos "" #[] with
      | error e => exact .inl fun f g => by simp [Terminator.scanLines, hend, hexp, hl]
      | ok res =>
        obtain ⟨parts, rest, next⟩ := res
        exact .inr ⟨rest, next, lines.push parts,
          scanLine_rest_lt hl (Nat.succ_pos _) (List.cons_ne_nil _ _), scanLine_consumes hl,
          fun f => by simp [Terminator.scanLines, hend, hexp, hl]⟩
    · -- without escapes a physical line is read whole, with its line break
      have hline : c :: r = firstLine (c :: r) ++ (c :: r).drop (firstLine (c :: r)).length :=
        (List.prefix_iff_eq_append.1 (firstLine_isPrefix _)).symm
      have hne : firstLine (c :: r) ≠ [] := by
        rw [firstLine_cons]
        split <;> simp
      refine .inr ⟨(c :: r).drop (firstLine (c :: r)).length,
        pos + byteLength (firstLine (c :: r)),
        lines.push [.literal (String.ofList (firstLine (c :: r)))], ?_, ⟨_, hline, rfl⟩,
        fun f => by simp [Terminator.scanLines, hend, hexp]⟩
      have := List.length_pos_of_ne_nil hne
      simp only [List.length_drop, List.length_cons]
      omega

/-- The body scan needs no more rounds than the characters after its start. -/
theorem Terminator.scanLines_eq_scan (t : Terminator) (source : String) (bodyStart : Nat)
    {fuel : Nat} (hf : (dropBytes source.toList bodyStart).length < fuel) :
    t.scanLines source.utf8ByteSize bodyStart fuel (dropBytes source.toList bodyStart) bodyStart #[] =
      t.scan source bodyStart :=
  rounds_congr (t.scanLines_round _ _) _ _ _ hf (Nat.lt_succ_self _)

/-- An offset where a run of leading characters ends lies inside none of them. -/
theorem charAcross_append (pre rest : List Char) (base : Nat) :
    charAcross (pre ++ rest) base (base + byteLength pre) = none := by
  induction pre generalizing base with
  | nil =>
    cases rest with
    | nil => rfl
    | cons c rest => simp [charAcross, c.utf8Size_pos]
  | cons c pre ih =>
    rw [List.cons_append, charAcross, if_neg (by simp), byteLength_cons, ← Nat.add_assoc, ih]

/-- A body can be scanned from every character boundary of the source, its end included. -/
theorem startFault_none_of_isValid {source : String} {bodyStart : Nat}
    (h : (String.Pos.Raw.mk bodyStart).IsValid source) : startFault? source bodyStart = none := by
  have hle := h.le_utf8ByteSize
  obtain ⟨k, rfl⟩ := isValid_iff_byteLength_take.1 h
  by_cases hlt : byteLength (source.toList.take k) < source.utf8ByteSize
  · apply startFault_none_of_lt hlt
    have := charAcross_append (source.toList.take k) (source.toList.drop k) 0
    rwa [List.take_append_drop, Nat.zero_add] at this
  · -- at the end of the source, which its 32-bit form does not pass
    have heq : byteLength (source.toList.take k) = source.utf8ByteSize := by
      simp only at hle
      omega
    simp [startFault?, heq, Span.wrap, Nat.mod_le]

/-- The scan of a body from a character boundary runs without a fault. -/
theorem Terminator.scanFrom_of_isValid (t : Terminator) {source : String} {bodyStart : Nat}
    (h : (String.Pos.Raw.mk bodyStart).IsValid source) :
    t.scanFrom source bodyStart = .ok (t.scan source bodyStart) := by
  simp only [Terminator.scanFrom, startFault_none_of_isValid h]

/-! ## The scan moves forward and stops -/

/-- Scanning a heredoc body moves forward through the source and stops, and never cuts the source
inside a character:

* an escape read at a backslash ends at least two bytes on, at a character boundary no further
  than the end of the source;
* every round of the line scanner ends the line or goes on past the characters it read, so the
  line scanner needs no more rounds than it has characters;
* a line scanned from a character before the end ends strictly later, at a character boundary;
* every round of the body scan ends the body or goes on past the logical line it read;
* from a character boundary, the end of the source included, the body is scanned without a fault,
  and its answer is that of the body loop given any number of rounds above the characters after
  the start.

A backslash takes one byte, so the byte at an offset is a backslash exactly when the character
that starts there is one: the offsets of the first statement are those of the characters. -/
theorem Terminator.scan_terminates :
    (∀ (source : String) (k : Nat) (value : String) (j : Nat), source.toList[k]? = some '\\' →
      readEscapeAt source (byteLength (source.toList.take k)) = .ok (value, j) →
      byteLength (source.toList.take k) + 2 ≤ j ∧ j ≤ source.utf8ByteSize ∧
        (String.Pos.Raw.mk j).IsValid source) ∧
    (∀ (total : Nat) (cs : List Char) (i : Nat) (s : String × Array Part),
      RoundAdvances (fun f cs i s => scanLine total f cs i s.1 s.2) cs i s) ∧
    (∀ (total : Nat) (cs : List Char) (i f g : Nat) (lit : String) (parts : Array Part),
      cs.length < f → cs.length < g →
        scanLine total f cs i lit parts = scanLine total g cs i lit parts) ∧
    (∀ (source : String) (k fuel : Nat) (lit : String) (parts : Array Part) (ps : List Part)
      (rest : List Char) (next : Nat), k < source.length → (source.toList.drop k).length < fuel →
      scanLine source.utf8ByteSize fuel (source.toList.drop k) (byteLength (source.toList.take k))
        lit parts = .ok (ps, rest, next) →
      byteLength (source.toList.take k) < next ∧ (String.Pos.Raw.mk next).IsValid source) ∧
    (∀ (t : Terminator) (total bodyStart : Nat) (cs : List Char) (pos : Nat)
      (lines : Array (List Part)), RoundAdvances (t.scanLines total bodyStart) cs pos lines) ∧
    (∀ (t : Terminator) (source : String) (bodyStart fuel : Nat),
      (String.Pos.Raw.mk bodyStart).IsValid source →
      (dropBytes source.toList bodyStart).length < fuel →
      t.scanFrom source bodyStart =
        .ok (t.scanLines source.utf8ByteSize bodyStart fuel (dropBytes source.toList bodyStart)
          bodyStart #[])) := by
  refine ⟨fun source k value j hk h => ?_, scanLine_round, ?_,
    fun _ _ _ _ _ _ _ _ hk hf h => scanLine_advances hk hf h, Terminator.scanLines_round, ?_⟩
  · obtain ⟨hlo, k', -, rfl⟩ := readEscapeAt_advances hk h
    exact ⟨hlo, (isValid_byteLength_take source k').le_utf8ByteSize,
      isValid_byteLength_take source k'⟩
  · intro total cs i f g lit parts hf hg
    exact rounds_congr (scanLine_round total) cs i (lit, parts) hf hg
  · intro t source bodyStart fuel hb hf
    rw [t.scanFrom_of_isValid hb, t.scanLines_eq_scan source bodyStart hf]

/-- A hexadecimal escape, a line holding it, and a body that its terminator ends at once. -/
theorem Terminator.scan_terminates_sample :
    ("a\\x41\n".toList[1]? = some '\\' ∧
      readEscapeAt "a\\x41\n" (byteLength ("a\\x41\n".toList.take 1)) = .ok ("A", 5) ∧
      byteLength ("a\\x41\n".toList.take 1) + 2 ≤ 5 ∧ 5 ≤ "a\\x41\n".utf8ByteSize ∧
      (String.Pos.Raw.mk 5).IsValid "a\\x41\n") ∧
    (0 < "a\\x41\n".length ∧ ("a\\x41\n".toList.drop 0).length < 7 ∧
      scanLine "a\\x41\n".utf8ByteSize 7 ("a\\x41\n".toList.drop 0)
        (byteLength ("a\\x41\n".toList.take 0)) "" #[] = .ok ([.literal "aA\n"], [], 6) ∧
      byteLength ("a\\x41\n".toList.take 0) < 6 ∧ (String.Pos.Raw.mk 6).IsValid "a\\x41\n") ∧
    ((String.Pos.Raw.mk 2).IsValid "x\nEOS\n" ∧ (dropBytes "x\nEOS\n".toList 2).length < 5 ∧
      (⟨"EOS", { expand := true }⟩ : Terminator).scanFrom "x\nEOS\n" 2 =
        .ok ((⟨"EOS", { expand := true }⟩ : Terminator).scanLines "x\nEOS\n".utf8ByteSize 2 5
          (dropBytes "x\nEOS\n".toList 2) 2 #[])) := by
  have hk : "a\\x41\n".toList[1]? = some '\\' := by decide
  have hesc : readEscapeAt "a\\x41\n" (byteLength ("a\\x41\n".toList.take 1)) = .ok ("A", 5) := rfl
  have hline : scanLine "a\\x41\n".utf8ByteSize 7 ("a\\x41\n".toList.drop 0)
      (byteLength ("a\\x41\n".toList.take 0)) "" #[] = .ok ([.literal "aA\n"], [], 6) := rfl
  have hstart : (String.Pos.Raw.mk 2).IsValid "x\nEOS\n" := isValid_byteLength_take "x\nEOS\n" 2
  have hrest : (dropBytes "x\nEOS\n".toList 2).length < 5 := by decide
  exact ⟨⟨hk, hesc, Terminator.scan_terminates.1 _ _ _ _ hk hesc⟩,
    ⟨by decide, by decide, hline,
      Terminator.scan_terminates.2.2.2.1 _ _ _ _ _ _ _ _ (by decide) (by decide) hline⟩,
    ⟨hstart, hrest, Terminator.scan_terminates.2.2.2.2.2 _ _ _ _ hstart hrest⟩⟩

end RubyLower.Heredoc
