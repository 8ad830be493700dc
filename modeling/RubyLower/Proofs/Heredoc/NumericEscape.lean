import Mathlib.Data.List.Forall2
import Mathlib.Tactic.IntervalCases
import RubyLower.Proofs.Heredoc.Reads

/-!
# Numeric escapes decode what they spell

A numeric escape spells code points, or a byte, in hexadecimal or octal digits. `Spells b n ds`
says that the digits `ds` spell `n` in base `b`: they are the digits of `n` (`Nat.toDigits`)
after any number of leading zeros, each one as written or in upper case. The list of a braced `\u`
escape is a run of spaces followed by `spacedSpellings items`: each spelling with the run of
spaces after it.

`readEscapeAt_decodes` says that reading an escape at its backslash, after any text and before
any text, inverts these notations:

* `\u{…}` holding spellings of the characters `c₁ … cₙ`, with a run of spaces between two of them
  and runs of any length around them, gives exactly `c₁ … cₙ` and the offset just past the
  closing brace; one spelling of a surrogate or of a number past `0x10FFFF` makes it fail;
* `\u` with four digits gives the character they spell six bytes on, and fails on a surrogate;
* `\x` with two digits gives the byte they spell four bytes on when it is ASCII, and fails
  above `0x7F`; so does an escape of three octal digits.

The braced list is read by `readBraced` one character at a time; `readBraced_items` follows it
over a whole list, one spelling and its run of spaces at a time.
-/

namespace RubyLower.Heredoc

/-- The digits `ds` spell `n` in base `b`: they are the digits of `n` after `k` leading zeros,
each one as written or in upper case. -/
def Spells (b n : Nat) (ds : List Char) : Prop :=
  ∃ k, List.Forall₂ (fun d e => d = e ∨ d = e.toUpper) ds
    (List.replicate k '0' ++ Nat.toDigits b n)

/-- Spellings, each followed by its run of spaces. -/
def spacedSpellings (items : List (List Char × Nat)) : List Char :=
  items.flatMap fun it => it.1 ++ List.replicate it.2 ' '

/-! ## Spellings and their numbers -/

theorem exists_digitChar_of_mem_toDigits {b n : Nat} (hb : 1 < b) {c : Char}
    (hc : c ∈ Nat.toDigits b n) : ∃ m < b, c = Nat.digitChar m := by
  induction n using Nat.strongRecOn with
  | _ n ih =>
    rw [Nat.toDigits_eq_if hb] at hc
    split at hc
    · exact ⟨n, ‹_›, List.mem_singleton.1 hc⟩
    · rcases List.mem_append.1 hc with h | h
      · exact ih (n / b) (Nat.div_lt_self (by omega) hb) h
      · exact ⟨n % b, Nat.mod_lt _ (by omega), List.mem_singleton.1 h⟩

/-- The digits of `n` after leading zeros are digit characters of the base. -/
theorem mem_zeros_toDigits {b n k : Nat} (hb : 1 < b) :
    ∀ e ∈ List.replicate k '0' ++ Nat.toDigits b n, ∃ m < b, e = Nat.digitChar m := by
  intro e he
  rcases List.mem_append.1 he with he | he
  · exact ⟨0, by omega, List.eq_of_mem_replicate he⟩
  · exact exists_digitChar_of_mem_toDigits hb he

/-- Reading the digits of `n` from the left, each by its value, gives `n`. -/
theorem foldl_toDigits {b : Nat} (hb : 1 < b) {val : Char → Nat}
    (hval : ∀ m < b, val (Nat.digitChar m) = m) (n : Nat) :
    (Nat.toDigits b n).foldl (fun acc d => acc * b + val d) 0 = n := by
  induction n using Nat.strongRecOn with
  | _ n ih =>
    rw [Nat.toDigits_eq_if hb]
    split
    · simp [hval n ‹_›]
    · rw [List.foldl_append, ih (n / b) (Nat.div_lt_self (by omega) hb), List.foldl_cons,
        List.foldl_nil, hval _ (Nat.mod_lt _ (by omega)), Nat.div_add_mod']

/-- Leading zeros add nothing to a number read from the left. -/
theorem foldl_replicate_zero {b : Nat} {val : Char → Nat} (h0 : val '0' = 0) (k : Nat) :
    (List.replicate k '0').foldl (fun acc d => acc * b + val d) 0 = 0 := by
  induction k with
  | zero => rfl
  | succ k ih => rw [List.replicate_succ, List.foldl_cons, h0, Nat.zero_mul]; exact ih

/-- Digits written as digit characters or in upper case are digit characters of the base,
read either way. -/
theorem forall_mem_of_spelled {b : Nat} {ds es : List Char}
    (h : List.Forall₂ (fun d e => d = e ∨ d = e.toUpper) ds es)
    (hes : ∀ e ∈ es, ∃ m < b, e = Nat.digitChar m) :
    ∀ d ∈ ds, ∃ m < b, d = Nat.digitChar m ∨ d = (Nat.digitChar m).toUpper := by
  induction h with
  | nil => simp
  | cons hde _ ih =>
    simp only [List.mem_cons, forall_eq_or_imp] at hes ⊢
    obtain ⟨⟨m, hm, rfl⟩, hes⟩ := hes
    exact ⟨⟨m, hm, hde⟩, ih hes⟩

/-- A valuation that reads a digit character and its upper case alike reads digits written
either way as the digit characters. -/
theorem foldl_spelled {b : Nat} {val : Char → Nat}
    (hval : ∀ m < b, val (Nat.digitChar m).toUpper = val (Nat.digitChar m)) {ds es : List Char}
    (h : List.Forall₂ (fun d e => d = e ∨ d = e.toUpper) ds es)
    (hes : ∀ e ∈ es, ∃ m < b, e = Nat.digitChar m) (a : Nat) :
    ds.foldl (fun acc d => acc * b + val d) a = es.foldl (fun acc d => acc * b + val d) a := by
  induction h generalizing a with
  | nil => rfl
  | @cons d e _ _ hde _ ih =>
    simp only [List.mem_cons, forall_eq_or_imp] at hes
    obtain ⟨⟨m, hm, rfl⟩, hes⟩ := hes
    have hv : val d = val (Nat.digitChar m) := by
      rcases hde with rfl | rfl
      · rfl
      · exact hval m hm
    rw [List.foldl_cons, List.foldl_cons, hv, ih hes]

namespace Spells

variable {b n : Nat} {ds : List Char}

theorem ne_nil (h : Spells b n ds) : ds ≠ [] := by
  obtain ⟨k, hk⟩ := h
  have hlen := hk.length_eq
  have hpos : 0 < (Nat.toDigits b n).length := Nat.length_toDigits_pos
  rw [List.length_append] at hlen
  intro hds
  rw [hds, List.length_nil] at hlen
  omega

theorem forall_mem (hb : 1 < b) (h : Spells b n ds) :
    ∀ d ∈ ds, ∃ m < b, d = Nat.digitChar m ∨ d = (Nat.digitChar m).toUpper := by
  obtain ⟨k, hk⟩ := h
  exact forall_mem_of_spelled hk (mem_zeros_toDigits hb)

/-- A spelling of `n` read from the left, by any valuation that gives each digit its value in
either case, gives `n`. -/
theorem foldl_eq (hb : 1 < b) (h : Spells b n ds) {val : Char → Nat}
    (hval : ∀ m < b, val (Nat.digitChar m) = m ∧ val (Nat.digitChar m).toUpper = m) :
    ds.foldl (fun acc d => acc * b + val d) 0 = n := by
  obtain ⟨k, hk⟩ := h
  rw [foldl_spelled (fun m hm => (hval m hm).2.trans (hval m hm).1.symm) hk (mem_zeros_toDigits hb),
    List.foldl_append, foldl_replicate_zero (hval 0 (by omega)).1,
    foldl_toDigits hb (fun m hm => (hval m hm).1)]

end Spells

/-- The sixteen hexadecimal digit characters have their values in either case. -/
theorem hexValue_digitChar : ∀ m < 16,
    hexValue (Nat.digitChar m) = some m ∧ hexValue (Nat.digitChar m).toUpper = some m := by
  decide

/-- The eight octal digit characters are their own upper case and count from `'0'`. -/
theorem octDigit_digitChar : ∀ m < 8, isOctDigit (Nat.digitChar m) = true ∧
    (Nat.digitChar m).toUpper = Nat.digitChar m ∧ (Nat.digitChar m).toNat - '0'.toNat = m := by
  decide

namespace Spells

variable {n : Nat} {ds : List Char}

theorem hexNumber (h : Spells 16 n ds) : Heredoc.hexNumber ds = n :=
  h.foldl_eq (by decide) fun m hm => by simp [hexValue_digitChar m hm]

theorem isHexDigit (h : Spells 16 n ds) : ∀ d ∈ ds, Heredoc.isHexDigit d = true := by
  intro d hd
  obtain ⟨m, hm, hd | hd⟩ := h.forall_mem (by decide) d hd <;>
    simp [Heredoc.isHexDigit, hd, hexValue_digitChar m hm]

theorem octNumber (h : Spells 8 n ds) : Heredoc.octNumber ds = n :=
  have hval := fun m hm => (octDigit_digitChar m hm).2
  h.foldl_eq (by decide) fun m hm => ⟨(hval m hm).2, by rw [(hval m hm).1]; exact (hval m hm).2⟩

theorem octDigit (h : Spells 8 n ds) : ∀ d ∈ ds, ∃ m < 8, d = Nat.digitChar m := by
  intro d hd
  obtain ⟨m, hm, hd | hd⟩ := h.forall_mem (by decide) d hd
  · exact ⟨m, hm, hd⟩
  · exact ⟨m, hm, hd.trans (octDigit_digitChar m hm).2.1⟩

end Spells

/-- The character of a character's code point is that character. -/
theorem codePoint?_toNat (c : Char) : codePoint? c.toNat = some c := by
  unfold codePoint?
  rw [if_pos (show c.toNat.isValidChar from c.valid), Char.ofNat_toNat]

/-! ## Reading a braced list -/

theorem hexValue_space : hexValue ' ' = none := by decide

theorem hexValue_brace : hexValue '}' = none := by decide

/-- Spaces where a code point may start are skipped. -/
theorem readBraced_spaces (k : Nat) (r : List Char) (seen out : String) (w : Nat) :
    ∃ seen', readBraced (List.replicate k ' ' ++ r) none seen out w =
      readBraced r none seen' out (w + k) := by
  induction k generalizing seen w with
  | zero => exact ⟨seen, rfl⟩
  | succ k ih =>
    obtain ⟨seen', h⟩ := ih (seen.push ' ') (w + 1)
    refine ⟨seen', ?_⟩
    rw [List.replicate_succ, List.cons_append, readBraced, if_pos rfl, h, Nat.add_right_comm,
      Nat.add_assoc]

/-- The digits of a code point are read into its number. -/
theorem readBraced_digits {ds : List Char} (hds : ∀ d ∈ ds, isHexDigit d = true) (v : Nat)
    (r : List Char) (seen out : String) (w : Nat) :
    ∃ seen', readBraced (ds ++ r) (some v) seen out w =
      readBraced r (some (ds.foldl (fun acc d => acc * 16 + (hexValue d).getD 0) v)) seen' out
        (w + ds.length) := by
  induction ds generalizing v seen w with
  | nil => exact ⟨seen, rfl⟩
  | cons d ds ih =>
    simp only [List.mem_cons, forall_eq_or_imp] at hds
    obtain ⟨h, hh⟩ := Option.isSome_iff_exists.1 hds.1
    obtain ⟨seen', hs⟩ := ih hds.2 (v * 16 + h) (seen.push d) (w + 1)
    refine ⟨seen', ?_⟩
    rw [List.cons_append, readBraced, hh]
    simp only [List.foldl_cons, hh, Option.getD_some, List.length_cons]
    rw [hs, Nat.add_assoc, Nat.add_comm 1]

/-- A code point read from its first digit on has the number its digits write. -/
theorem readBraced_number {ds : List Char} (hne : ds ≠ []) (hds : ∀ d ∈ ds, isHexDigit d = true)
    (r : List Char) (seen out : String) (w : Nat) :
    ∃ seen', readBraced (ds ++ r) none seen out w =
      readBraced r (some (hexNumber ds)) seen' out (w + ds.length) := by
  obtain ⟨d, ds, rfl⟩ := List.exists_cons_of_ne_nil hne
  simp only [List.mem_cons, forall_eq_or_imp] at hds
  obtain ⟨h, hh⟩ := Option.isSome_iff_exists.1 hds.1
  have hsp : d ≠ ' ' := fun hd => by rw [hd, hexValue_space] at hh; cases hh
  have hbr : d ≠ '}' := fun hd => by rw [hd, hexValue_brace] at hh; cases hh
  obtain ⟨seen', hs⟩ := readBraced_digits hds.2 h r (seen.push d) out (w + 1)
  refine ⟨seen', ?_⟩
  rw [List.cons_append, readBraced, if_neg hsp, if_neg hbr, hh]
  simp only [hexNumber, List.foldl_cons, hh, Option.getD_some, Nat.zero_mul, Nat.zero_add,
    List.length_cons]
  rw [hs, Nat.add_assoc, Nat.add_comm 1]

/-- A code point that is a character ends at a space or at the closing brace, and its
character is decoded. -/
theorem readBraced_close {v : Nat} {ch : Char} (hv : codePoint? v = some ch) {g : Nat}
    {t : List Char} (ht : 0 < g ∨ t.head? = some '}') (seen out : String) (w : Nat) :
    ∃ seen', readBraced (List.replicate g ' ' ++ t) (some v) seen out w =
      readBraced t none seen' (out.push ch) (w + g) := by
  cases g with
  | zero =>
    -- no run of spaces, so the brace comes next
    obtain ⟨r, rfl⟩ := List.head?_eq_some_iff.1 (ht.resolve_left (Nat.lt_irrefl 0))
    refine ⟨seen, ?_⟩
    simp [readBraced, hexValue_brace, hv]
  | succ g =>
    obtain ⟨seen', hs⟩ := readBraced_spaces g t (seen.push ' ') (out.push ch) (w + 1)
    refine ⟨seen', ?_⟩
    rw [List.replicate_succ, List.cons_append, readBraced, hexValue_space]
    simp only [hv, if_pos]
    rw [hs, Nat.add_assoc, Nat.add_comm 1]

/-- A code point that is no character fails where it ends. -/
theorem readBraced_invalid {v : Nat} (hv : codePoint? v = none) {g : Nat}
    {t : List Char} (ht : 0 < g ∨ t.head? = some '}') (seen out : String) (w : Nat) :
    ∃ e, readBraced (List.replicate g ' ' ++ t) (some v) seen out w = .error e := by
  cases g with
  | zero =>
    obtain ⟨r, rfl⟩ := List.head?_eq_some_iff.1 (ht.resolve_left (Nat.lt_irrefl 0))
    simp [readBraced, hexValue_brace, hv]
  | succ g =>
    simp [List.replicate_succ, readBraced, hexValue_space, hv]

theorem ofList_push (acc : List Char) (c : Char) :
    (String.ofList acc).push c = String.ofList (acc ++ [c]) := by
  rw [← String.toList_inj, String.toList_push, String.toList_ofList, String.toList_ofList]

/-- **A braced list, spelling by spelling.** Reading spellings with their runs of spaces up to
the closing brace decodes the code points they spell, after what was decoded before, when all of
them are characters, and fails otherwise. The induction is on the spellings; the run after each
one but the last is not empty, so each code point ends at a space or at the brace. -/
theorem readBraced_items {ns : List Nat} {items : List (List Char × Nat)}
    (hsp : List.Forall₂ (fun n it => Spells 16 n it.1) ns items)
    (hgaps : ∀ it ∈ items.dropLast, 0 < it.2) (r : List Char) (seen : String) (acc : List Char)
    (w : Nat) :
    (readBraced (spacedSpellings items ++ '}' :: r) none seen (String.ofList acc) w).toOption =
      (ns.mapM codePoint?).map fun cs =>
        ⟨String.ofList (acc ++ cs), r, w + (spacedSpellings items).length + 1⟩ := by
  induction hsp generalizing seen acc w with
  | nil => simp [spacedSpellings, readBraced, Except.toOption]
  | @cons n it ns items hn _ ih =>
    have ht : 0 < it.2 ∨ (spacedSpellings items ++ '}' :: r).head? = some '}' := by
      cases items with
      | nil => exact .inr rfl
      | cons it' items => exact .inl (hgaps it (by simp))
    have hgaps' : ∀ x ∈ items.dropLast, 0 < x.2 := by
      cases items with
      | nil => simp
      | cons it' items => exact fun x hx => hgaps x (by simp_all)
    have hsplit : spacedSpellings (it :: items) ++ '}' :: r =
        it.1 ++ (List.replicate it.2 ' ' ++ (spacedSpellings items ++ '}' :: r)) := by
      simp [spacedSpellings]
    obtain ⟨seen1, h1⟩ := readBraced_number hn.ne_nil hn.isHexDigit
      (List.replicate it.2 ' ' ++ (spacedSpellings items ++ '}' :: r)) seen (String.ofList acc) w
    rw [hsplit, h1, hn.hexNumber]
    cases hcp : codePoint? n with
    | none =>
      obtain ⟨e, he⟩ := readBraced_invalid hcp ht seen1 (String.ofList acc) (w + it.1.length)
      simp [he, Except.toOption, List.mapM_cons, hcp]
    | some ch =>
      obtain ⟨seen2, h2⟩ := readBraced_close hcp ht seen1 (String.ofList acc) (w + it.1.length)
      have hlen : (spacedSpellings (it :: items)).length =
          it.1.length + it.2 + (spacedSpellings items).length := by
        simp [spacedSpellings, Nat.add_assoc]
      rw [h2, ofList_push, ih hgaps', List.mapM_cons, hcp, hlen]
      cases ns.mapM codePoint? with
      | none => rfl
      | some cs => simp [Nat.add_assoc]

/-! ## The escapes after their backslash -/

/-- A braced `\u` list: leading spaces, then spellings with their runs of spaces. -/
theorem readEscape_bracedList {ns : List Nat} {items : List (List Char × Nat)}
    (hsp : List.Forall₂ (fun n it => Spells 16 n it.1) ns items)
    (hgaps : ∀ it ∈ items.dropLast, 0 < it.2) (lead : Nat) (rest : List Char) :
    (readEscape ('u' :: '{' ::
        (List.replicate lead ' ' ++ spacedSpellings items ++ '}' :: rest))).toOption =
      (ns.mapM codePoint?).map fun cs =>
        ⟨String.ofList cs, rest, lead + (spacedSpellings items).length + 4⟩ := by
  obtain ⟨seen, hs⟩ := readBraced_spaces lead (spacedSpellings items ++ '}' :: rest) "" "" 3
  have hread : readEscape ('u' :: '{' :: (List.replicate lead ' ' ++ spacedSpellings items ++
      '}' :: rest)) = readBraced (List.replicate lead ' ' ++ (spacedSpellings items ++ '}' :: rest))
        none "" "" 3 := by
    rw [List.append_assoc]; rfl
  rw [hread, hs, show ("" : String) = String.ofList [] from rfl, readBraced_items hsp hgaps]
  cases ns.mapM codePoint? with
  | none => rfl
  | some cs => simp only [Option.map_some, List.nil_append]; congr 2; omega

/-- The escape `\u` with four hexadecimal digits. -/
theorem readEscape_fourDigits {ds : List Char} (hlen : ds.length = 4)
    (hds : ∀ d ∈ ds, isHexDigit d = true) (rest : List Char) :
    (readEscape ('u' :: (ds ++ rest))).toOption =
      (codePoint? (hexNumber ds)).map fun ch => ⟨ch.toString, rest, 6⟩ := by
  obtain ⟨a, b, c, d, rfl⟩ := List.length_eq_four.1 hlen
  have ha : a ≠ '{' := fun h => by
    have := hds a (by simp); rw [h] at this; cases this
  simp only [List.mem_cons, List.not_mem_nil, or_false, forall_eq_or_imp, forall_eq] at hds
  simp [readEscape, namedEscape, ha, hds]
  cases codePoint? (hexNumber [a, b, c, d]) <;> rfl

/-- The escape `\x` with two hexadecimal digits. -/
theorem readEscape_hexByte {ds : List Char} (hlen : ds.length = 2)
    (hds : ∀ d ∈ ds, isHexDigit d = true) (rest : List Char) :
    readEscape ('x' :: (ds ++ rest)) =
      byteEscape ("\\x" ++ String.ofList ds) (hexNumber ds) rest 4 := by
  obtain ⟨a, b, rfl⟩ := List.length_eq_two.1 hlen
  simp only [List.mem_cons, List.not_mem_nil, or_false, forall_eq_or_imp, forall_eq] at hds
  simp [readEscape, namedEscape, hds]

/-- Three octal digits. The first one is never a named escape: `\0` before an octal digit is
not the null character. -/
theorem readEscape_octal {ds : List Char} (hlen : ds.length = 3)
    (hds : ∀ d ∈ ds, ∃ m < 8, d = Nat.digitChar m) (rest : List Char) :
    readEscape (ds ++ rest) = byteEscape ("\\" ++ String.ofList ds) (octNumber ds) rest 4 := by
  obtain ⟨a, b, c, rfl⟩ := List.length_eq_three.1 hlen
  simp only [List.mem_cons, List.not_mem_nil, or_false, forall_eq_or_imp, forall_eq] at hds
  obtain ⟨⟨m, hm, rfl⟩, ⟨mb, hmb, rfl⟩, ⟨mc, hmc, rfl⟩⟩ := hds
  have hb := (octDigit_digitChar mb hmb).1
  have hc := (octDigit_digitChar mc hmc).1
  generalize Nat.digitChar mb = b at *
  generalize Nat.digitChar mc = c at *
  interval_cases m <;> simp +decide [readEscape, namedEscape, hb, hc, Nat.digitChar]

theorem byteEscape_toOption (text : String) (value : Nat) (rest : List Char) (width : Nat) :
    (byteEscape text value rest width).toOption =
      if value ≤ 0x7f then some ⟨(Char.ofNat value).toString, rest, width⟩ else none := by
  unfold byteEscape
  split <;> rfl

/-! ## At a byte offset of a text -/

theorem toOption_map {ε α β : Type} (f : α → β) (x : Except ε α) :
    (x.map f).toOption = x.toOption.map f := by
  cases x <;> rfl

theorem eq_ok_of_toOption {ε α : Type} {x : Except ε α} {a : α} (h : x.toOption = some a) :
    x = .ok a := by
  cases x <;> simp_all [Except.toOption]

theorem exists_error_of_toOption {ε α : Type} {x : Except ε α} (h : x.toOption = none) :
    ∃ e, x = .error e := by
  cases x with
  | error e => exact ⟨e, rfl⟩
  | ok a => cases h

/-- An escape whose backslash follows `pre` is read at `pre`'s size in bytes, and ends its width
on. -/
theorem readEscapeAt_toOption {text pre : String} {cs : List Char}
    (h : text.toList = pre.toList ++ '\\' :: cs) :
    (readEscapeAt text pre.utf8ByteSize).toOption =
      (readEscape cs).toOption.map fun e => (e.value, pre.utf8ByteSize + e.width) := by
  unfold readEscapeAt
  rw [h, ← Text.byteLength_toList, Text.dropBytes_append, toOption_map]

theorem mapM_codePoint?_toNat (cs : List Char) : (cs.map Char.toNat).mapM codePoint? = some cs := by
  induction cs with
  | nil => rfl
  | cons c cs ih => simp [List.mapM_cons, codePoint?_toNat, ih]

/-- One code point that is no character spoils a list. -/
theorem mapM_codePoint?_eq_none {ns : List Nat} (h : ∃ n ∈ ns, ¬ n.isValidChar) :
    ns.mapM codePoint? = none := by
  induction ns with
  | nil => simp at h
  | cons n ns ih =>
    rw [List.mapM_cons]
    by_cases hn : n.isValidChar
    · have h' : ∃ m ∈ ns, ¬ m.isValidChar := by
        obtain ⟨m, hm, hbad⟩ := h
        rcases List.mem_cons.1 hm with rfl | hm
        · exact absurd hn hbad
        · exact ⟨m, hm, hbad⟩
      simp [codePoint?, hn, ih h']
    · simp [codePoint?, hn]

section AtOffset

variable (pre post : String)

theorem readEscapeAt_bracedList {ns : List Nat} {items : List (List Char × Nat)}
    (hsp : List.Forall₂ (fun n it => Spells 16 n it.1) ns items)
    (hgaps : ∀ it ∈ items.dropLast, 0 < it.2) (lead : Nat) :
    (readEscapeAt (pre ++ "\\u\x7b" ++ String.ofList (List.replicate lead ' ' ++
        spacedSpellings items) ++ "\x7d" ++ post) pre.utf8ByteSize).toOption =
      (ns.mapM codePoint?).map fun cs =>
        (String.ofList cs, pre.utf8ByteSize + lead + (spacedSpellings items).length + 4) := by
  have htext : (pre ++ "\\u\x7b" ++ String.ofList (List.replicate lead ' ' ++
      spacedSpellings items) ++ "\x7d" ++ post).toList = pre.toList ++ '\\' :: 'u' :: '{' ::
        (List.replicate lead ' ' ++ spacedSpellings items ++ '}' :: post.toList) := by
    simp [String.toList_append]
  rw [readEscapeAt_toOption htext, readEscape_bracedList hsp hgaps]
  cases ns.mapM codePoint? with
  | none => rfl
  | some cs => simp [Nat.add_assoc]

theorem readEscapeAt_fourDigits {n : Nat} {ds : List Char} (hlen : ds.length = 4)
    (hsp : Spells 16 n ds) :
    (readEscapeAt (pre ++ "\\u" ++ String.ofList ds ++ post) pre.utf8ByteSize).toOption =
      (codePoint? n).map fun c => (c.toString, pre.utf8ByteSize + 6) := by
  have htext : (pre ++ "\\u" ++ String.ofList ds ++ post).toList =
      pre.toList ++ '\\' :: 'u' :: (ds ++ post.toList) := by
    simp [String.toList_append]
  rw [readEscapeAt_toOption htext, readEscape_fourDigits hlen hsp.isHexDigit, hsp.hexNumber]
  cases codePoint? n <;> rfl

theorem readEscapeAt_hexByte {n : Nat} {ds : List Char} (hlen : ds.length = 2)
    (hsp : Spells 16 n ds) :
    (readEscapeAt (pre ++ "\\x" ++ String.ofList ds ++ post) pre.utf8ByteSize).toOption =
      if n ≤ 0x7F then some ((Char.ofNat n).toString, pre.utf8ByteSize + 4) else none := by
  have htext : (pre ++ "\\x" ++ String.ofList ds ++ post).toList =
      pre.toList ++ '\\' :: 'x' :: (ds ++ post.toList) := by
    simp [String.toList_append]
  rw [readEscapeAt_toOption htext, readEscape_hexByte hlen hsp.isHexDigit, byteEscape_toOption,
    hsp.hexNumber]
  split <;> rfl

theorem readEscapeAt_octal {n : Nat} {ds : List Char} (hlen : ds.length = 3)
    (hsp : Spells 8 n ds) :
    (readEscapeAt (pre ++ "\\" ++ String.ofList ds ++ post) pre.utf8ByteSize).toOption =
      if n ≤ 0x7F then some ((Char.ofNat n).toString, pre.utf8ByteSize + 4) else none := by
  have htext : (pre ++ "\\" ++ String.ofList ds ++ post).toList =
      pre.toList ++ '\\' :: (ds ++ post.toList) := by
    simp [String.toList_append]
  rw [readEscapeAt_toOption htext, readEscape_octal hlen hsp.octDigit, byteEscape_toOption,
    hsp.octNumber]
  split <;> rfl

end AtOffset

/-- **Numeric escapes decode what they spell.** Read at its backslash, after any text `pre` and
before any text `post`:
* `\u{h}` gives the character that `h` spells, and the offset just past the brace;
* a braced list of spellings of `c₁ … cₙ`, with a run of spaces between two spellings and runs
  of any length around them, gives exactly `c₁ … cₙ`;
* `\u` with four digits gives the character of at most `0xFFFF` that they spell, six bytes on;
* `\x` with two digits gives the ASCII byte that they spell, four bytes on;
* a braced list spelling a surrogate or a number past `0x10FFFF`, `\u` with four digits
  spelling a surrogate, and `\x` with two digits or three octal digits spelling a number above
  `0x7F` fail. -/
theorem readEscapeAt_decodes (pre post : String) :
    (∀ (c : Char) (ds : List Char), Spells 16 c.toNat ds →
      readEscapeAt (pre ++ "\\u\x7b" ++ String.ofList ds ++ "\x7d" ++ post) pre.utf8ByteSize =
        .ok (c.toString, pre.utf8ByteSize + ds.length + 4)) ∧
    (∀ (cs : List Char) (lead : Nat) (items : List (List Char × Nat)),
      List.Forall₂ (fun c it => Spells 16 c.toNat it.1) cs items →
      (∀ it ∈ items.dropLast, 0 < it.2) →
      readEscapeAt (pre ++ "\\u\x7b" ++ String.ofList (List.replicate lead ' ' ++
          spacedSpellings items) ++ "\x7d" ++ post) pre.utf8ByteSize =
        .ok (String.ofList cs, pre.utf8ByteSize + lead + (spacedSpellings items).length + 4)) ∧
    (∀ (c : Char) (ds : List Char), c.toNat ≤ 0xFFFF → ds.length = 4 → Spells 16 c.toNat ds →
      readEscapeAt (pre ++ "\\u" ++ String.ofList ds ++ post) pre.utf8ByteSize =
        .ok (c.toString, pre.utf8ByteSize + 6)) ∧
    (∀ (b : Nat) (ds : List Char), b ≤ 0x7F → ds.length = 2 → Spells 16 b ds →
      readEscapeAt (pre ++ "\\x" ++ String.ofList ds ++ post) pre.utf8ByteSize =
        .ok ((Char.ofNat b).toString, pre.utf8ByteSize + 4)) ∧
    (∀ (ns : List Nat) (lead : Nat) (items : List (List Char × Nat)),
      List.Forall₂ (fun n it => Spells 16 n it.1) ns items →
      (∀ it ∈ items.dropLast, 0 < it.2) → (∃ n ∈ ns, ¬ n.isValidChar) →
      ∃ e, readEscapeAt (pre ++ "\\u\x7b" ++ String.ofList (List.replicate lead ' ' ++
          spacedSpellings items) ++ "\x7d" ++ post) pre.utf8ByteSize = .error e) ∧
    (∀ (n : Nat) (ds : List Char), ¬ n.isValidChar → ds.length = 4 → Spells 16 n ds →
      ∃ e, readEscapeAt (pre ++ "\\u" ++ String.ofList ds ++ post) pre.utf8ByteSize = .error e) ∧
    (∀ (b : Nat) (ds : List Char), 0x7F < b → ds.length = 2 → Spells 16 b ds →
      ∃ e, readEscapeAt (pre ++ "\\x" ++ String.ofList ds ++ post) pre.utf8ByteSize = .error e) ∧
    (∀ (b : Nat) (ds : List Char), 0x7F < b → ds.length = 3 → Spells 8 b ds →
      ∃ e, readEscapeAt (pre ++ "\\" ++ String.ofList ds ++ post) pre.utf8ByteSize = .error e) := by
  -- a list of characters spells the list of their code points
  have hlist : ∀ (cs : List Char) (items : List (List Char × Nat)),
      List.Forall₂ (fun c it => Spells 16 c.toNat it.1) cs items →
      List.Forall₂ (fun n it => Spells 16 n it.1) (cs.map Char.toNat) items :=
    fun _ _ h => List.forall₂_map_left_iff.2 h
  refine ⟨fun c ds hsp => ?_, fun cs lead items hsp hgaps => ?_, fun c ds _ hlen hsp => ?_,
    fun b ds hb hlen hsp => ?_, fun ns lead items hsp hgaps hbad => ?_, fun n ds hn hlen hsp => ?_,
    fun b ds hb hlen hsp => ?_, fun b ds hb hlen hsp => ?_⟩
  · have h := readEscapeAt_bracedList pre post (hlist [c] [(ds, 0)] (.cons hsp .nil)) (by simp) 0
    simp only [spacedSpellings, List.flatMap_singleton, List.replicate_zero, List.append_nil,
      List.nil_append, mapM_codePoint?_toNat, Option.map_some, Nat.add_zero] at h
    exact eq_ok_of_toOption h
  · have h := readEscapeAt_bracedList pre post (hlist cs items hsp) hgaps lead
    rw [mapM_codePoint?_toNat] at h
    exact eq_ok_of_toOption h
  · have h := readEscapeAt_fourDigits pre post hlen hsp
    rw [codePoint?_toNat] at h
    exact eq_ok_of_toOption h
  · have h := readEscapeAt_hexByte pre post hlen hsp
    rw [if_pos hb] at h
    exact eq_ok_of_toOption h
  · have h := readEscapeAt_bracedList pre post hsp hgaps lead
    rw [mapM_codePoint?_eq_none hbad] at h
    exact exists_error_of_toOption h
  · have h := readEscapeAt_fourDigits pre post hlen hsp
    rw [show codePoint? n = none by simp [codePoint?, hn]] at h
    exact exists_error_of_toOption h
  · have h := readEscapeAt_hexByte pre post hlen hsp
    rw [if_neg (by omega)] at h
    exact exists_error_of_toOption h
  · have h := readEscapeAt_octal pre post hlen hsp
    rw [if_neg (by omega)] at h
    exact exists_error_of_toOption h

/-- The escape `\u{48 49}` decodes to `HI` and ends nine bytes on. -/
theorem readEscapeAt_decodes_pair :
    List.Forall₂ (fun c it => Spells 16 c.toNat it.1) ['H', 'I']
      [(['4', '8'], 1), (['4', '9'], 0)] ∧
    readEscapeAt ("" ++ "\\u\x7b" ++ String.ofList (List.replicate 0 ' ' ++
        spacedSpellings [(['4', '8'], 1), (['4', '9'], 0)]) ++ "\x7d" ++ "") "".utf8ByteSize =
      .ok ("HI", 9) := by
  have hsp : List.Forall₂ (fun c it => Spells 16 c.toNat it.1) ['H', 'I']
      [(['4', '8'], 1), (['4', '9'], 0)] :=
    .cons ⟨0, by decide⟩ (.cons ⟨0, by decide⟩ .nil)
  exact ⟨hsp, (readEscapeAt_decodes "" "").2.1 ['H', 'I'] 0 _ hsp (by simp)⟩

end RubyLower.Heredoc
