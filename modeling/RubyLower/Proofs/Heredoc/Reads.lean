import Mathlib.Tactic.SplitIfs
import RubyLower.Heredoc.Body

/-!
# What the heredoc scanners read

The scanners of a heredoc body walk the characters of the source and count positions in bytes.
`Consumes cs rest i j` says what a scanner did between two positions: reading from offset `i` it
took some characters off the front of `cs`, left `rest`, and `rest` starts at offset `j`, the
byte length of what it took past `i`. Each scanner does this:

* the search for the brace closing an interpolation stops just before that brace
  (`closingBrace_consumes`), and the name of an interpolated variable ends where `variableEnd`
  says (`variableEnd_consumes`);
* an escape takes the characters after its backslash up to what it leaves, its width counting
  the backslash (`readEscape_consumes`);
* one logical line of an expanding body takes the characters up to what it leaves
  (`scanLine_reads`).

The offsets count bytes while the steps count characters, and they agree because every character
the scanners step over by a fixed width (a brace, a quote, a sigil, a digit, a letter of an
escape) takes one byte.

`Part.sourceText` is the text a body part stands for in the source: literal text as it is, an
interpolation as `#{`, its code and `}`, a variable as `#` and its name. A logical line holding
no backslash gives parts whose texts, one after the other, are exactly the characters it took
(`scanLine_reads`).
-/

namespace RubyLower.Heredoc

open Text

/-- Reading from byte offset `i`, a scanner took characters off the front of `cs`, leaving
`rest`, which starts at offset `j`: the byte length of what it took past `i`. -/
def Consumes (cs rest : List Char) (i j : Nat) : Prop :=
  ∃ used, cs = used ++ rest ∧ j = i + byteLength used

namespace Consumes

theorem refl (cs : List Char) (i : Nat) : Consumes cs cs i i :=
  ⟨[], rfl, rfl⟩

theorem cons {c : Char} {r rest : List Char} {i j : Nat} (h : Consumes r rest (i + c.utf8Size) j) :
    Consumes (c :: r) rest i j := by
  obtain ⟨used, rfl, rfl⟩ := h
  exact ⟨c :: used, rfl, by simp [Nat.add_assoc]⟩

/-- A prefix of one-byte characters, taken whole. -/
theorem of_prefix {l cs : List Char} (hp : l <+: cs) (ha : ∀ c ∈ l, c.utf8Size = 1) (i : Nat) :
    Consumes cs (cs.drop l.length) i (i + l.length) :=
  ⟨l, (List.prefix_iff_eq_append.1 hp).symm, by rw [byteLength_eq_length ha]⟩

end Consumes

/-! ## One-byte characters -/

theorem utf8Size_eq_one_of_le {c d : Char} (h : c ≤ d) (hd : d.val ≤ 127) : c.utf8Size = 1 :=
  Char.utf8Size_eq_one_iff.2 (UInt32.le_trans h hd)

theorem hexValue_some {c : Char} {v : Nat} (h : hexValue c = some v) : c.utf8Size = 1 := by
  unfold hexValue at h
  split_ifs at h with h1 h2 h3
  · exact utf8Size_eq_one_of_le h1.2 (by decide)
  · exact utf8Size_eq_one_of_le h2.2 (by decide)
  · exact utf8Size_eq_one_of_le h3.2 (by decide)

theorem isHexDigit_utf8Size {c : Char} (h : isHexDigit c = true) : c.utf8Size = 1 := by
  obtain ⟨v, hv⟩ := Option.isSome_iff_exists.1 h
  exact hexValue_some hv

theorem isOctDigit_utf8Size {c : Char} (h : isOctDigit c = true) : c.utf8Size = 1 := by
  simp only [isOctDigit, decide_eq_true_eq] at h
  exact utf8Size_eq_one_of_le h.2 (by decide)

theorem isDigit_utf8Size {c : Char} (h : c.isDigit = true) : c.utf8Size = 1 := by
  simp only [Char.isDigit, Bool.and_eq_true, decide_eq_true_eq] at h
  exact utf8Size_eq_one_of_le h.2 (by decide)

/-- The letter of a named escape takes one byte. -/
theorem namedEscape_some {c : Char} {next : Option Char} {ch : Char}
    (h : namedEscape c next = some ch) : c.utf8Size = 1 := by
  unfold namedEscape at h
  split at h <;> first | rfl | cases h

/-! ## Braces, names and escapes -/

/-- The search for the closing brace of an interpolation stops just before that brace. -/
theorem closingBrace_consumes {q : Option Char} {cs : List Char} {i depth close : Nat}
    {rest : List Char} (hq : ∀ x ∈ q, x.utf8Size = 1)
    (h : closingBrace q cs i depth = some (close, rest)) : Consumes cs ('}' :: rest) i close := by
  fun_induction closingBrace q cs i depth generalizing close rest with
  | case1 | case6 | case10 => cases h
  | case2 r i depth ih => exact .cons (ih (by simp) h)
  | case3 r i => cases h; exact .refl _ _
  | case4 r i depth _ _ ih => exact .cons (ih (by simp) h)
  | case5 c r i depth _ _ hc ih =>
    -- a quote opens quoted text
    have hc1 : c.utf8Size = 1 := by rcases hc with rfl | rfl <;> rfl
    exact .cons (by rw [hc1]; exact ih (by simp [hc1]) h)
  | case7 d r i depth _ _ _ ih => exact .cons (.cons (ih (by simp) h))
  | case8 c r i depth _ _ _ _ ih => exact .cons (ih (by simp) h)
  | case9 c r i depth ih => exact .cons (by rw [hq c rfl]; exact ih (by simp) h)
  | case11 q d r i depth _ ih => exact .cons (.cons (ih hq h))
  | case12 q c r i depth _ _ ih => exact .cons (ih hq h)

theorem nameEnd_consumes {cs : List Char} {start : Nat} {digits : Bool} {stop : Nat}
    {rest : List Char} (h : nameEnd cs start digits = some (stop, rest)) :
    Consumes cs rest start stop := by
  unfold nameEnd at h
  split at h
  · cases h
  rename_i c r
  split at h
  · split at h
    · cases h
      exact Consumes.of_prefix (List.takeWhile_prefix _)
        (fun d hd => isDigit_utf8Size (List.all_eq_true.1 List.all_takeWhile d hd)) start
    · cases h
  · split at h
    · cases h
      exact .cons ⟨r.takeWhile isNameContinue,
        (List.prefix_iff_eq_append.1 (List.takeWhile_prefix _)).symm, rfl⟩
    · cases h

/-- An interpolated variable takes its sigil and its name. -/
theorem variableEnd_consumes {cs : List Char} {sigil stop : Nat} {rest : List Char}
    (h : variableEnd cs sigil = some (stop, rest)) : Consumes cs rest sigil stop := by
  unfold variableEnd at h
  split at h
  · exact .cons (.cons (nameEnd_consumes h))
  · exact .cons (nameEnd_consumes h)
  · exact .cons (nameEnd_consumes h)
  · cases h

theorem readBraced_consumes {cs : List Char} {digits : Option Nat} {seen out : String}
    {width : Nat} {e : EscapeRead} (h : readBraced cs digits seen out width = .ok e) :
    Consumes cs e.rest width e.width := by
  fun_induction readBraced cs digits seen out width with
  | case1 | case2 | case3 | case7 | case9 | case12 => cases h
  | case4 _ _ _ _ ih | case10 _ _ _ _ _ _ _ _ ih => exact .cons (ih h)
  | case5 r | case11 r => cases h; exact .cons (.refl _ _)
  | case6 c r _ _ _ _ _ _ hx ih | case8 c r _ _ _ _ _ hx ih =>
    exact .cons (by rw [hexValue_some hx]; exact ih h)

theorem byteEscape_ok {text : String} {value : Nat} {rest : List Char} {width : Nat}
    {e : EscapeRead} (h : byteEscape text value rest width = .ok e) :
    e.rest = rest ∧ e.width = width := by
  unfold byteEscape at h
  split at h
  · cases h; exact ⟨rfl, rfl⟩
  · cases h

/-- An escape takes the characters after its backslash up to what it leaves, its width counting
the backslash. -/
theorem readEscape_consumes {cs : List Char} {e : EscapeRead} (h : readEscape cs = .ok e) :
    Consumes cs e.rest 1 e.width := by
  unfold readEscape at h
  split at h
  · cases h
  rename_i c r
  split at h
  · rename_i ch hch
    cases h
    exact .cons (by rw [namedEscape_some hch]; exact .refl _ _)
  split at h
  · cases h; exact .cons (.refl _ _)
  · cases h; exact .cons (.cons (.refl _ _))
  · -- `\xH` and `\xHH`
    simp only at h
    split at h
    · cases h
    · obtain ⟨hr, hw⟩ := byteEscape_ok h
      rw [hr, hw]
      exact .cons (Consumes.of_prefix
        (List.IsPrefix.trans (List.takeWhile_prefix _) (List.take_prefix _ _))
        (fun d hd => isHexDigit_utf8Size (List.all_eq_true.1 List.all_takeWhile d hd)) 2)
  · exact .cons (.cons (readBraced_consumes h))
  · -- `\uHHHH`
    simp only at h
    split at h
    · rename_i hds
      split at h
      · cases h
        have hprefix := Consumes.of_prefix (List.take_prefix 4 r)
          (fun d hd => isHexDigit_utf8Size (List.all_eq_true.1 hds.2 d hd)) 2
        rw [hds.1] at hprefix
        exact .cons hprefix
      · cases h
    · cases h
  · split at h
    · -- one to three octal digits
      obtain ⟨hr, hw⟩ := byteEscape_ok h
      rw [hr, hw]
      exact Consumes.of_prefix
        (List.IsPrefix.trans (List.takeWhile_prefix _) (List.take_prefix _ _))
        (fun d hd => isOctDigit_utf8Size (List.all_eq_true.1 List.all_takeWhile d hd)) 1
    · cases h; exact .cons (.refl _ _)

/-! ## The source text of parts -/

/-- The source text a part stands for: literal text as it is, an interpolation as `#{`, its code
and `}`, a variable as `#` and its name with the sigil. -/
def Part.sourceText (source : String) : Part → String
  | .literal t => t
  | .interpolation s => "#\x7b" ++ sliceBytes source s.start s.stop ++ "\x7d"
  | .varRef s => "#" ++ sliceBytes source s.start s.stop

/-- The characters of the source texts of parts, one after the other. -/
def Part.sourceChars (source : String) (ps : List Part) : List Char :=
  ps.flatMap fun p => (p.sourceText source).toList

@[simp] theorem Part.sourceChars_nil (source : String) : Part.sourceChars source [] = [] := rfl

@[simp] theorem Part.sourceChars_cons (source : String) (p : Part) (ps : List Part) :
    Part.sourceChars source (p :: ps) =
      (p.sourceText source).toList ++ Part.sourceChars source ps :=
  List.flatMap_cons

@[simp] theorem Part.sourceChars_append (source : String) (ps qs : List Part) :
    Part.sourceChars source (ps ++ qs) =
      Part.sourceChars source ps ++ Part.sourceChars source qs :=
  List.flatMap_append

theorem toList_join_sourceText (source : String) (ps : List Part) :
    (String.join (ps.map (Part.sourceText source))).toList = Part.sourceChars source ps := by
  simp [String.toList_join, Part.sourceChars, List.flatMap_map]

theorem sourceChars_flushLiteral (source : String) (parts : Array Part) (lit : String) :
    Part.sourceChars source (flushLiteral parts lit).toList =
      Part.sourceChars source parts.toList ++ lit.toList := by
  unfold flushLiteral
  split
  · rename_i h
    rw [String.isEmpty_iff.1 h]
    simp
  · simp [Part.sourceText]

/-- A span from where `mid` starts to where it ends holds `mid`. -/
theorem sliceBytes_ofBounds {source : String} {pre mid rest : List Char}
    (h : source.toList = pre ++ mid ++ rest) :
    sliceBytes source (Span.ofBounds (byteLength pre) (byteLength pre + byteLength mid)).start
      (Span.ofBounds (byteLength pre) (byteLength pre + byteLength mid)).stop =
      String.ofList mid := by
  rw [Span.stop_ofBounds (Nat.le_add_right _ _)]
  exact sliceBytes_eq h

theorem sourceText_interpolation {source : String} {pre inner rest : List Char}
    (h : source.toList = pre ++ '#' :: '{' :: inner ++ '}' :: rest) :
    (Part.interpolation
        (Span.ofBounds (byteLength pre + 2) (byteLength pre + 2 + byteLength inner))).sourceText
      source = String.ofList ('#' :: '{' :: inner ++ ['}']) := by
  have hs := sliceBytes_ofBounds
    (show source.toList = (pre ++ ['#', '{']) ++ inner ++ '}' :: rest by rw [h]; simp)
  have h2 : byteLength (pre ++ ['#', '{']) = byteLength pre + 2 := by simp; rfl
  rw [h2] at hs
  rw [Part.sourceText, hs]
  apply String.ext
  simp

theorem sourceText_varRef {source : String} {pre var rest : List Char}
    (h : source.toList = pre ++ '#' :: var ++ rest) :
    (Part.varRef (Span.ofBounds (byteLength pre + 1) (byteLength pre + 1 + byteLength var))).sourceText
      source = String.ofList ('#' :: var) := by
  have hs := sliceBytes_ofBounds (show source.toList = (pre ++ ['#']) ++ var ++ rest by rw [h]; simp)
  have h1 : byteLength (pre ++ ['#']) = byteLength pre + 1 := by simp; rfl
  rw [h1] at hs
  rw [Part.sourceText, hs]
  apply String.ext
  simp

/-! ## A logical line -/

/-- One logical line of an expanding body, scanned from offset `i` of the source with the literal
`lit` and the parts `parts` pending: the scanner takes the characters up to those it leaves, and
where they hold no backslash its parts stand for what was pending and then exactly those
characters. -/
theorem scanLine_reads {source : String} {total fuel : Nat} {pre cs : List Char} {i : Nat}
    {lit : String} {parts : Array Part} {ps : List Part} {rest : List Char} {next : Nat}
    (hsrc : source.toList = pre ++ cs) (hi : i = byteLength pre)
    (h : scanLine total fuel cs i lit parts = .ok (ps, rest, next)) :
    ∃ used, cs = used ++ rest ∧ next = i + byteLength used ∧
      ('\\' ∉ used → Part.sourceChars source ps =
        Part.sourceChars source parts.toList ++ lit.toList ++ used) := by
  fun_induction scanLine total fuel cs i lit parts generalizing pre ps rest next with
  | case1 | case2 =>
    cases h
    exact ⟨[], by simp, rfl, fun _ => by simp [sourceChars_flushLiteral]⟩
  | case3 | case6 => cases h
  | case4 _ r i lit parts e he _ =>
    -- a backslash before a line break continues the line: the logical line ends here
    cases h
    obtain ⟨u, hr, hw⟩ := readEscape_consumes he
    exact ⟨'\\' :: u, by rw [hr]; rfl, by rw [hi, hw]; simp [Char.utf8Size],
      fun hb => absurd List.mem_cons_self hb⟩
  | case5 _ r i lit parts e he _ ih =>
    obtain ⟨u, hr, hw⟩ := readEscape_consumes he
    obtain ⟨used, hrest, hnext, -⟩ := ih (show source.toList = (pre ++ '\\' :: u) ++ e.rest by rw [hsrc, hr]; simp)
      (by simp [Char.utf8Size, hi, hw]) h
    exact ⟨'\\' :: u ++ used, by rw [hr, hrest]; simp,
      by rw [hnext, hi, hw]; simp [Char.utf8Size]; omega, fun hb => absurd List.mem_cons_self hb⟩
  | case7 _ c r i lit parts _ hc close rest' hclose ih =>
    obtain ⟨rfl, hr⟩ := hc
    obtain ⟨r, rfl⟩ := List.head?_eq_some_iff.1 hr
    obtain ⟨inner, hinner, rfl⟩ := closingBrace_consumes (by simp) hclose
    rw [List.tail_cons] at hinner
    subst hinner hi
    have hsrc' : source.toList = pre ++ '#' :: '{' :: inner ++ '}' :: rest' := by simp [hsrc]
    obtain ⟨used, hrest, hnext, hrender⟩ :=
      ih (show source.toList = (pre ++ '#' :: '{' :: inner ++ ['}']) ++ rest' by rw [hsrc']; simp)
        (by simp [Char.utf8Size]; omega) h
    refine ⟨'#' :: '{' :: inner ++ '}' :: used, by simp [hrest],
      by rw [hnext]; simp [Char.utf8Size]; omega, fun hb => ?_⟩
    rw [hrender (fun hu => hb (by simp [hu]))]
    simp [sourceChars_flushLiteral, sourceText_interpolation hsrc']
  | case8 _ r i lit parts stop rest' hvar _ _ ih =>
    obtain ⟨var, hvr, rfl⟩ := variableEnd_consumes hvar
    subst hi
    have hsrc' : source.toList = pre ++ '#' :: var ++ rest' := by rw [hsrc, hvr]; simp
    obtain ⟨used, hrest, hnext, hrender⟩ :=
      ih (show source.toList = (pre ++ '#' :: var) ++ rest' by simp [hsrc'])
        (by simp [Char.utf8Size]; omega) h
    refine ⟨'#' :: var ++ used, by simp [hvr, hrest], by rw [hnext]; simp [Char.utf8Size]; omega,
      fun hb => ?_⟩
    rw [hrender (fun hu => hb (by simp [hu]))]
    simp [sourceChars_flushLiteral, sourceText_varRef hsrc']
  | case9 _ r i lit parts _ _ _ ih =>
    -- a `#` that starts nothing is literal text
    subst hi
    obtain ⟨used, hrest, hnext, hrender⟩ :=
      ih (show source.toList = (pre ++ ['#']) ++ r by rw [hsrc]; simp) (by simp [Char.utf8Size]) h
    refine ⟨'#' :: used, by simp [hrest], by rw [hnext]; simp [Char.utf8Size]; omega, fun hb => ?_⟩
    rw [hrender (fun hu => hb (by simp [hu]))]
    simp
  | case10 _ r i lit parts _ _ _ =>
    cases h
    exact ⟨['\n'], rfl, by simp [Char.utf8Size], fun _ => by simp [sourceChars_flushLiteral]⟩
  | case11 _ c r i lit parts _ _ _ _ ih =>
    subst hi
    obtain ⟨used, hrest, hnext, hrender⟩ :=
      ih (show source.toList = (pre ++ [c]) ++ r by rw [hsrc]; simp) (by simp) h
    refine ⟨c :: used, by simp [hrest], by rw [hnext]; simp; omega, fun hb => ?_⟩
    rw [hrender (fun hu => hb (by simp [hu]))]
    simp

end RubyLower.Heredoc
