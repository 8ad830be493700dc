import Mathlib.Data.List.Chain
import Mathlib.Data.List.TakeDrop
import RubyLower.Proofs.Heredoc.Reads

/-!
# Scanning a heredoc body

A body is scanned from the line after its opener, one logical line at a time, until a line that
ends it. `Terminator.ReadsLines` states what the scan reads: the logical lines, each with the parts
it gives (`Terminator.ReadsLine`: a physical line taken as one literal, or what one run of the line
scanner takes), none of them starting with a line that ends the body. The parts of the lines are
then joined (`Terminator.finish`), dropping empty literals and joining a literal to the one before
it.

`Terminator.scan_readsSource` puts these together for a scan from any character boundary of the
source (`Terminator.ReadsSource`):

* the body's span covers its logical lines, and the body ends where the line that ends it ends;
* its parts are in normal form (`Part.Normal`): no empty literal, no literal after a literal;
* unless the body is dedented, its parts, each read back as the source text it stands for, give
  the text of its span, provided an expanding body holds no backslash;
* a body that expands nothing is that text.
-/

namespace RubyLower.Heredoc

open Text

/-! ## Joining the parts of the lines -/

/-- Whether a part is literal text. -/
def Part.isLiteral : Part → Bool
  | .literal _ => true
  | _ => false

/-- Parts in normal form: no literal is empty, and no literal follows another. -/
structure Part.Normal (ps : List Part) : Prop where
  nonempty : Part.literal "" ∉ ps
  separated : ps.IsChain fun a b => a.isLiteral = false ∨ b.isLiteral = false

/-- One step of joining the parts of the lines: an empty literal is dropped, and a literal right
after a literal is joined to it. -/
def joinStep (out : Array Part) (p : Part) : Array Part :=
  match p with
  | .literal "" => out
  | .literal text =>
    match out.back? with
    | some (.literal prev) => out.pop.push (.literal (prev ++ text))
    | _ => out.push p
  | _ => out.push p

theorem Terminator.finish_eq (t : Terminator) (lines : List (List Part)) :
    t.finish lines =
      ((if t.flags.squiggly then dedentSquiggly lines else lines).flatten.foldl joinStep #[]).toList :=
  rfl

theorem joinStep_cases (out : Array Part) (p : Part) :
    (p = .literal "" ∧ joinStep out p = out) ∨
    (∃ prev text, p = .literal text ∧ text ≠ "" ∧ out.back? = some (.literal prev) ∧
      joinStep out p = out.pop.push (.literal (prev ++ text))) ∨
    ((p.isLiteral = false ∨ ∀ prev, out.back? ≠ some (.literal prev)) ∧ p ≠ .literal "" ∧
      joinStep out p = out.push p) := by
  unfold joinStep
  split
  · exact .inl ⟨rfl, rfl⟩
  · rename_i text htext
    split
    · rename_i prev hb
      exact .inr (.inl ⟨prev, text, rfl, fun h => htext h, hb, rfl⟩)
    · rename_i hb
      exact .inr (.inr ⟨.inr fun prev h => hb prev h, fun h => htext (by cases h; rfl), rfl⟩)
  · rename_i hp
    refine .inr (.inr ⟨.inl ?_, fun h => hp "" h, rfl⟩)
    cases p with
    | literal text => exact absurd rfl (hp text)
    | _ => rfl

theorem back?_eq_getLast? (out : Array Part) : out.back? = out.toList.getLast? := by
  rcases out with ⟨l⟩
  simp

theorem joinStep_normal {out : Array Part} (h : Part.Normal out.toList) (p : Part) :
    Part.Normal (joinStep out p).toList := by
  obtain ⟨hnon, hsep⟩ := h
  rcases joinStep_cases out p with ⟨-, he⟩ | ⟨prev, text, rfl, htext, hb, he⟩ | ⟨hp, hne, he⟩
  · rw [he]; exact ⟨hnon, hsep⟩
  · -- the last literal grows; what came before it is no literal
    obtain ⟨ys, rfl⟩ := Array.back?_eq_some_iff.1 hb
    rw [he, Array.pop_push, Array.toList_push]
    rw [Array.toList_push] at hnon hsep
    refine ⟨?_, ?_⟩
    · simp only [List.mem_append, List.mem_singleton, not_or] at hnon ⊢
      exact ⟨hnon.1, fun heq => htext (String.append_eq_empty_iff.1 (Part.literal.inj heq.symm)).2⟩
    · obtain ⟨hys, -, hlast⟩ := List.isChain_append.1 hsep
      refine List.isChain_append.2 ⟨hys, List.IsChain.singleton _, fun a ha b hb' => ?_⟩
      simp only [List.head?_cons, Option.mem_def, Option.some.injEq] at hb'
      subst hb'
      rcases hlast a ha _ rfl with h | h
      · exact .inl h
      · cases h
  · rw [he, Array.toList_push]
    refine ⟨?_, ?_⟩
    · simp only [List.mem_append, List.mem_singleton, not_or]
      exact ⟨hnon, fun heq => hne heq.symm⟩
    · refine List.isChain_append.2 ⟨hsep, List.IsChain.singleton _, fun a ha b hb' => ?_⟩
      simp only [List.head?_cons, Option.mem_def, Option.some.injEq] at hb'
      subst hb'
      rcases hp with hp | hp
      · exact .inr hp
      · left
        cases a with
        | literal s => exact absurd (by rw [back?_eq_getLast?]; exact ha) (hp s)
        | _ => rfl

/-- Joining keeps the text the parts stand for. -/
theorem sourceChars_joinStep (source : String) (out : Array Part) (p : Part) :
    Part.sourceChars source (joinStep out p).toList =
      Part.sourceChars source out.toList ++ (p.sourceText source).toList := by
  rcases joinStep_cases out p with ⟨rfl, he⟩ | ⟨prev, text, rfl, -, hb, he⟩ | ⟨-, -, he⟩
  · simp [he, Part.sourceText]
  · obtain ⟨ys, rfl⟩ := Array.back?_eq_some_iff.1 hb
    simp [he, Part.sourceText]
  · simp [he]

/-- Joining literals gives literals. -/
theorem joinStep_literals {out : Array Part} (h : ∀ q ∈ out.toList, q.isLiteral = true) {p : Part}
    (hp : p.isLiteral = true) : ∀ q ∈ (joinStep out p).toList, q.isLiteral = true := by
  rcases joinStep_cases out p with ⟨-, he⟩ | ⟨prev, text, -, -, hb, he⟩ | ⟨-, -, he⟩
  · rwa [he]
  · obtain ⟨ys, rfl⟩ := Array.back?_eq_some_iff.1 hb
    simp only [he, Array.pop_push, Array.toList_push, List.mem_append, List.mem_singleton] at h ⊢
    rintro q (hq | rfl)
    · exact h q (.inl hq)
    · rfl
  · simp only [he, Array.toList_push, List.mem_append, List.mem_singleton]
    rintro q (hq | rfl)
    · exact h q hq
    · exact hp

theorem foldl_joinStep_normal (ps : List Part) {out : Array Part} (h : Part.Normal out.toList) :
    Part.Normal (ps.foldl joinStep out).toList := by
  induction ps generalizing out with
  | nil => exact h
  | cons p ps ih => exact ih (joinStep_normal h p)

theorem sourceChars_foldl_joinStep (source : String) (ps : List Part) (out : Array Part) :
    Part.sourceChars source (ps.foldl joinStep out).toList =
      Part.sourceChars source out.toList ++ Part.sourceChars source ps := by
  induction ps generalizing out with
  | nil => simp
  | cons p ps ih => simp [ih, sourceChars_joinStep]

theorem foldl_joinStep_literals {ps : List Part} (hps : ∀ p ∈ ps, p.isLiteral = true)
    {out : Array Part} (h : ∀ q ∈ out.toList, q.isLiteral = true) :
    ∀ q ∈ (ps.foldl joinStep out).toList, q.isLiteral = true := by
  induction ps generalizing out with
  | nil => exact h
  | cons p ps ih =>
    exact ih (fun q hq => hps q (List.mem_cons_of_mem _ hq))
      (joinStep_literals h (hps p List.mem_cons_self))

/-- The parts of a body are in normal form. -/
theorem Terminator.finish_normal (t : Terminator) (lines : List (List Part)) :
    Part.Normal (t.finish lines) := by
  rw [Terminator.finish_eq]
  exact foldl_joinStep_normal _ ⟨by simp, by simp⟩

/-- Without dedenting, the parts of a body stand for the text of the parts of its lines. -/
theorem Terminator.sourceChars_finish {t : Terminator} (ht : t.flags.squiggly = false)
    (source : String) (lines : List (List Part)) :
    Part.sourceChars source (t.finish lines) = Part.sourceChars source lines.flatten := by
  rw [Terminator.finish_eq, ht, if_neg Bool.false_ne_true, sourceChars_foldl_joinStep]
  simp

/-- Without interpolation a body's text is its literals one after the other. -/
theorem plain?_of_literals (source : String) {ps : List Part} (h : ∀ p ∈ ps, p.isLiteral = true)
    (span : Span) (stop : Nat) :
    (Body.mk ps span stop).plain? = some (String.ofList (Part.sourceChars source ps)) := by
  induction ps with
  | nil => rfl
  | cons p ps ih =>
    cases p with
    | literal text =>
      have ih := ih fun q hq => h q (List.mem_cons_of_mem _ hq)
      simp only [Body.plain?, List.foldr_cons] at ih ⊢
      rw [ih]
      simp [Part.sourceText]
    | interpolation | varRef => cases h _ List.mem_cons_self

/-! ## The lines of a body -/

@[simp] theorem firstLine_nil : firstLine [] = [] := rfl

theorem firstLine_cons (c : Char) (cs : List Char) :
    firstLine (c :: cs) = if c = '\n' then ['\n'] else c :: firstLine cs := by
  by_cases hc : c = '\n'
  · subst hc
    simp [firstLine, List.span_eq_takeWhile_dropWhile]
  · simp only [firstLine, List.span_eq_takeWhile_dropWhile, List.takeWhile_cons,
      List.dropWhile_cons, hc]
    -- the rest of the line is the same whether or not a line break ends it
    rcases h : List.dropWhile (fun x => decide (x ≠ '\n')) cs with _ | ⟨d, ds⟩
    all_goals simp_all

theorem firstLine_isPrefix (cs : List Char) : firstLine cs <+: cs := by
  induction cs with
  | nil => exact List.nil_prefix
  | cons c cs ih =>
    rw [firstLine_cons]
    split
    · subst_vars
      exact List.prefix_cons_inj _ |>.2 List.nil_prefix
    · exact (List.prefix_cons_inj c).2 ih

/-- One logical line of a body, read at offset `pos` and followed by `rest`, with the parts it
gives: without `expand` one physical line, taken as one literal; with it, what one run of the
line scanner consumes from the line's start. -/
inductive Terminator.ReadsLine (t : Terminator) (total pos : Nat) :
    List Char → List Char → List Part → Prop
  | physical {line rest : List Char} : t.flags.expand = false → line = firstLine (line ++ rest) →
      t.ReadsLine total pos line rest [.literal (String.ofList line)]
  | logical {line rest : List Char} {parts : List Part} : t.flags.expand = true →
      scanLine total ((line ++ rest).length + 1) (line ++ rest) pos "" #[] =
        .ok (parts, rest, pos + byteLength line) →
      t.ReadsLine total pos line rest parts

/-- The logical lines of a body, read one after the other from offset `pos` with their parts,
none of them starting with a line that ends the body; `rest` comes after them. -/
inductive Terminator.ReadsLines (t : Terminator) (total : Nat) :
    List Char → Nat → List (List Char × List Part) → List Char → Prop
  | nil (pos : Nat) (rest : List Char) : t.ReadsLines total rest pos [] rest
  | cons {pos : Nat} {line more : List Char} {parts : List Part}
      {lines : List (List Char × List Part)} {rest : List Char} :
      t.endsBody (firstLine (line ++ more)) = false →
      t.ReadsLine total pos line more parts →
      t.ReadsLines total more (pos + byteLength line) lines rest →
      t.ReadsLines total (line ++ more) pos ((line, parts) :: lines) rest

/-- The lines read and what follows them make up the characters read from. -/
theorem Terminator.ReadsLines.eq_append {t : Terminator} {total : Nat} {cs : List Char} {pos : Nat}
    {lines : List (List Char × List Part)} {rest : List Char} (h : t.ReadsLines total cs pos lines rest) :
    cs = (lines.map Prod.fst).flatten ++ rest := by
  induction h with
  | nil => rfl
  | cons _ _ _ ih => simp [ih]

/-- The scan of the lines from offset `pos`, the lines so far giving the parts `acc`: the body
ends at the first logical line that starts with a terminator line, and its parts are those of
the lines before it, joined. -/
theorem Terminator.scanLines_reads (t : Terminator) {source : String} {total bodyStart fuel : Nat}
    {pre cs : List Char} {pos : Nat} {acc : Array (List Part)} {body : Body}
    (hsrc : source.toList = pre ++ cs) (hpos : pos = byteLength pre)
    (h : t.scanLines total bodyStart fuel cs pos acc = .ok body) :
    ∃ lines rest, t.ReadsLines total cs pos lines rest ∧ rest ≠ [] ∧
      t.endsBody (firstLine rest) = true ∧
      body.parts = t.finish (acc.toList ++ lines.map Prod.snd) ∧
      body.span = Span.ofBounds bodyStart (pos + byteLength (lines.map Prod.fst).flatten) ∧
      body.stop = pos + byteLength (lines.map Prod.fst).flatten + byteLength (firstLine rest) := by
  fun_induction t.scanLines total bodyStart fuel cs pos acc generalizing pre with
  | case1 | case2 | case4 => cases h
  | case3 =>
    rename_i c r pos acc line lineEnd hend
    cases h
    exact ⟨[], c :: r, .nil _ _, List.cons_ne_nil _ _, hend, by simp, by simp, by simp [lineEnd, line]⟩
  | case5 =>
    rename_i c r pos acc line hend hexp parts rest next hline ih
    obtain ⟨used, hcs, hnext, -⟩ := scanLine_reads hsrc hpos hline
    obtain ⟨lines, rest', hreads, hne, hend', hparts, hspan, hstop⟩ :=
      ih (show source.toList = (pre ++ used) ++ rest by rw [hsrc, hcs]; simp)
        (by rw [hnext, hpos]; simp) h
    refine ⟨(used, parts) :: lines, rest', ?_, hne, hend', ?_, ?_, ?_⟩
    · rw [hcs]
      refine .cons ?_ (.logical hexp ?_) (hnext ▸ hreads)
      · rw [← hcs]
        simpa [line] using hend
      · rw [← hcs, hline, hnext]
    · simp [hparts]
    · rw [hspan, hnext]; simp [Nat.add_assoc]
    · rw [hstop, hnext]; simp [Nat.add_assoc]
  | case6 =>
    rename_i c r pos acc line lineEnd hend hexp ih
    have hcs : c :: r = line ++ (c :: r).drop line.length :=
      (List.prefix_iff_eq_append.1 (firstLine_isPrefix _)).symm
    obtain ⟨lines, rest', hreads, hne, hend', hparts, hspan, hstop⟩ :=
      ih (show source.toList = (pre ++ line) ++ (c :: r).drop line.length by
          rw [hsrc]; nth_rewrite 1 [hcs]; simp)
        (by simp [lineEnd, hpos]) h
    refine ⟨(line, [.literal (String.ofList line)]) :: lines, rest', ?_, hne, hend', ?_, ?_, ?_⟩
    · rw [hcs]
      refine .cons ?_ (.physical (by simpa using hexp) ?_) hreads
      · rw [← hcs]
        simpa [line] using hend
      · rw [← hcs]
    · simp [hparts]
    · rw [hspan]; simp [lineEnd, Nat.add_assoc]
    · rw [hstop]; simp [lineEnd, Nat.add_assoc]

/-- The parts a logical line gives stand for its characters, when the body has no escapes or the
line holds no backslash. -/
theorem Terminator.ReadsLine.sourceChars {t : Terminator} {total pos : Nat}
    {line rest : List Char} {parts : List Part} (h : t.ReadsLine total pos line rest parts)
    {source : String} {pre : List Char} (hsrc : source.toList = pre ++ line ++ rest)
    (hpos : pos = byteLength pre) (hb : t.flags.expand = true → '\\' ∉ line) :
    Part.sourceChars source parts = line := by
  cases h with
  | physical => simp [Part.sourceText]
  | logical hexp hscan =>
    obtain ⟨used, hcs, -, hrender⟩ := scanLine_reads (by simpa using hsrc) hpos hscan
    obtain rfl := List.append_cancel_right hcs
    simpa using hrender (hb hexp)

theorem Terminator.ReadsLines.sourceChars {t : Terminator} {total : Nat} {cs : List Char}
    {pos : Nat} {lines : List (List Char × List Part)} {rest : List Char}
    (h : t.ReadsLines total cs pos lines rest) {source : String} {pre : List Char}
    (hsrc : source.toList = pre ++ cs) (hpos : pos = byteLength pre)
    (hb : t.flags.expand = true → '\\' ∉ (lines.map Prod.fst).flatten) :
    Part.sourceChars source (lines.map Prod.snd).flatten = (lines.map Prod.fst).flatten := by
  induction h generalizing pre with
  | nil => rfl
  | @cons pos line more parts lines rest _ hline _ ih =>
    have hb' : t.flags.expand = true → '\\' ∉ line ++ (lines.map Prod.fst).flatten := by
      simpa using hb
    rw [List.map_cons, List.flatten_cons, Part.sourceChars_append,
      hline.sourceChars (show source.toList = pre ++ line ++ more by simp [hsrc]) hpos
        fun he hl => hb' he (by simp [hl]),
      ih (show source.toList = (pre ++ line) ++ more by simp [hsrc]) (by simp [hpos])
        fun he hl => hb' he (by simp [hl])]
    simp

theorem Terminator.ReadsLines.literals {t : Terminator} {total : Nat} {cs : List Char} {pos : Nat}
    {lines : List (List Char × List Part)} {rest : List Char}
    (h : t.ReadsLines total cs pos lines rest) (hexp : t.flags.expand = false) :
    ∀ p ∈ (lines.map Prod.snd).flatten, p.isLiteral = true := by
  induction h with
  | nil => simp
  | cons _ hline _ ih =>
    cases hline with
    | physical => simpa [Part.isLiteral] using ih
    | logical he => simp [he] at hexp

/-- What a body scanned from byte offset `start` says of the source. From `start` the source is
the body's logical lines, none of them starting with a line that ends the body, and then such a
line: the span covers the logical lines and the body ends where that line ends. The parts are in
normal form. Unless the body is dedented its parts stand for the text of its span, provided an
expanding body has no escape; and a body that expands nothing is that text. -/
structure Terminator.ReadsSource (t : Terminator) (source : String) (start : Nat) (body : Body) :
    Prop where
  lines : ∃ lines rest,
    t.ReadsLines source.utf8ByteSize (dropBytes source.toList start) start lines rest ∧
    rest ≠ [] ∧ t.endsBody (firstLine rest) = true ∧
    body.span = Span.ofBounds start (start + byteLength (lines.map Prod.fst).flatten) ∧
    body.stop = body.span.stop + byteLength (firstLine rest)
  normal : Part.Normal body.parts
  text : t.flags.squiggly = false →
    (t.flags.expand = true → '\\' ∉ (sliceBytes source body.span.start body.span.stop).toList) →
    String.join (body.parts.map (Part.sourceText source)) =
      sliceBytes source body.span.start body.span.stop
  plain : t.flags.expand = false → t.flags.squiggly = false →
    body.plain? = some (sliceBytes source body.span.start body.span.stop)

/-- A heredoc body scanned from a character boundary of the source reads the source faithfully. -/
theorem Terminator.scan_readsSource (t : Terminator) (source : String) (k : Nat) {body : Body}
    (h : t.scan source (byteLength (source.toList.take k)) = .ok body) :
    t.ReadsSource source (byteLength (source.toList.take k)) body := by
  have hsrc := (List.take_append_drop k source.toList).symm
  have hcs : dropBytes source.toList (byteLength (source.toList.take k)) = source.toList.drop k := by
    nth_rewrite 1 [hsrc]
    exact dropBytes_append _ _
  rw [Terminator.scan, hcs] at h
  obtain ⟨lines, rest, hreads, hne, hend, hparts, hspan, hstop⟩ := t.scanLines_reads hsrc rfl h
  have hslice : sliceBytes source body.span.start body.span.stop =
      String.ofList (lines.map Prod.fst).flatten := by
    rw [hspan, Span.stop_ofBounds (Nat.le_add_right _ _)]
    exact sliceBytes_eq (by rw [List.append_assoc, ← hreads.eq_append]; exact hsrc)
  -- unless dedented, the parts stand for the characters of the lines
  have hchars : t.flags.squiggly = false →
      (t.flags.expand = true → '\\' ∉ (lines.map Prod.fst).flatten) →
      Part.sourceChars source body.parts = (lines.map Prod.fst).flatten := by
    intro hsq hb
    rw [hparts, Array.toList_empty, List.nil_append, t.sourceChars_finish hsq,
      hreads.sourceChars hsrc rfl hb]
  refine ⟨⟨lines, rest, hcs ▸ hreads, hne, hend, hspan, ?_⟩, hparts ▸ t.finish_normal _, ?_, ?_⟩
  · rw [hstop, hspan, Span.stop_ofBounds (Nat.le_add_right _ _)]
  · intro hsq hb
    rw [hslice] at hb ⊢
    apply String.ext
    rw [toList_join_sourceText, hchars hsq (by simpa using hb), String.toList_ofList]
  · intro hexp hsq
    have hlit : ∀ p ∈ body.parts, p.isLiteral = true := by
      rw [hparts, t.finish_eq, hsq, if_neg Bool.false_ne_true, Array.toList_empty, List.nil_append]
      exact foldl_joinStep_literals (hreads.literals hexp) (by simp)
    rw [hslice, ← hchars hsq (by simp [hexp])]
    cases body
    exact plain?_of_literals source hlit _ _

/-- A body with an interpolation and a variable, read from the line after its opener. -/
theorem scan_readsSource_interpolation :
    Terminator.ofOpener "<<EOS" = .ok ⟨"EOS", { expand := true }⟩ ∧
    (⟨"EOS", { expand := true }⟩ : Terminator).scan "x = <<EOS\na#\x7bb\x7dc #$1\nEOS\n" 10 =
      .ok ⟨[.literal "a", .interpolation ⟨13, 1⟩, .literal "c ", .varRef ⟨18, 2⟩, .literal "\n"],
        ⟨10, 11⟩, 25⟩ ∧
    (⟨"EOS", { expand := true }⟩ : Terminator).ReadsSource "x = <<EOS\na#\x7bb\x7dc #$1\nEOS\n" 10
      ⟨[.literal "a", .interpolation ⟨13, 1⟩, .literal "c ", .varRef ⟨18, 2⟩, .literal "\n"],
        ⟨10, 11⟩, 25⟩ := by
  have hstart : byteLength ("x = <<EOS\na#\x7bb\x7dc #$1\nEOS\n".toList.take 10) = 10 := rfl
  -- the source after the opener's line and its size, computed apart to keep evaluation small
  have hcs : dropBytes "x = <<EOS\na#\x7bb\x7dc #$1\nEOS\n".toList 10 =
      ['a', '#', '{', 'b', '}', 'c', ' ', '#', '$', '1', '\n', 'E', 'O', 'S', '\n'] := rfl
  have hsize : "x = <<EOS\na#\x7bb\x7dc #$1\nEOS\n".utf8ByteSize = 25 := rfl
  have hscan : (⟨"EOS", { expand := true }⟩ : Terminator).scan "x = <<EOS\na#\x7bb\x7dc #$1\nEOS\n" 10 =
      .ok ⟨[.literal "a", .interpolation ⟨13, 1⟩, .literal "c ", .varRef ⟨18, 2⟩, .literal "\n"],
        ⟨10, 11⟩, 25⟩ := by
    simp only [Terminator.scan, hcs, hsize]
    rfl
  have hreads := Terminator.scan_readsSource _ _ 10 (by rw [hstart]; exact hscan)
  rw [hstart] at hreads
  exact ⟨rfl, hscan, hreads⟩

end RubyLower.Heredoc
