import Mathlib.Data.List.Induction
import RubyLower.Diagnostic.Message

/-!
# Filling a message template

`fillTemplate` replaces the placeholders of a template one argument at a time: every occurrence
of `{0}`, then every occurrence of `{1}` in what the first pass left, and so on. That is not
filling the template in one scan from the left (`fillOnce`), where the text of an argument is
never scanned: a later pass also replaces a placeholder that an argument holds, or that an
argument's text completes together with the template's (`fillTemplate_rescansInsertedText`).

The two agree when every `{` of the template opens a placeholder and no argument holds a `{`
(`fillTemplate_eq_fillOnce`). Such a template is a list of pieces, characters other than `{`
and placeholders (`bracesOpenPlaceholders_iff`). Since no placeholder is a prefix of another's
text and what follows it, a pass replaces the pieces of one placeholder and keeps every other
piece, and so does the one scan for every placeholder at once.
-/

namespace RubyLower.Template

/-! ## Placeholders -/

theorem placeholder_toList (i : Nat) :
    (placeholder i).toList = '{' :: (Nat.toDigits 10 i ++ ['}']) := by
  simp [placeholder]

/-- A decimal numeral holds no character other than a digit. -/
theorem not_mem_toDigits {c : Char} (hc : c.isDigit = false) (i : Nat) :
    c ∉ Nat.toDigits 10 i := fun h => by
  simp [Nat.isDigit_of_mem_toDigits (by decide) (by decide) h] at hc

/-- What follows the opening brace of a placeholder holds no other opening brace. -/
theorem brace_not_mem_tail (i : Nat) : '{' ∉ Nat.toDigits 10 i ++ ['}'] := by
  simp [not_mem_toDigits (show '{'.isDigit = false from rfl) i]

/-- Two runs without `x`, each followed by `x`, one a prefix of the other, are equal. -/
theorem append_singleton_prefix_inj {x : Char} :
    ∀ {a b rest : List Char}, x ∉ a → x ∉ b → a ++ [x] <+: b ++ x :: rest → a = b
  | [], [], _, _, _, _ => rfl
  | [], y :: b, _, _, hb, h => by
    simp only [List.nil_append, List.cons_append, List.cons_prefix_cons] at h
    exact absurd (h.1 ▸ List.mem_cons_self) hb
  | y :: a, [], _, ha, _, h => by
    simp only [List.nil_append, List.cons_append, List.cons_prefix_cons] at h
    exact absurd (h.1 ▸ List.mem_cons_self) ha
  | y :: a, z :: b, _, ha, hb, h => by
    simp only [List.cons_append, List.cons_prefix_cons] at h
    rw [h.1, append_singleton_prefix_inj (fun hx => ha (.tail _ hx))
      (fun hx => hb (.tail _ hx)) h.2]

/-- No placeholder is a prefix of another placeholder and what follows it: a numeral holds
no closing brace, and a number has one numeral. -/
theorem placeholder_prefix_inj {i k : Nat} {rest : List Char}
    (h : (placeholder i).toList <+: (placeholder k).toList ++ rest) : i = k := by
  rw [placeholder_toList, placeholder_toList, List.cons_append, List.cons_prefix_cons,
    List.append_assoc, List.singleton_append] at h
  have hd : Nat.toDigits 10 i = Nat.toDigits 10 k :=
    append_singleton_prefix_inj (not_mem_toDigits rfl i) (not_mem_toDigits rfl k) h.2
  calc i = Nat.ofDigitChars 10 (Nat.toDigits 10 i) 0 := Nat.ofDigitChars_ten_toDigits.symm
    _ = Nat.ofDigitChars 10 (Nat.toDigits 10 k) 0 := by rw [hd]
    _ = k := Nat.ofDigitChars_ten_toDigits

/-- Every placeholder starts with an opening brace. -/
theorem placeholder_not_prefix_cons {c : Char} (hc : c ≠ '{') (i : Nat) (cs : List Char) :
    ¬ (placeholder i).toList <+: c :: cs := by
  rw [placeholder_toList, List.cons_prefix_cons]
  exact fun h => hc h.1.symm

/-! ## Templates as pieces -/

/-- A piece of a template: a character, or the placeholder of argument `k`. -/
inductive Piece where
  | lit (c : Char)
  | hole (k : Nat)

/-- The characters of a piece. -/
def Piece.text : Piece → List Char
  | .lit c => [c]
  | .hole k => (placeholder k).toList

/-- A character piece is not an opening brace, so it starts no placeholder. -/
def Piece.ok : Piece → Prop
  | .lit c => c ≠ '{'
  | .hole _ => True

/-- The characters of a template given as pieces. -/
def render (ps : List Piece) : List Char :=
  ps.flatMap Piece.text

/-- A piece with the placeholder replaced by the characters of its text, when `σ` gives one. -/
def Piece.fill (σ : Nat → Option String) : Piece → List Piece
  | .lit c => [.lit c]
  | .hole k =>
    match σ k with
    | some a => a.toList.map .lit
    | none => [.hole k]

@[simp]
theorem render_nil : render [] = [] := rfl

@[simp]
theorem render_cons (p : Piece) (ps : List Piece) : render (p :: ps) = p.text ++ render ps :=
  List.flatMap_cons

@[simp]
theorem render_append (ps qs : List Piece) : render (ps ++ qs) = render ps ++ render qs :=
  List.flatMap_append

@[simp]
theorem render_map_lit (l : List Char) : render (l.map .lit) = l := by
  induction l with
  | nil => rfl
  | cons c l ih => simp [Piece.text, ih]

@[simp]
theorem flatMap_fill_map_lit (σ : Nat → Option String) (l : List Char) :
    (l.map Piece.lit).flatMap (Piece.fill σ) = l.map Piece.lit := by
  induction l with
  | nil => rfl
  | cons c l ih => simp [Piece.fill, ih]

/-- Filling where no text is given keeps the pieces. -/
theorem flatMap_fill_none (ps : List Piece) : ps.flatMap (Piece.fill fun _ => none) = ps := by
  induction ps with
  | nil => rfl
  | cons p ps ih => cases p <;> simp [Piece.fill, ih]

/-- Filling with `τ` and then with `σ` fills each placeholder with the text `τ` gives, or else
with the one `σ` gives: the first fill puts only characters in. -/
theorem flatMap_fill_fill (σ τ : Nat → Option String) (ps : List Piece) :
    (ps.flatMap (Piece.fill τ)).flatMap (Piece.fill σ) =
      ps.flatMap (Piece.fill fun k => (τ k).or (σ k)) := by
  rw [List.flatMap_assoc]
  congr 1
  funext p
  cases p with
  | lit c => simp [Piece.fill]
  | hole k => cases h : τ k <;> simp [Piece.fill, h]

/-- Filling with texts that hold no opening brace keeps the character pieces apart from it. -/
theorem ok_of_mem_flatMap_fill {σ : Nat → Option String}
    (hσ : ∀ k a, σ k = some a → '{' ∉ a.toList) {ps : List Piece} (hps : ∀ p ∈ ps, p.ok) :
    ∀ q ∈ ps.flatMap (Piece.fill σ), q.ok := by
  simp only [List.mem_flatMap]
  rintro q ⟨p, hp, hq⟩
  cases p with
  | lit c => simp only [Piece.fill, List.mem_singleton] at hq; exact hq ▸ hps _ hp
  | hole k =>
    simp only [Piece.fill] at hq
    split at hq
    next a ha =>
      obtain ⟨c, hc, rfl⟩ := List.mem_map.1 hq
      exact fun h => hσ k a ha (h ▸ hc)
    next => simp only [List.mem_singleton] at hq; exact hq ▸ trivial

/-- Every opening brace of a text starts a placeholder. -/
def BracesOpenPlaceholders (l : List Char) : Prop :=
  ∀ pre post, l = pre ++ '{' :: post → ∃ k, (placeholder k).toList <+: '{' :: post

theorem bracesOpenPlaceholders_of_render {ps : List Piece} (hps : ∀ p ∈ ps, p.ok) :
    BracesOpenPlaceholders (render ps) := by
  induction ps with
  | nil => intro pre post h; simp at h
  | cons p ps ih =>
    intro pre post h
    rw [render_cons, List.append_eq_append_iff] at h
    rcases h with ⟨as, rfl, hps'⟩ | ⟨bs, htext, hpost⟩
    · exact ih (fun q hq => hps q (.tail _ hq)) as post hps'
    cases bs with
    | nil => exact ih (fun q hq => hps q (.tail _ hq)) [] post (by simpa using hpost.symm)
    | cons b bs =>
      obtain ⟨rfl, rfl⟩ := List.cons_eq_cons.1 hpost
      cases p with
      | lit c =>
        have hok : c ≠ '{' := hps _ List.mem_cons_self
        cases pre <;> simp_all [Piece.text]
      | hole k =>
        rw [Piece.text, placeholder_toList] at htext
        cases pre with
        | nil =>
          obtain ⟨-, rfl⟩ := List.cons_eq_cons.1 htext
          exact ⟨k, by rw [placeholder_toList]; exact List.prefix_append _ _⟩
        | cons x pre =>
          obtain ⟨-, htail⟩ := List.cons_eq_cons.1 htext
          exact absurd (htail ▸ List.mem_append_right _ List.mem_cons_self)
            (brace_not_mem_tail k)

theorem exists_render_of_bracesOpenPlaceholders (l : List Char)
    (hl : BracesOpenPlaceholders l) : ∃ ps : List Piece, (∀ p ∈ ps, p.ok) ∧ render ps = l := by
  cases l with
  | nil => exact ⟨[], by simp, rfl⟩
  | cons c cs =>
    by_cases hc : c = '{'
    · subst hc
      obtain ⟨k, rest, hrest⟩ := hl [] cs rfl
      have hlen : rest.length < cs.length + 1 := by
        have := congrArg List.length hrest
        simp only [List.length_append, List.length_cons, placeholder_toList] at this
        omega
      obtain ⟨ps, hps, hr⟩ := exists_render_of_bracesOpenPlaceholders rest
        (fun pre post h => hl ((placeholder k).toList ++ pre) post (by
          rw [← hrest, h, List.append_assoc]))
      refine ⟨.hole k :: ps, ?_, ?_⟩
      · simpa [Piece.ok] using hps
      · rw [render_cons, Piece.text, hr, hrest]
    · obtain ⟨ps, hps, hr⟩ := exists_render_of_bracesOpenPlaceholders cs
        (fun pre post h => hl (c :: pre) post (by rw [h]; rfl))
      exact ⟨.lit c :: ps, by simpa [Piece.ok, hc] using hps, by simp [Piece.text, hr]⟩
termination_by l.length

/-- A text whose every opening brace starts a placeholder is one made of pieces. -/
theorem bracesOpenPlaceholders_iff {l : List Char} :
    BracesOpenPlaceholders l ↔ ∃ ps : List Piece, (∀ p ∈ ps, p.ok) ∧ render ps = l :=
  ⟨exists_render_of_bracesOpenPlaceholders l, fun ⟨_, hps, hr⟩ =>
    hr ▸ bracesOpenPlaceholders_of_render hps⟩

/-! ## One pass of the fold -/

section Pass

variable {rep : List Char}

/-- Text without an opening brace holds no placeholder and is passed over. -/
theorem replaceList_append {xs : List Char} (hxs : '{' ∉ xs) (i : Nat) (rest : List Char) :
    Text.replaceList (placeholder i).toList rep (xs ++ rest) =
      xs ++ Text.replaceList (placeholder i).toList rep rest := by
  induction xs with
  | nil => rfl
  | cons c xs ih =>
    have hc : c ≠ '{' := fun h => hxs (h ▸ List.mem_cons_self)
    rw [List.cons_append, Text.replaceList_cons (placeholder_not_prefix_cons hc i _),
      ih (fun h => hxs (.tail _ h)), List.cons_append]

/-- The pass for placeholder `i` passes over the placeholder of another argument. -/
theorem replaceList_placeholder_of_ne {i k : Nat} (hik : i ≠ k) (rest : List Char) :
    Text.replaceList (placeholder i).toList rep ((placeholder k).toList ++ rest) =
      (placeholder k).toList ++ Text.replaceList (placeholder i).toList rep rest := by
  have hnot : ¬ (placeholder i).toList <+: (placeholder k).toList ++ rest :=
    fun h => hik (placeholder_prefix_inj h)
  rw [placeholder_toList k, List.cons_append] at hnot ⊢
  rw [Text.replaceList_cons hnot, replaceList_append (brace_not_mem_tail k)]
  rfl

/-- One pass of the fold fills the placeholders of argument `i` among the pieces. -/
theorem replaceList_render (i : Nat) (a : String) {ps : List Piece} (hps : ∀ p ∈ ps, p.ok) :
    Text.replaceList (placeholder i).toList a.toList (render ps) =
      render (ps.flatMap (Piece.fill fun k => if k = i then some a else none)) := by
  induction ps with
  | nil => simp
  | cons p ps ih =>
    have ih := ih fun q hq => hps q (.tail _ hq)
    cases p with
    | lit c =>
      have hc : c ≠ '{' := hps _ List.mem_cons_self
      simp [Piece.text, Piece.fill, Text.replaceList_cons (placeholder_not_prefix_cons hc i _), ih]
    | hole k =>
      by_cases hk : k = i
      · subst hk
        have hne : (placeholder k).toList ≠ [] := by simp [placeholder_toList]
        simp [Piece.text, Piece.fill, Text.replaceList_pattern_append hne, ih]
      · simp [Piece.text, Piece.fill, hk, replaceList_placeholder_of_ne (Ne.symm hk), ih]

end Pass

/-! ## The fold over the arguments -/

/-- The last argument is filled in by the last pass. -/
theorem fillTemplate_concat (template : String) (args : List String) (a : String) :
    fillTemplate template (args ++ [a]) =
      Text.replaceAll (fillTemplate template args) (placeholder args.length) a := by
  simp [fillTemplate, List.zipIdx_append]

theorem getElem?_concat_eq_or (args : List String) (a : String) (k : Nat) :
    (args ++ [a])[k]? = args[k]?.or (if k = args.length then some a else none) := by
  rcases Nat.lt_trichotomy k args.length with hk | rfl | hk
  · simp [List.getElem?_append_left hk, List.getElem?_eq_getElem hk]
  · simp
  · simp [List.getElem?_append_right (Nat.le_of_lt hk), List.getElem?_eq_none (Nat.le_of_lt hk),
      Nat.ne_of_gt hk]
    omega

/-- The fold fills every placeholder of an argument among the pieces: by induction on the
arguments from the last, each pass filling one more, with the texts put in holding no opening
brace and so no placeholder. -/
theorem fillTemplate_render {ps : List Piece} (hps : ∀ p ∈ ps, p.ok) (args : List String)
    (hargs : ∀ a ∈ args, '{' ∉ a.toList) :
    (fillTemplate (String.ofList (render ps)) args).toList =
      render (ps.flatMap (Piece.fill (args[·]?))) := by
  induction args using List.reverseRecOn with
  | nil => simp [fillTemplate, flatMap_fill_none]
  | append_singleton args a ih =>
    have hargs' : ∀ b ∈ args, '{' ∉ b.toList := fun b hb => hargs b (List.mem_append_left _ hb)
    have hok := ok_of_mem_flatMap_fill (σ := (args[·]?))
      (fun k b hb => hargs' b (List.mem_of_getElem? hb)) hps
    rw [fillTemplate_concat, Text.replaceAll, String.toList_ofList, ih hargs',
      replaceList_render _ _ hok, flatMap_fill_fill]
    simp only [getElem?_concat_eq_or]

/-! ## Filling in one scan -/

/-- The template filled in one scan from the left: where the placeholder `{i}` of an argument
(`i < args.length`) starts, it is replaced by `args[i]` and the scan goes on after it, so the
text of an argument is never scanned. -/
def fillOnce (args : List String) : List Char → List Char
  | [] => []
  | c :: cs =>
    match (List.range args.length).find? fun i => (placeholder i).toList.isPrefixOf (c :: cs) with
    | some i =>
      (args.getD i "").toList ++ fillOnce args ((c :: cs).drop (placeholder i).toList.length)
    | none => c :: fillOnce args cs
termination_by l => l.length
decreasing_by
  · simp only [List.length_drop, List.length_cons, placeholder_toList, List.length_append]
    omega
  · simp

section Once

variable {args : List String}

@[simp]
theorem fillOnce_nil : fillOnce args [] = [] := by
  rw [fillOnce]

theorem fillOnce_cons {c : Char} (hc : c ≠ '{') (cs : List Char) :
    fillOnce args (c :: cs) = c :: fillOnce args cs := by
  rw [fillOnce]
  split
  next i hi =>
    have hp := List.find?_some hi
    have hpre := List.isPrefixOf_iff_prefix.1 hp
    exact absurd hpre (placeholder_not_prefix_cons hc i cs)
  next => rfl

theorem fillOnce_append {xs : List Char} (hxs : '{' ∉ xs) (rest : List Char) :
    fillOnce args (xs ++ rest) = xs ++ fillOnce args rest := by
  induction xs with
  | nil => rfl
  | cons c xs ih =>
    have hc : c ≠ '{' := fun h => hxs (h ▸ List.mem_cons_self)
    rw [List.cons_append, fillOnce_cons hc, ih (fun h => hxs (.tail _ h)), List.cons_append]

/-- The only placeholder that starts where placeholder `k` starts is `k`'s. -/
theorem find?_placeholder (k : Nat) (rest : List Char) :
    (List.range args.length).find?
        (fun i => (placeholder i).toList.isPrefixOf ((placeholder k).toList ++ rest)) =
      if k < args.length then some k else none := by
  split
  next hk =>
    cases h : (List.range args.length).find? _ with
    | none =>
      exact absurd (by simp [List.prefix_append]) (List.find?_eq_none.1 h k (List.mem_range.2 hk))
    | some i =>
      have hp := List.find?_some h
      have hpre := List.isPrefixOf_iff_prefix.1 hp
      rw [placeholder_prefix_inj hpre]
  next hk =>
    refine List.find?_eq_none.2 fun i hi h => ?_
    have hpre := List.isPrefixOf_iff_prefix.1 h
    rw [placeholder_prefix_inj hpre] at hi
    exact hk (List.mem_range.1 hi)

/-- The scan fills a placeholder with its argument's text, or keeps it when there is none. -/
theorem fillOnce_placeholder (k : Nat) (rest : List Char) :
    fillOnce args ((placeholder k).toList ++ rest) =
      render ((Piece.hole k).fill (args[·]?)) ++ fillOnce args rest := by
  have hfind := @find?_placeholder args k rest
  obtain ⟨tl, htl, htail⟩ : ∃ tl, (placeholder k).toList = '{' :: tl ∧ '{' ∉ tl :=
    ⟨_, placeholder_toList k, brace_not_mem_tail k⟩
  rw [htl, List.cons_append] at hfind ⊢
  rw [fillOnce, hfind]
  by_cases hk : k < args.length
  · rw [if_pos hk]
    dsimp only
    rw [← List.cons_append, ← htl, List.drop_left]
    simp [Piece.fill, List.getD_eq_getElem?_getD, List.getElem?_eq_getElem hk]
  · rw [if_neg hk]
    dsimp only
    rw [fillOnce_append htail]
    simp [Piece.fill, Piece.text, List.getElem?_eq_none (Nat.le_of_not_lt hk), htl]

/-- The scan fills every placeholder of an argument among the pieces. -/
theorem fillOnce_render {ps : List Piece} (hps : ∀ p ∈ ps, p.ok) :
    fillOnce args (render ps) = render (ps.flatMap (Piece.fill (args[·]?))) := by
  induction ps with
  | nil => simp
  | cons p ps ih =>
    have ih := ih fun q hq => hps q (.tail _ hq)
    cases p with
    | lit c =>
      have hc : c ≠ '{' := hps _ List.mem_cons_self
      simp [Piece.text, Piece.fill, fillOnce_cons hc, ih]
    | hole k =>
      rw [render_cons, Piece.text, fillOnce_placeholder, ih, List.flatMap_cons, render_append]

end Once

/-! ## The fold and the one scan -/

/-- Filling a template argument by argument is filling it in one scan, when every opening brace
of the template opens a placeholder and no argument holds an opening brace. -/
theorem fillTemplate_eq_fillOnce (template : String) (args : List String)
    (htemplate : BracesOpenPlaceholders template.toList)
    (hargs : ∀ a ∈ args, '{' ∉ a.toList) :
    fillTemplate template args = String.ofList (fillOnce args template.toList) := by
  obtain ⟨ps, hps, hr⟩ := bracesOpenPlaceholders_iff.1 htemplate
  have ht : template = String.ofList (render ps) := by rw [hr, String.ofList_toList]
  rw [ht, String.toList_ofList, fillOnce_render hps, ← fillTemplate_render hps args hargs,
    String.ofList_toList]

theorem fillTemplate_eq_fillOnce_swapped :
    BracesOpenPlaceholders "\x7b1\x7d, \x7b0\x7d".toList ∧ (∀ a ∈ ["a", "b"], '{' ∉ a.toList) ∧
      fillTemplate "\x7b1\x7d, \x7b0\x7d" ["a", "b"] =
        String.ofList (fillOnce ["a", "b"] "\x7b1\x7d, \x7b0\x7d".toList) := by
  have htemplate : BracesOpenPlaceholders "\x7b1\x7d, \x7b0\x7d".toList :=
    bracesOpenPlaceholders_iff.2
      ⟨[.hole 1, .lit ',', .lit ' ', .hole 0], by simp [Piece.ok], by decide +kernel⟩
  have hargs : ∀ a ∈ ["a", "b"], '{' ∉ a.toList := by decide +kernel
  exact ⟨htemplate, hargs, fillTemplate_eq_fillOnce _ _ htemplate hargs⟩

/-- Each condition is needed: an argument that holds a later placeholder has it filled in turn,
and so has a placeholder that an argument completes with the template's text around it. -/
theorem fillTemplate_rescansInsertedText :
    fillTemplate "\x7b0\x7d\x7b1\x7d" ["\x7b1\x7d", "x"] = "xx" ∧
      String.ofList (fillOnce ["\x7b1\x7d", "x"] "\x7b0\x7d\x7b1\x7d".toList) = "\x7b1\x7dx" ∧
    fillTemplate "\x7b\x7b0\x7d\x7d" ["1", "z"] = "z" ∧
      String.ofList (fillOnce ["1", "z"] "\x7b\x7b0\x7d\x7d".toList) = "\x7b1\x7d" := by
  decide +kernel

end RubyLower.Template
