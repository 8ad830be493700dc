import RubyLower.Op.Sequence

/-!
# Nested sequences are invisible

`Op.sequence` is a normal form for running nodes one after the other. Its items are the nodes
given, each spliceable sequence (one with neither span nor flags) replaced by its items, less the
values without effect that do not come last (`Op.dropIdle_eq`): the sequence node of what is
left when two or more remain, the one node when one remains, and `nil` when none does.

A sequence of nodes among which no spliceable sequence is empty or holds another spliceable
sequence, as is true of every node `sequence` builds (`Op.sequence_unnested`), can be written in
place of its items inside another sequence (`Op.sequence_append_sequence`). The items of the
inner sequence are exactly what splicing puts there, less values that the outer sequence drops
anyway: a value dropped inside stood before the inner last item, so it stands before the outer
last item too, and the inner last item, kept inside, is dropped outside only if something follows
it (`Op.dropIdle_middle`). `Op.sequence_flattens` states both facts.
-/

namespace RubyLower

namespace Op

/-! ## Splicing -/

theorem spliceable_eq_some {o : Op} {items : List Op} (h : spliceable o = some items) :
    o = .mk (.seq items) none {} := by
  unfold spliceable at h
  split at h
  · split at h
    · cases h; subst_vars; rfl
    · cases h
  · cases h

@[simp] theorem spliceable_seq (items : List Op) : spliceable (ofForm (.seq items)) = some items := by
  simp [spliceable, ofForm]

/-- An item of a spliced list is an item of the list, or an item of a spliceable sequence in it. -/
theorem mem_splice {l : List Op} {x : Op} (h : x ∈ splice l) :
    x ∈ l ∨ ∃ o ∈ l, ∃ items, spliceable o = some items ∧ x ∈ items := by
  simp only [splice, List.mem_flatMap] at h
  obtain ⟨o, ho, hx⟩ := h
  cases hs : spliceable o with
  | none => simp only [hs, Option.getD_none, List.mem_singleton] at hx; exact .inl (hx ▸ ho)
  | some items => exact .inr ⟨o, ho, items, hs, by simpa [hs] using hx⟩

@[simp] theorem splice_append (xs ys : List Op) : splice (xs ++ ys) = splice xs ++ splice ys :=
  List.flatMap_append

theorem splice_of_forall {l : List Op} (h : ∀ o ∈ l, spliceable o = none) : splice l = l := by
  induction l with
  | nil => rfl
  | cons o l ih =>
    simp only [List.forall_mem_cons] at h
    rw [splice, List.flatMap_cons, h.1, Option.getD_none, ← splice, ih h.2]
    rfl

/-! ## Dropping values without effect -/

theorem mem_of_mem_dropIdle : ∀ {l : List Op} {x : Op}, x ∈ dropIdle l → x ∈ l
  | [], _, h => h
  | [_], _, h => h
  | o :: o' :: rest, x, h => by
    unfold dropIdle at h
    split at h
    · exact List.mem_cons_of_mem _ (mem_of_mem_dropIdle h)
    · rcases List.mem_cons.1 h with rfl | h
      · exact List.mem_cons_self
      · exact List.mem_cons_of_mem _ (mem_of_mem_dropIdle h)

theorem dropIdle_cons {o : Op} {l : List Op} (h : l ≠ []) :
    dropIdle (o :: l) = if o.isDroppable then dropIdle l else o :: dropIdle l := by
  cases l with
  | nil => exact absurd rfl h
  | cons x xs => rfl

/-- Before the last item, values with effects are all kept. -/
theorem dropIdle_of_kept : ∀ {os : List Op}, (∀ o ∈ os, o.isDroppable = false) → dropIdle os = os
  | [], _ => rfl
  | [_], _ => rfl
  | o :: o' :: rest, h => by
    rw [dropIdle_cons (List.cons_ne_nil o' rest), if_neg (by simp [h o List.mem_cons_self]),
      dropIdle_of_kept fun x hx => h x (List.mem_cons_of_mem o hx)]

/-- Items followed by others are kept exactly when they have an effect. -/
theorem dropIdle_append : ∀ (front : List Op) {back : List Op}, back ≠ [] →
    dropIdle (front ++ back) = front.filter (fun o => !o.isDroppable) ++ dropIdle back
  | [], _, _ => rfl
  | o :: front, back, hback => by
    rw [List.cons_append, dropIdle_cons (List.append_ne_nil_of_right_ne_nil front hback),
      dropIdle_append front hback, List.filter_cons]
    cases o.isDroppable <;> rfl

/-- Before the last item, `dropIdle` drops exactly the values without effect. -/
theorem dropIdle_append_singleton (b : Op) (l : List Op) :
    dropIdle (l ++ [b]) = l.filter (fun o => !o.isDroppable) ++ [b] :=
  dropIdle_append l (List.cons_ne_nil b [])

/-- The items `dropIdle` keeps: those before the last that have an effect, then the last. -/
theorem dropIdle_eq (l : List Op) :
    dropIdle l = l.dropLast.filter (fun o => !o.isDroppable) ++ l.getLast?.toList := by
  rcases List.eq_nil_or_concat l with rfl | ⟨front, b, rfl⟩
  · rfl
  · rw [List.concat_eq_append, dropIdle_append_singleton, List.dropLast_concat,
      List.getLast?_concat]
    rfl

theorem dropIdle_eq_nil {l : List Op} : dropIdle l = [] ↔ l = [] := by
  rcases List.eq_nil_or_concat l with rfl | ⟨front, b, rfl⟩
  · exact iff_of_true rfl rfl
  · simp [dropIdle_append_singleton]

@[simp] theorem filter_dropIdle (l : List Op) :
    (dropIdle l).filter (fun o => !o.isDroppable) = l.filter (fun o => !o.isDroppable) := by
  rcases List.eq_nil_or_concat l with rfl | ⟨front, b, rfl⟩
  · rfl
  · simp [dropIdle_append_singleton, List.filter_filter]

@[simp] theorem dropIdle_dropIdle (l : List Op) : dropIdle (dropIdle l) = dropIdle l := by
  rcases List.eq_nil_or_concat l with rfl | ⟨front, b, rfl⟩
  · rfl
  · simp [dropIdle_append_singleton, List.filter_filter]

/-- Dropping the values without effect of a middle part first changes nothing: what it drops
stood before the part's last item, and the last item it keeps is dropped in the whole exactly when
something follows. -/
theorem dropIdle_middle (front mid back : List Op) :
    dropIdle (front ++ dropIdle mid ++ back) = dropIdle (front ++ mid ++ back) := by
  rcases List.eq_nil_or_concat mid with rfl | ⟨init, b, rfl⟩
  · rfl
  have hmid : dropIdle (init.concat b) ≠ [] := by simp [dropIdle_eq_nil]
  cases back with
  | nil =>
    simp only [List.append_nil]
    rw [dropIdle_append front hmid, dropIdle_append front (by simp), dropIdle_dropIdle]
  | cons c back =>
    have hback : c :: back ≠ [] := List.cons_ne_nil c back
    rw [List.append_assoc, dropIdle_append front (List.append_ne_nil_of_right_ne_nil _ hback),
      dropIdle_append _ hback, List.append_assoc,
      dropIdle_append front (List.append_ne_nil_of_right_ne_nil _ hback), dropIdle_append _ hback,
      filter_dropIdle]

/-! ## Sequences -/

/-- A node that is no spliceable sequence, or one whose items are there and none of them is one:
nodes in which splicing never reaches a second level. -/
def Unnested (o : Op) : Prop :=
  ∀ items, o.spliceable = some items → items ≠ [] ∧ ∀ x ∈ items, x.spliceable = none

/-- Every item of a spliced list of unnested nodes is itself no spliceable sequence. -/
theorem spliceable_of_mem_splice {l : List Op} (hl : ∀ o ∈ l, o.Unnested) {x : Op}
    (hx : x ∈ splice l) : x.spliceable = none := by
  simp only [splice, List.mem_flatMap] at hx
  obtain ⟨o, ho, hx⟩ := hx
  cases hs : spliceable o with
  | none =>
    rw [hs, Option.getD_none, List.mem_singleton] at hx
    exact hx ▸ hs
  | some items =>
    rw [hs, Option.getD_some] at hx
    exact ((hl o ho) items hs).2 x hx

/-- Splicing a list of unnested nodes leaves something when there is something. -/
theorem splice_ne_nil {l : List Op} (hl : ∀ o ∈ l, o.Unnested) (hne : l ≠ []) : splice l ≠ [] := by
  obtain ⟨o, rest, rfl⟩ := List.exists_cons_of_ne_nil hne
  rw [splice, List.flatMap_cons]
  refine List.append_ne_nil_of_left_ne_nil ?_ _
  cases hs : spliceable o with
  | none => exact List.cons_ne_nil o []
  | some items => exact ((hl o List.mem_cons_self) items hs).1

/-- A sequence is decided by the items it keeps. -/
theorem sequence_eq_of_kept {xs ys : List Op} (h : dropIdle (splice xs) = dropIdle (splice ys)) :
    sequence xs = sequence ys := by
  unfold sequence
  rw [h]

/-- A sequence that keeps two items or more is the sequence node of them. -/
theorem sequence_of_two_le {xs : List Op} (h : 2 ≤ (dropIdle (splice xs)).length) :
    sequence xs = ofForm (.seq (dropIdle (splice xs))) := by
  unfold sequence
  split
  · next hl => simp [hl] at h
  · next o hl => simp [hl] at h
  · rfl

/-- Spliced into another sequence, the sequence of unnested nodes gives back the items it kept. -/
theorem splice_sequence {ys : List Op} (hys : ∀ o ∈ ys, o.Unnested) (hne : ys ≠ []) :
    splice [sequence ys] = dropIdle (splice ys) := by
  unfold sequence
  split
  · next hl => exact absurd (dropIdle_eq_nil.1 hl) (splice_ne_nil hys hne)
  · next o hl =>
    have ho : o ∈ splice ys := mem_of_mem_dropIdle (hl ▸ List.mem_singleton_self o)
    rw [splice_of_forall (by simpa using spliceable_of_mem_splice hys ho), hl]
  · simp [splice]

/-- A sequence of unnested nodes is unnested: `sequence` builds a sequence node only of two or
more items, each no spliceable sequence. -/
theorem sequence_unnested {xs : List Op} (hxs : ∀ o ∈ xs, o.Unnested) : (sequence xs).Unnested := by
  have hitem : ∀ x ∈ dropIdle (splice xs), x.spliceable = none :=
    fun x hx => spliceable_of_mem_splice hxs (mem_of_mem_dropIdle hx)
  unfold sequence
  split
  · intro items h
    cases h
  · next o hl =>
    intro items h
    rw [hitem o (by simp [hl])] at h
    cases h
  · next hnil _ =>
    intro items h
    rw [spliceable_seq] at h
    cases h
    exact ⟨hnil, hitem⟩

/-- A sequence of unnested nodes written in another sequence is the same as its nodes written
there. -/
theorem sequence_append_sequence (xs : List Op) {ys : List Op} (zs : List Op) (hne : ys ≠ [])
    (hys : ∀ o ∈ ys, o.Unnested) :
    sequence (xs ++ [sequence ys] ++ zs) = sequence (xs ++ ys ++ zs) := by
  apply sequence_eq_of_kept
  rw [splice_append, splice_append, splice_sequence hys hne, dropIdle_middle, splice_append,
    splice_append]

/-- **Sequences are a flattening normal form.** The items of `sequence xs` are the nodes of `xs`,
spliceable sequences replaced by their items, less the values without effect that do not come
last: `nil` when none is left, the node itself when one is, a sequence node otherwise. And a
sequence of unnested nodes written inside another is the same as its nodes written there. -/
theorem sequence_flattens (xs : List Op) :
    let kept := (splice xs).dropLast.filter (fun o => !o.isDroppable) ++ (splice xs).getLast?.toList
    (kept = [] → sequence xs = nil) ∧ (∀ o, kept = [o] → sequence xs = o) ∧
      (2 ≤ kept.length → sequence xs = ofForm (.seq kept)) ∧
      ∀ ys zs, ys ≠ [] → (∀ o ∈ ys, o.Unnested) →
        sequence (xs ++ [sequence ys] ++ zs) = sequence (xs ++ ys ++ zs) := by
  intro kept
  have hkept : dropIdle (splice xs) = kept := dropIdle_eq _
  refine ⟨fun h => ?_, fun o h => ?_, fun h => ?_, fun ys zs hne hys => sequence_append_sequence xs zs hne hys⟩
  · unfold sequence
    rw [hkept, h]
  · unfold sequence
    rw [hkept, h]
  · rw [sequence_of_two_le (hkept ▸ h), hkept]

/-- A sequence of a write and `nil`, followed by a read, is the write and the read: the inner `nil`
comes last inside and is dropped outside. -/
theorem sequence_flattens_innerNil :
    [Op.writeLocal ⟨"x", 0, 0⟩ (ofForm (.integer 1)), nil] ≠ [] ∧
      (∀ o ∈ [Op.writeLocal ⟨"x", 0, 0⟩ (ofForm (.integer 1)), nil], o.Unnested) ∧
      sequence ([] ++ [sequence [Op.writeLocal ⟨"x", 0, 0⟩ (ofForm (.integer 1)), nil]] ++
          [Op.readLocal ⟨"x", 0, 0⟩]) =
        sequence ([] ++ [Op.writeLocal ⟨"x", 0, 0⟩ (ofForm (.integer 1)), nil] ++
          [Op.readLocal ⟨"x", 0, 0⟩]) := by
  have hys : ∀ o ∈ [Op.writeLocal ⟨"x", 0, 0⟩ (ofForm (.integer 1)), nil], o.Unnested := by
    intro o ho items h
    simp only [List.mem_cons, List.not_mem_nil, or_false] at ho
    rcases ho with rfl | rfl <;> cases h
  exact ⟨List.cons_ne_nil _ _, hys, (sequence_flattens []).2.2.2 _ _ (List.cons_ne_nil _ _) hys⟩

example : sequence [sequence [Op.writeLocal ⟨"x", 0, 0⟩ (ofForm (.integer 1)), nil],
    Op.readLocal ⟨"x", 0, 0⟩] =
      ofForm (.seq [Op.writeLocal ⟨"x", 0, 0⟩ (ofForm (.integer 1)), Op.readLocal ⟨"x", 0, 0⟩]) := by
  rfl

end Op

end RubyLower
