import TwoFactorLogin.Text.Substitute

/-!
# Putting a text in for a word

A text is the pieces between the occurrences of a word, and putting a replacement in for the word
puts it between the same pieces (`exists_pieces`). The pieces do not depend on the replacement, so
an occurrence of the word inside the replacement is not touched, and two replacements give two
different texts as soon as the word occurs (`intercalate_inj`).

All this is for a word whose first character does not come again in it. Such a word does not overlap
with itself, so its occurrences can be told apart from left to right.
-/

namespace TwoFactorLogin.Text

variable {c : Char} {cs text : List Char} {pieces : List (List Char)}

/-- A text is cut into pieces at every occurrence of a word, and nowhere else. -/
structure Pieces (word text : List Char) (pieces : List (List Char)) : Prop where
  eq_intercalate : text = word.intercalate pieces
  occurrence {pre post : List Char} (h : text = pre ++ word ++ post) :
    ∃ before after, before ≠ [] ∧ after ≠ [] ∧ pieces = before ++ after ∧
      pre = word.intercalate before ∧ post = word.intercalate after

/-! ## Substituting step by step -/

theorem substituteFrom_eq_drop (word replacement : List Char) (skip : Nat) (text : List Char) :
    substituteFrom word replacement skip text = substitute word replacement (text.drop skip) := by
  induction skip generalizing text with
  | zero => rfl
  | succ skip ih =>
    cases text with
    | nil => rfl
    | cons c text => exact ih text

theorem substitute_append (replacement rest : List Char) :
    substitute (c :: cs) replacement (c :: cs ++ rest) =
      replacement ++ substitute (c :: cs) replacement rest := by
  have hprefix : (c :: cs).isPrefixOf (c :: (cs ++ rest)) = true :=
    List.isPrefixOf_iff_prefix.2 (List.prefix_append (c :: cs) rest)
  rw [substitute, List.cons_append, substituteFrom, if_pos hprefix, substituteFrom_eq_drop,
    List.length_cons, Nat.add_sub_cancel, List.drop_left]

theorem substitute_cons (replacement : List Char) {d : Char} (h : ¬ c :: cs <+: d :: text) :
    substitute (c :: cs) replacement (d :: text) =
      d :: substitute (c :: cs) replacement text := by
  have hprefix : ¬ (c :: cs).isPrefixOf (d :: text) = true :=
    fun hp => h (List.isPrefixOf_iff_prefix.1 hp)
  rw [substitute, substituteFrom, if_neg hprefix, substitute]

/-! ## Pieces -/

/-- A word that does not overlap with itself occurs again only after its end. -/
theorem exists_append_of_occurrence (hc : c ∉ cs) {rest pre post : List Char} (hpre : pre ≠ [])
    (h : c :: cs ++ rest = pre ++ (c :: cs) ++ post) :
    ∃ between, pre = c :: cs ++ between ∧ rest = between ++ (c :: cs) ++ post := by
  rw [List.append_assoc] at h
  obtain ⟨between, hpre, hrest⟩ | ⟨overlap, hword, hrest⟩ := List.append_eq_append_iff.1 h
  · exact ⟨between, hpre, by rw [hrest, List.append_assoc]⟩
  · cases overlap with
    | nil =>
      rw [List.append_nil] at hword
      exact ⟨[], by rw [← hword, List.append_nil], hrest.symm⟩
    | cons d overlap =>
      -- The second occurrence would begin inside the first, but not where it begins.
      obtain ⟨rfl, -⟩ := List.cons_eq_cons.1 hrest
      obtain ⟨hnil, -⟩ | ⟨pre', -, hcs⟩ := List.cons_eq_append_iff.1 hword
      · exact (hpre hnil).elim
      · exact (hc (hcs ▸ List.mem_append_right _ List.mem_cons_self)).elim

namespace Pieces

theorem nil : Pieces (c :: cs) [] [[]] where
  eq_intercalate := rfl
  occurrence h := by simp at h

/-- The word at the beginning of a text stands after an empty piece. -/
theorem word_append (hc : c ∉ cs) {first rest : List Char} {others : List (List Char)}
    (h : Pieces (c :: cs) rest (first :: others)) :
    Pieces (c :: cs) (c :: cs ++ rest) ([] :: first :: others) where
  eq_intercalate := by
    rw [List.intercalate_cons_cons, List.nil_append, ← h.eq_intercalate]
  occurrence := by
    intro pre post hoccurs
    by_cases hpre : pre = []
    · subst hpre
      have hpost : rest = post := List.append_cancel_left hoccurs
      exact ⟨[[]], first :: others, by simp, by simp, rfl, by simp, by
        rw [← hpost, h.eq_intercalate]⟩
    · obtain ⟨between, hbetween, hrest⟩ := exists_append_of_occurrence hc hpre hoccurs
      obtain ⟨before, after, hbefore, hafter, hpieces, hpre', hpost⟩ := h.occurrence hrest
      refine ⟨[] :: before, after, by simp, hafter, by rw [hpieces, List.cons_append], ?_, hpost⟩
      rw [List.intercalate_cons_of_ne_nil hbefore, ← hpre', hbetween, List.nil_append]

/-- A character at which the word does not begin belongs to the first piece. -/
theorem cons {d : Char} (hnot : ¬ c :: cs <+: d :: text) {first : List Char}
    {others : List (List Char)} (h : Pieces (c :: cs) text (first :: others)) :
    Pieces (c :: cs) (d :: text) ((d :: first) :: others) where
  eq_intercalate := by
    rw [List.intercalate_cons_cons_left, ← h.eq_intercalate]
  occurrence := by
    intro pre post hoccurs
    cases pre with
    | nil => exact (hnot ⟨post, hoccurs.symm⟩).elim
    | cons e pre =>
      obtain ⟨rfl, htext⟩ := List.cons_eq_cons.1 hoccurs
      obtain ⟨before, after, hbefore, hafter, hpieces, hpre, hpost⟩ := h.occurrence htext
      obtain ⟨first', before, rfl⟩ := List.exists_cons_of_ne_nil hbefore
      obtain ⟨rfl, rfl⟩ := List.cons_eq_cons.1 hpieces
      exact ⟨(d :: first) :: before, after, by simp, hafter, rfl, by
        rw [List.intercalate_cons_cons_left, ← hpre], hpost⟩

theorem two_le_length (h : Pieces (c :: cs) text pieces) (hmem : c :: cs <:+: text) :
    2 ≤ pieces.length := by
  obtain ⟨pre, post, hoccurs⟩ := hmem
  obtain ⟨before, after, hbefore, hafter, rfl, -, -⟩ := h.occurrence hoccurs.symm
  have hone := List.length_pos_iff.2 hbefore
  have htwo := List.length_pos_iff.2 hafter
  rw [List.length_append]
  omega

end Pieces

/-- A text has pieces, and a replacement is put between them. -/
theorem exists_pieces (hc : c ∉ cs) (text : List Char) :
    ∃ first others, Pieces (c :: cs) text (first :: others) ∧ ∀ replacement,
      substitute (c :: cs) replacement text = replacement.intercalate (first :: others) := by
  induction hlength : text.length using Nat.strongRecOn generalizing text with
  | ind n ih =>
    cases text with
    | nil => exact ⟨[], [], Pieces.nil, fun _ => rfl⟩
    | cons d text =>
      by_cases hprefix : c :: cs <+: d :: text
      · obtain ⟨rest, hrest⟩ := hprefix
        have hshorter : rest.length < n := by
          rw [← hlength, ← hrest, List.length_append, List.length_cons]
          omega
        obtain ⟨first, others, hpieces, hsubstitute⟩ := ih _ hshorter rest rfl
        refine ⟨[], first :: others, hrest ▸ hpieces.word_append hc, fun replacement => ?_⟩
        rw [← hrest, substitute_append, hsubstitute, List.intercalate_cons_cons, List.nil_append]
      · have hshorter : text.length < n := by
          rw [← hlength, List.length_cons]
          omega
        obtain ⟨first, others, hpieces, hsubstitute⟩ := ih _ hshorter text rfl
        refine ⟨d :: first, others, hpieces.cons hprefix, fun replacement => ?_⟩
        rw [substitute_cons replacement hprefix, hsubstitute, List.intercalate_cons_cons_left]

/-! ## Telling replacements apart -/

theorem length_intercalate_cons (sep first : List Char) (others : List (List Char)) :
    (sep.intercalate (first :: others)).length =
      sep.length * others.length + (first ++ others.flatten).length := by
  induction others generalizing first with
  | nil => simp
  | cons second others ih =>
    simp only [List.intercalate_cons_cons, List.length_append, ih, List.length_cons, Nat.mul_succ,
      List.flatten_cons]
    omega

/-- Two texts put between the same pieces, of which there are at least two, are told apart by what
comes out. -/
theorem intercalate_inj {sep sep' : List Char} (hpieces : 2 ≤ pieces.length)
    (h : sep.intercalate pieces = sep'.intercalate pieces) : sep = sep' := by
  match pieces, hpieces with
  | first :: second :: others, _ =>
    have hlength : sep.length = sep'.length := by
      have hlengths := congrArg List.length h
      rw [length_intercalate_cons, length_intercalate_cons, Nat.add_right_cancel_iff] at hlengths
      exact Nat.eq_of_mul_eq_mul_right (Nat.succ_pos _) hlengths
    rw [List.intercalate_cons_cons, List.intercalate_cons_cons, List.append_assoc,
      List.append_assoc, List.append_cancel_left_eq] at h
    exact List.append_inj_left h hlength

end TwoFactorLogin.Text
