import Mathlib

variable {α : Type*}

/-- A part is a stretch of the list: of what was read of it since the last separator and of the rest. -/
theorem List.infix_of_mem_splitOnPPrepend {p : α → Bool} {l part read : List α}
    (hmem : part ∈ l.splitOnPPrepend p read) : part <:+: read.reverse ++ l := by
  induction l generalizing read with
  | nil =>
    rw [List.splitOnPPrepend_nil, List.mem_singleton] at hmem
    simp [hmem]
  | cons c l ih =>
    rw [List.splitOnPPrepend_cons_eq_if] at hmem
    split at hmem
    · obtain rfl | hmem := List.mem_cons.mp hmem
      · exact (List.prefix_append _ _).isInfix
      · have hrest : part <:+: l := ih (show part ∈ l.splitOnPPrepend p [] from hmem)
        exact (hrest.trans (List.suffix_cons c l).isInfix).trans (List.suffix_append _ _).isInfix
    · have hread := ih hmem
      rwa [List.reverse_cons, List.append_assoc, List.singleton_append] at hread

section SplitOn

variable [BEq α]

theorem List.mem_of_mem_splitOn {separator c : α} {l part : List α} (hpart : part ∈ l.splitOn separator) (hc : c ∈ part) :
    c ∈ l := by
  rw [List.splitOn_eq_splitOnP, List.splitOnP_eq_splitOnPPrepend] at hpart
  exact (List.infix_of_mem_splitOnPPrepend hpart).subset hc

variable [LawfulBEq α]

theorem List.not_mem_of_mem_splitOn {separator : α} {l part : List α}
    (hpart : part ∈ l.splitOn separator) : separator ∉ part := by
  induction l generalizing part with
  | nil =>
    rw [List.splitOn_nil, List.mem_singleton] at hpart
    simp [hpart]
  | cons c l ih =>
    rw [List.splitOn_cons_eq_if_modifyHead] at hpart
    split at hpart
    · rcases List.mem_cons.mp hpart with rfl | hpart
      · exact List.not_mem_nil
      · exact ih hpart
    · rename_i hc
      obtain ⟨first, parts, hparts⟩ := List.exists_cons_of_ne_nil (List.splitOn_ne_nil separator l)
      rw [hparts, List.modifyHead_cons] at hpart
      rw [hparts] at ih
      rcases List.mem_cons.mp hpart with rfl | hpart
      · have hne : separator ≠ c := by
          rintro rfl
          simp at hc
        simpa [hne] using ih List.mem_cons_self
      · exact ih (List.mem_cons_of_mem _ hpart)

/-- A character that is not a separator makes the last part longer. -/
theorem List.splitOn_concat_ne {separator c : α} {l last : List α} {init : List (List α)}
    (hsplit : l.splitOn separator = init ++ [last]) (hne : c ≠ separator) :
    (l ++ [c]).splitOn separator = init ++ [last ++ [c]] := by
  induction l generalizing init last with
  | nil =>
    obtain ⟨rfl, rfl⟩ : init = [] ∧ last = [] := by
      rw [List.splitOn_nil] at hsplit
      cases init <;> simp_all
    exact List.splitOn_eq_singleton (by simpa using hne.symm)
  | cons x l ih =>
    obtain ⟨parts, part, hparts⟩ := (List.eq_nil_or_concat (l.splitOn separator)).resolve_left
      (List.splitOn_ne_nil separator l)
    rw [List.concat_eq_append] at hparts
    rw [List.splitOn_cons_eq_if_modifyHead, hparts] at hsplit
    rw [List.cons_append, List.splitOn_cons_eq_if_modifyHead, ih hparts]
    by_cases hx : x == separator
    · rw [if_pos hx, ← List.cons_append] at hsplit
      obtain ⟨rfl, hlast⟩ := List.append_inj' hsplit rfl
      rw [if_pos hx, List.singleton_inj.mp hlast]
      rfl
    · rw [if_neg hx] at hsplit ⊢
      cases parts with
      | nil =>
        have hparts : [] ++ [x :: part] = init ++ [last] := hsplit
        obtain ⟨rfl, hlast⟩ := List.append_inj' hparts rfl
        rw [← List.singleton_inj.mp hlast]
        rfl
      | cons first parts =>
        have hparts : ((x :: first) :: parts) ++ [part] = init ++ [last] := hsplit
        obtain ⟨rfl, hlast⟩ := List.append_inj' hparts rfl
        rw [List.singleton_inj.mp hlast]
        rfl

theorem List.splitOn_concat_self (separator : α) (l : List α) :
    (l ++ [separator]).splitOn separator = l.splitOn separator ++ [[]] := by
  rw [List.splitOn_append_cons_self, List.splitOn_nil]

/-- Characters that are not separators make the last part longer. -/
theorem List.splitOn_append_of_not_mem {separator : α} {l last more : List α} {init : List (List α)}
    (hsplit : l.splitOn separator = init ++ [last]) (hmore : separator ∉ more) :
    (l ++ more).splitOn separator = init ++ [last ++ more] := by
  induction more generalizing l last with
  | nil => rw [List.append_nil, List.append_nil, hsplit]
  | cons c more ih =>
    obtain ⟨hc, hmore⟩ := not_or.mp (mt List.mem_cons.mpr hmore)
    rw [← List.singleton_append, ← List.append_assoc, ← List.append_assoc]
    exact ih (List.splitOn_concat_ne hsplit (Ne.symm hc)) hmore

/-- Parts that each follow a separator. -/
theorem List.splitOn_append_flatMap_cons {separator : α} {first : List α} {parts : List (List α)} (hfirst : separator ∉ first)
    (hparts : ∀ part ∈ parts, separator ∉ part) :
    (first ++ parts.flatMap (separator :: ·)).splitOn separator = first :: parts := by
  induction parts generalizing first with
  | nil => rw [List.flatMap_nil, List.append_nil, List.splitOn_eq_singleton hfirst]
  | cons part parts ih =>
    rw [List.flatMap_cons, List.cons_append, List.splitOn_append_cons_self_of_not_mem hfirst,
      ih (hparts part List.mem_cons_self) fun other hother => hparts other (List.mem_cons_of_mem _ hother)]

end SplitOn
