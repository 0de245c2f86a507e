import Mathlib.Data.List.Basic
import Mathlib.Data.List.TakeWhile

variable {α : Type*} {delimits : α → Bool}

/-- The words of a list: its parts between delimiters, without the empty ones. -/
def List.words (delimits : α → Bool) (l : List α) : List (List α) := (l.splitOnP delimits).filter (!·.isEmpty)

@[simp]
theorem List.words_nil : ([] : List α).words delimits = [] := by
  simp [List.words]

/-- A delimiter in front makes no word. -/
theorem List.words_cons_delimiter {c : α} (hc : delimits c) (l : List α) :
    (c :: l).words delimits = l.words delimits := by
  rw [List.words, List.words, ← List.nil_append (c :: l), List.splitOnP_append_cons _ _ hc]
  simp

theorem List.words_dropWhile (l : List α) : (l.dropWhile delimits).words delimits = l.words delimits := by
  induction l with
  | nil => rfl
  | cons c l ih =>
    by_cases hc : delimits c
    · rw [List.dropWhile_cons_of_pos hc, List.words_cons_delimiter hc, ih]
    · rw [List.dropWhile_cons_of_neg hc]

/-- The first word of a list that begins with one, and the words behind it. -/
theorem List.words_cons {c : α} (hc : ¬ delimits c) (l : List α) :
    (c :: l).words delimits =
      (c :: l).takeWhile (!delimits ·) :: ((c :: l).dropWhile (!delimits ·)).words delimits := by
  have hfree : ∀ x ∈ (c :: l).takeWhile (!delimits ·), delimits x = false := fun x hx => by
    simpa using List.mem_takeWhile_imp hx
  have hword : (c :: l).takeWhile (!delimits ·) ≠ [] := by simp [hc]
  generalize hrest : (c :: l).dropWhile (!delimits ·) = rest
  have hsplit : c :: l = (c :: l).takeWhile (!delimits ·) ++ rest := by
    rw [← hrest, List.takeWhile_append_dropWhile]
  cases rest with
  | nil =>
    rw [List.append_nil] at hsplit
    rw [List.words_nil, ← hsplit, List.words, List.splitOnP_eq_singleton (hsplit ▸ hfree)]
    simp
  | cons d rest =>
    have hd : delimits d := by
      have hhead := List.head?_dropWhile_not (!delimits ·) (c :: l)
      rw [hrest] at hhead
      simpa using hhead
    rw [List.words_cons_delimiter hd]
    conv_lhs => rw [hsplit, List.words, List.splitOnP_append_cons_of_forall_mem hfree d hd]
    rw [List.filter_cons_of_pos (by simpa using hword)]
    rfl

/-- What is left behind the first word, or behind the delimiters in front of it, is shorter. -/
theorem List.length_dropWhile_dropWhile_lt (delimits : α → Bool) {l : List α} (hl : l ≠ []) :
    ((l.dropWhile (!delimits ·)).dropWhile delimits).length < l.length := by
  obtain ⟨c, l, rfl⟩ := List.exists_cons_of_ne_nil hl
  rw [List.length_cons, Nat.lt_succ_iff]
  by_cases hc : delimits c
  · rw [List.dropWhile_cons_of_neg (by simp [hc]), List.dropWhile_cons_of_pos hc]
    exact (List.dropWhile_sublist _).length_le
  · rw [List.dropWhile_cons_of_pos (by simp [hc])]
    exact ((List.dropWhile_sublist _).trans (List.dropWhile_sublist _)).length_le
