import Cpv.StaticFile.Model

namespace cpv

/-- What a Range header means: the first and the last position of a single range, of which the last may be left out. -/
def DenotesRange (rangeHeader : SharedString) (range : Nat × Nat) : Prop :=
  ∃ first last, rangeHeader = RangePrefix ++ first ++ byte '-' :: last ∧
    (decimalValue first = some range.1 ∧ range.1 < 2 ^ 64) ∧
    (last = [] ∧ range.2 = 2 ^ 64 - 1 ∨ decimalValue last = some range.2 ∧ range.2 < 2 ^ 64)

/-- A header of nothing but digits around a '-' has a first position, and no position is too large. -/
def PositionsFit (rangeHeader : SharedString) : Prop :=
  ∀ first last firstValue lastValue, rangeHeader = RangePrefix ++ first ++ byte '-' :: last →
    decimalLoop first 0 = some firstValue → decimalLoop last 0 = some lastValue →
    first ≠ [] ∧ firstValue < 2 ^ 64 ∧ lastValue < 2 ^ 64

theorem isDigit_of_decimalLoop {dec : SharedString} {value result : Nat} (hdec : decimalLoop dec value = some result) :
    ∀ c ∈ dec, c - byte '0' ≤ 9 := by
  induction dec generalizing value with
  | nil => exact fun c hc => absurd hc List.not_mem_nil
  | cons c dec ih =>
    rw [decimalLoop] at hdec
    split at hdec
    · rename_i hdigit
      intro other hother
      rcases List.mem_cons.mp hother with rfl | hother
      · exact hdigit
      · exact ih hdec other hother
    · cases hdec

/-- Digits are neither the dash nor the comma. -/
theorem not_mem_of_decimalLoop {dec : SharedString} {value result : Nat} (hdec : decimalLoop dec value = some result) :
    byte '-' ∉ dec ∧ byte ',' ∉ dec :=
  ⟨fun hmem => absurd (isDigit_of_decimalLoop hdec _ hmem) (by decide),
    fun hmem => absurd (isDigit_of_decimalLoop hdec _ hmem) (by decide)⟩

/-- `loadIntFromDec` takes no digits for zero, and the others modulo 2^64. -/
theorem loadIntFromDec_eq_decimalLoop (dec : SharedString) :
    loadIntFromDec dec = (decimalLoop dec 0).map UInt64.ofNat := by
  by_cases hdec : dec = []
  · rw [hdec]
    rfl
  · rw [loadIntFromDec_eq hdec, decimalValue, if_neg hdec]

theorem decimalValue_eq_some_iff {dec : SharedString} {value : Nat} :
    decimalValue dec = some value ↔ dec ≠ [] ∧ decimalLoop dec 0 = some value := by
  unfold decimalValue
  split
  · rename_i hnil
    simp [hnil]
  · rename_i hne
    simp [hne]

/-- The dash ends the first position; what is left out or too large is read as some number. -/
theorem parseRangeHeader_eq {first last : SharedString} (hdash : byte '-' ∉ first) (hcomma : byte ',' ∉ first ++ last) :
    parseRangeHeader (RangePrefix ++ first ++ byte '-' :: last) =
      (decimalLoop first 0).bind fun firstValue => (decimalLoop last 0).map fun lastValue =>
        (firstValue % 2 ^ 64, if last = [] then 2 ^ 64 - 1 else lastValue % 2 ^ 64) := by
  have hprefix : startsWith (RangePrefix ++ first ++ byte '-' :: last) RangePrefix := by
    rw [startsWith, List.append_assoc, List.isPrefixOf_iff_prefix]
    exact List.prefix_append _ _
  have hrange : (RangePrefix ++ first ++ byte '-' :: last).drop RangePrefix.length = first ++ byte '-' :: last := by
    rw [List.append_assoc, List.drop_left]
  have hcontains : (first ++ byte '-' :: last).contains (byte ',') = false := by
    rw [← Bool.not_eq_true, List.contains_iff_mem, List.mem_append, List.mem_cons]
    rw [List.mem_append] at hcomma
    rintro (hmem | hmem | hmem)
    · exact hcomma (.inl hmem)
    · exact absurd hmem (by decide)
    · exact hcomma (.inr hmem)
  have hnone : first.findIdx? (· == byte '-') = none := by
    rw [List.findIdx?_eq_none_iff]
    rintro c hc
    exact beq_false_of_ne fun h => hdash (h ▸ hc)
  have hfind : (first ++ byte '-' :: last).findIdx? (· == byte '-') = some first.length := by
    rw [List.findIdx?_append, hnone, List.findIdx?_cons, beq_self_eq_true, if_pos rfl, Option.none_or,
      Option.map_some, Nat.zero_add]
  have hlast : (first ++ byte '-' :: last).drop (first.length + 1) = last := by
    rw [← List.drop_drop, List.drop_left, List.drop_one, List.tail_cons]
  rw [parseRangeHeader, hprefix, hrange]
  simp only [Bool.not_true, Bool.false_eq_true, if_false, hcontains, hfind, List.take_left, hlast,
    loadIntFromDec_eq_decimalLoop]
  cases decimalLoop first 0 with
  | none => rfl
  | some firstValue =>
    by_cases hnil : last = []
    · subst hnil
      simp [decimalLoop]
    · cases decimalLoop last 0 with
      | none => simp [hnil]
      | some lastValue => simp [hnil]

/-- What is accepted: nothing but digits around one dash. -/
theorem parseRangeHeader_eq_some_iff {rangeHeader : SharedString} {range : Nat × Nat} :
    parseRangeHeader rangeHeader = some range ↔
      ∃ first last firstValue lastValue, rangeHeader = RangePrefix ++ first ++ byte '-' :: last ∧
        decimalLoop first 0 = some firstValue ∧ decimalLoop last 0 = some lastValue ∧
        range = (firstValue % 2 ^ 64, if last = [] then 2 ^ 64 - 1 else lastValue % 2 ^ 64) := by
  constructor
  · intro hparse
    have hshape : ∃ first last, rangeHeader = RangePrefix ++ first ++ byte '-' :: last ∧ byte '-' ∉ first ∧
        byte ',' ∉ first ++ last := by
      unfold parseRangeHeader at hparse
      split at hparse
      · cases hparse
      rename_i hprefix
      obtain ⟨rangeStr, rfl⟩ : RangePrefix <+: rangeHeader := by
        simpa [startsWith, List.isPrefixOf_iff_prefix] using hprefix
      simp only [List.drop_left] at hparse
      split at hparse
      · cases hparse
      rename_i hcomma
      cases hpos : rangeStr.findIdx? (· == byte '-') with
      | none =>
        rw [hpos] at hparse
        cases hparse
      | some pos =>
        obtain ⟨hpos, hdash, hbefore⟩ := List.findIdx?_eq_some_iff_getElem.mp hpos
        have hrange : rangeStr = rangeStr.take pos ++ byte '-' :: rangeStr.drop (pos + 1) := by
          rw [← beq_iff_eq.mp hdash, List.getElem_cons_drop, List.take_append_drop]
        refine ⟨rangeStr.take pos, rangeStr.drop (pos + 1), by rw [List.append_assoc, ← hrange], ?_, ?_⟩
        · intro hmem
          obtain ⟨i, hi, hget⟩ := List.mem_iff_getElem.mp hmem
          rw [List.length_take] at hi
          rw [List.getElem_take] at hget
          exact hbefore i (by omega) (beq_iff_eq.mpr hget)
        · intro hmem
          refine hcomma (List.contains_iff_mem.mpr ?_)
          exact (List.mem_append.mp hmem).elim List.mem_of_mem_take List.mem_of_mem_drop
    obtain ⟨first, last, rfl, hdash, hcomma⟩ := hshape
    rw [parseRangeHeader_eq hdash hcomma] at hparse
    obtain ⟨firstValue, hfirst, hparse⟩ := Option.bind_eq_some_iff.mp hparse
    obtain ⟨lastValue, hlast, rfl⟩ := Option.map_eq_some_iff.mp hparse
    exact ⟨first, last, firstValue, lastValue, rfl, hfirst, hlast, rfl⟩
  · rintro ⟨first, last, firstValue, lastValue, rfl, hfirst, hlast, rfl⟩
    obtain ⟨hdash, hcommaFirst⟩ := not_mem_of_decimalLoop hfirst
    have hcomma : byte ',' ∉ first ++ last := fun hmem =>
      (List.mem_append.mp hmem).elim hcommaFirst (not_mem_of_decimalLoop hlast).2
    rw [parseRangeHeader_eq hdash hcomma, hfirst, hlast]
    rfl

/-- Without a dash in front of the first dash a header is split in one way only. -/
theorem split_unique {first last first' last' : SharedString} (hdash : byte '-' ∉ first) (hdash' : byte '-' ∉ first')
    (heq : RangePrefix ++ first ++ byte '-' :: last = RangePrefix ++ first' ++ byte '-' :: last') :
    first = first' ∧ last = last' := by
  rw [List.append_assoc, List.append_assoc] at heq
  have hsplit := congrArg (List.splitOn (byte '-')) (List.append_cancel_left heq)
  rw [List.splitOn_append_cons_self_of_not_mem hdash, List.splitOn_append_cons_self_of_not_mem hdash'] at hsplit
  obtain ⟨rfl, -⟩ := List.cons.inj hsplit
  have hrest := List.append_cancel_left (List.append_cancel_left heq)
  exact ⟨rfl, (List.cons.inj hrest).2⟩

/-- Exactly single ranges are accepted, with what they mean, if and only if no position is missing or too large. -/
theorem parseRangeHeader_denotes_iff (rangeHeader : SharedString) :
    (∀ range, parseRangeHeader rangeHeader = some range ↔ DenotesRange rangeHeader range) ↔
      PositionsFit rangeHeader := by
  constructor
  · rintro hexact first last firstValue lastValue rfl hfirst hlast
    have hparse := parseRangeHeader_eq_some_iff.mpr ⟨first, last, firstValue, lastValue, rfl, hfirst, hlast, rfl⟩
    obtain ⟨first', last', heq, ⟨hfirst', hfirstFits⟩, hlast'⟩ := (hexact _).mp hparse
    obtain ⟨hne, hdigits⟩ := decimalValue_eq_some_iff.mp hfirst'
    obtain ⟨rfl, rfl⟩ := split_unique (not_mem_of_decimalLoop hfirst).1 (not_mem_of_decimalLoop hdigits).1 heq
    have hfirstValue : firstValue = firstValue % 2 ^ 64 := Option.some.inj (hfirst.symm.trans hdigits)
    refine ⟨hne, hfirstValue ▸ hfirstFits, ?_⟩
    rcases hlast' with ⟨rfl, -⟩ | ⟨hlast', hlastFits⟩
    · obtain rfl : lastValue = 0 := Option.some.inj hlast.symm
      exact Nat.two_pow_pos 64
    · rw [Option.some.inj (hlast.symm.trans (decimalValue_eq_some_iff.mp hlast').2)]
      exact hlastFits
  · intro hfits range
    rw [parseRangeHeader_eq_some_iff]
    constructor
    · rintro ⟨first, last, firstValue, lastValue, rfl, hfirst, hlast, rfl⟩
      obtain ⟨hne, hfirstFits, hlastFits⟩ := hfits first last firstValue lastValue rfl hfirst hlast
      rw [Nat.mod_eq_of_lt hfirstFits, Nat.mod_eq_of_lt hlastFits]
      refine ⟨first, last, rfl, ⟨decimalValue_eq_some_iff.mpr ⟨hne, hfirst⟩, hfirstFits⟩, ?_⟩
      by_cases hnil : last = []
      · exact .inl ⟨hnil, if_pos hnil⟩
      · simp only [if_neg hnil]
        exact .inr ⟨decimalValue_eq_some_iff.mpr ⟨hnil, hlast⟩, hlastFits⟩
    · rintro ⟨first, last, rfl, ⟨hfirst, hfirstFits⟩, hlast⟩
      obtain ⟨-, hfirst⟩ := decimalValue_eq_some_iff.mp hfirst
      rcases hlast with ⟨rfl, hopen⟩ | ⟨hlast, hlastFits⟩
      · refine ⟨first, [], range.1, 0, rfl, hfirst, rfl, ?_⟩
        rw [Nat.mod_eq_of_lt hfirstFits, if_pos rfl, ← hopen]
      · obtain ⟨hne, hlast⟩ := decimalValue_eq_some_iff.mp hlast
        refine ⟨first, last, range.1, range.2, rfl, hfirst, hlast, ?_⟩
        rw [Nat.mod_eq_of_lt hfirstFits, Nat.mod_eq_of_lt hlastFits, if_neg hne]

/-- The last five bytes are taken for the first six. -/
theorem parseRangeHeader_suffix_not_denotes :
    ¬ ∀ range, parseRangeHeader (text "bytes=-5") = some range ↔ DenotesRange (text "bytes=-5") range := by
  intro hexact
  obtain ⟨first, last, heq, ⟨hfirst, -⟩, -⟩ := (hexact (0, 5)).mp (by decide +kernel)
  obtain ⟨hne, hdigits⟩ := decimalValue_eq_some_iff.mp hfirst
  have hsuffix : text "bytes=-5" = RangePrefix ++ [] ++ byte '-' :: [byte '5'] := by decide +kernel
  rw [hsuffix] at heq
  exact hne (split_unique List.not_mem_nil (not_mem_of_decimalLoop hdigits).1 heq).1.symm

end cpv
