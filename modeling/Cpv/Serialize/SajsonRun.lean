import Cpv.Serialize.JsonDeserializer

namespace cpv.Sajson

section strings

/-- The bytes that the parser takes for UTF-8: behind the first byte of a
    character stand as many continuation bytes as it announces. Overlong forms
    and surrogates are not looked for. -/
def isLaxUtf8 : List UInt8 → Bool
  | [] => true
  | c :: str =>
    if c < 128 then isLaxUtf8 str
    else
      match continuationCount c with
      | none => false
      | some count =>
        count ≤ str.length && (str.take count).all isContinuation && isLaxUtf8 (str.drop count)
termination_by str => str.length
decreasing_by all_goals (simp only [List.length_drop, List.length_cons]; omega)

/-- The fast path over plain characters changes nothing. -/
theorem parseString_eq (p : List UInt8) : parseString p = parseStringSlow p := by
  have hplain : ∀ c : UInt8, isPlainStringCharacter c →
      ¬c < 0x20 ∧ c ≠ 0x22 ∧ c ≠ 0x5C ∧ c < 128 := forall_byte (by decide +kernel)
  induction p with
  | nil =>
    rw [parseStringSlow]
    rfl
  | cons c p ih =>
    by_cases hc : isPlainStringCharacter c
    · obtain ⟨hcontrol, hquote, hescape, hascii⟩ := hplain c hc
      have hread : readCharacter c p = .ok ([c], 0) := by
        unfold readCharacter
        rw [if_neg hescape, readUtf8, if_pos hascii]
      conv_rhs => rw [parseStringSlow, if_neg hcontrol, if_neg hquote, hread]
      simp only [List.drop_zero, ← ih]
      unfold parseString
      simp only [List.takeWhile_cons_of_pos hc, List.dropWhile_cons_of_pos hc]
      split
      · rfl
      · split
        · rfl
        · split
          · rfl
          · cases parseStringSlow _ <;> rfl
    · unfold parseString
      simp only [List.takeWhile_cons_of_neg hc, List.dropWhile_cons_of_neg hc]
      split
      · rename_i hquote
        subst hquote
        rw [parseStringSlow]
        rfl
      · split
        · rename_i hcontrol
          rw [parseStringSlow, if_pos hcontrol]
        · cases parseStringSlow _ <;> rfl

/-- The bytes of a character outside ASCII are written as they are. -/
theorem all_isContinuation_jsonEncode (str rest : List UInt8) (count : Nat) :
    (count ≤ (str.flatMap JsonEncodeMapping ++ 0x22 :: rest).length ∧
      ((str.flatMap JsonEncodeMapping ++ 0x22 :: rest).take count).all isContinuation) ↔
        count ≤ str.length ∧ (str.take count).all isContinuation := by
  have hmapping : ∀ c : UInt8, (JsonEncodeMapping c).head?.any isContinuation = isContinuation c ∧
      (isContinuation c → JsonEncodeMapping c = [c]) ∧ JsonEncodeMapping c ≠ [] :=
    forall_byte (by decide +kernel)
  induction count generalizing str with
  | zero => simp
  | succ count ih =>
    cases str with
    | nil => simp [isContinuation]
    | cons c str =>
      obtain ⟨hhead, hsame, hne⟩ := hmapping c
      by_cases hc : isContinuation c
      · simpa [hsame hc, hc] using ih str
      · cases heq : JsonEncodeMapping c with
        | nil => exact absurd heq hne
        | cons d mapped =>
          rw [heq] at hhead
          have hd : isContinuation d = false := by simpa [hc] using hhead
          simp [heq, hd, hc]

theorem take_jsonEncode {str : List UInt8} (rest : List UInt8) {count : Nat} (hle : count ≤ str.length)
    (hall : (str.take count).all isContinuation) :
    (str.flatMap JsonEncodeMapping ++ 0x22 :: rest).take count = str.take count ∧
      (str.flatMap JsonEncodeMapping ++ 0x22 :: rest).drop count =
        (str.drop count).flatMap JsonEncodeMapping ++ 0x22 :: rest := by
  have hmapping : ∀ c : UInt8, isContinuation c → JsonEncodeMapping c = [c] := forall_byte (by decide +kernel)
  induction count generalizing str with
  | zero => simp
  | succ count ih =>
    cases str with
    | nil => simp at hle
    | cons c str =>
      simp only [List.take_succ_cons, List.all_cons, Bool.and_eq_true] at hall
      obtain ⟨htake, hdrop⟩ := ih (by simpa using hle) hall.2
      simp [hmapping c hall.1, htake, hdrop]

/-- The three forms of the encoding of an ASCII byte -/
def isEncoded (c : UInt8) : List UInt8 → Bool
  | [d] => d == c && !(d < 0x20) && d != 0x22 && d != 0x5C
  | [d, e] => d == 0x5C && replacementOf e == some c
  | [d, u, e₁, e₂, e₃, e₄] => d == 0x5C && u == byte 'u' && (readHex [e₁, e₂, e₃, e₄]).toOption == some c.toNat
  | _ => false

theorem readCharacter_mapping {c : UInt8} (hc : c < 128) (rest : List UInt8) :
    ∃ d mapped, JsonEncodeMapping c = d :: mapped ∧ ¬d < 0x20 ∧ d ≠ 0x22 ∧
      readCharacter d (mapped ++ rest) = .ok ([c], mapped.length) := by
  have htable : ∀ c : UInt8, c < 128 → isEncoded c (JsonEncodeMapping c) := forall_byte (by decide +kernel)
  have hentry := htable c hc
  generalize JsonEncodeMapping c = encoded at hentry
  unfold isEncoded at hentry
  split at hentry
  · simp only [Bool.and_eq_true, Bool.not_eq_true', decide_eq_false_iff_not, beq_iff_eq, bne_iff_ne] at hentry
    obtain ⟨⟨⟨rfl, hcontrol⟩, hquote⟩, hescape⟩ := hentry
    refine ⟨_, [], rfl, hcontrol, hquote, ?_⟩
    unfold readCharacter
    rw [if_neg hescape, readUtf8, if_pos hc]
    rfl
  · rename_i d e
    simp only [Bool.and_eq_true, beq_iff_eq] at hentry
    obtain ⟨rfl, hreplacement⟩ := hentry
    refine ⟨_, [e], rfl, by decide, by decide, ?_⟩
    simp [readCharacter, hreplacement]
  · rename_i d u e₁ e₂ e₃ e₄
    simp only [Bool.and_eq_true, beq_iff_eq] at hentry
    obtain ⟨⟨rfl, rfl⟩, hhex⟩ := hentry
    refine ⟨_, [byte 'u', e₁, e₂, e₃, e₄], rfl, by decide, by decide, ?_⟩
    have hread : readHex [e₁, e₂, e₃, e₄] = .ok c.toNat := by
      cases hcase : readHex [e₁, e₂, e₃, e₄] with
      | error => simp [hcase, Except.toOption] at hhex
      | ok => simpa [hcase, Except.toOption] using hhex
    have hsmall : c.toNat < 128 := hc
    have hunicode : readUnicode (e₁ :: e₂ :: e₃ :: e₄ :: rest) = .ok ([c], 4) := by
      rw [readUnicode, if_neg (by simp)]
      simp [hread, Except.bind, writeUtf8, hsmall, show ¬0xD800 ≤ c.toNat by omega]
    have hunit : replacementOf (byte 'u') = none := by decide
    unfold readCharacter
    rw [if_pos rfl]
    simp only [List.cons_append, List.nil_append, hunit, if_true, hunicode]
    rfl
  · cases hentry

/-- Reading an encoded text back -/
theorem parseStringSlow_jsonEncode (str rest : List UInt8) :
    if isLaxUtf8 str then parseStringSlow (jsonEncode str ++ 0x22 :: rest) = .ok (str, rest)
    else ∃ error, parseStringSlow (jsonEncode str ++ 0x22 :: rest) = .error error := by
  have hraw : ∀ c : UInt8, ¬c < 128 → JsonEncodeMapping c = [c] ∧ ¬c < 0x20 ∧ c ≠ 0x22 ∧ c ≠ 0x5C :=
    forall_byte (by decide +kernel)
  rw [jsonEncode_eq]
  fun_induction isLaxUtf8 str with
  | case1 => simp [parseStringSlow]
  | case2 c str hc ih =>
    obtain ⟨d, mapped, heq, hcontrol, hquote, hread⟩ :=
      readCharacter_mapping hc (str.flatMap JsonEncodeMapping ++ 0x22 :: rest)
    have hstep : parseStringSlow ((c :: str).flatMap JsonEncodeMapping ++ 0x22 :: rest) =
        (parseStringSlow (str.flatMap JsonEncodeMapping ++ 0x22 :: rest)).map fun read => (c :: read.1, read.2) := by
      rw [List.flatMap_cons, heq, List.append_assoc, List.cons_append, parseStringSlow, if_neg hcontrol,
        if_neg hquote, hread]
      simp only [List.drop_left]
      rfl
    rw [hstep]
    split
    · rename_i hlax
      rw [if_pos hlax] at ih
      rw [ih]
      rfl
    · rename_i hlax
      rw [if_neg hlax] at ih
      obtain ⟨error, herror⟩ := ih
      exact ⟨error, by rw [herror]; rfl⟩
  | case3 c str hc hcount =>
    obtain ⟨hmapping, hcontrol, hquote, hescape⟩ := hraw c hc
    refine ⟨.invalidUtf8, ?_⟩
    rw [List.flatMap_cons, hmapping, List.singleton_append, List.cons_append, parseStringSlow, if_neg hcontrol,
      if_neg hquote]
    simp only [readCharacter, if_neg hescape, readUtf8, if_neg hc, hcount]
  | case4 c str hc count hcount ih =>
    obtain ⟨hmapping, hcontrol, hquote, hescape⟩ := hraw c hc
    have hcontinued := all_isContinuation_jsonEncode str rest count
    rw [List.flatMap_cons, hmapping, List.singleton_append, List.cons_append, parseStringSlow, if_neg hcontrol,
      if_neg hquote]
    by_cases hfits : count ≤ str.length ∧ (str.take count).all isContinuation
    · obtain ⟨hlength, hall⟩ := hcontinued.mpr hfits
      obtain ⟨htake, hdrop⟩ := take_jsonEncode rest hfits.1 hfits.2
      have hread : readCharacter c (str.flatMap JsonEncodeMapping ++ 0x22 :: rest) =
          .ok (c :: str.take count, count) := by
        unfold readCharacter
        rw [if_neg hescape, readUtf8, if_neg hc]
        simp only [hcount, if_neg (Nat.not_lt.mpr hlength), htake, hfits.2, if_true]
      simp only [hread, hdrop, hfits.1, hfits.2, decide_true, Bool.true_and]
      split
      · rename_i hlax
        rw [if_pos hlax] at ih
        rw [ih]
        simp [Except.map]
      · rename_i hlax
        rw [if_neg hlax] at ih
        obtain ⟨error, herror⟩ := ih
        exact ⟨error, by rw [herror]; rfl⟩
    · have hlax : ¬(decide (count ≤ str.length) && (str.take count).all isContinuation &&
          isLaxUtf8 (str.drop count)) := by
        simp only [Bool.and_eq_true, decide_eq_true_eq]
        exact fun hall => hfits hall.1
      rw [if_neg hlax]
      simp only [readCharacter, if_neg hescape, readUtf8, if_neg hc, hcount]
      by_cases hlength : (str.flatMap JsonEncodeMapping ++ 0x22 :: rest).length < count
      · exact ⟨.unexpectedEnd, by rw [if_pos hlength]⟩
      · refine ⟨.invalidUtf8, ?_⟩
        rw [if_neg hlength, if_neg fun hall => hfits (hcontinued.mp ⟨by omega, hall⟩)]

end strings

section keys

theorem keyLess_iff (lhs rhs : SharedString) :
    keyLess lhs rhs ↔ lhs.length < rhs.length ∨ lhs.length = rhs.length ∧ lhs < rhs := by
  simp [keyLess]

theorem not_keyLess_iff (lhs rhs : SharedString) :
    ¬keyLess lhs rhs ↔ rhs.length < lhs.length ∨ rhs.length = lhs.length ∧ rhs ≤ lhs := by
  rw [keyLess_iff, ← List.not_lt]
  constructor
  · intro h
    by_cases hlength : rhs.length < lhs.length
    · exact .inl hlength
    · exact .inr ⟨by omega, fun hlt => h (.inr ⟨by omega, hlt⟩)⟩
  · rintro (hlength | ⟨hlength, hle⟩) (hlength' | ⟨hlength', hlt⟩)
    · omega
    · omega
    · omega
    · exact hle hlt

theorem eq_of_not_keyLess {lhs rhs : SharedString} (h : ¬keyLess lhs rhs) (h' : ¬keyLess rhs lhs) : lhs = rhs := by
  rcases (not_keyLess_iff lhs rhs).mp h with hlength | ⟨hlength, hle⟩ <;>
    rcases (not_keyLess_iff rhs lhs).mp h' with hlength' | ⟨hlength', hle'⟩
  · omega
  · omega
  · omega
  · exact List.le_antisymm hle' hle

theorem pairwise_sorted (members : List (SharedString × Value)) :
    (members.mergeSort fun lhs rhs => !keyLess rhs.1 lhs.1).Pairwise fun lhs rhs => ¬keyLess rhs.1 lhs.1 := by
  have htrans : ∀ a b c : SharedString × Value, !keyLess b.1 a.1 → !keyLess c.1 b.1 → !keyLess c.1 a.1 := by
    intro a b c hab hbc
    simp only [Bool.not_eq_true', ← Bool.not_eq_true] at *
    rw [not_keyLess_iff] at *
    rcases hab with hab | ⟨hlength, hle⟩ <;> rcases hbc with hbc | ⟨hlength', hle'⟩
    · exact .inl (by omega)
    · exact .inl (by omega)
    · exact .inl (by omega)
    · exact .inr ⟨by omega, List.le_trans hle hle'⟩
  have htotal : ∀ a b : SharedString × Value, !keyLess b.1 a.1 || !keyLess a.1 b.1 := by
    intro a b
    rw [Bool.or_eq_true]
    by_cases h : keyLess b.1 a.1
    · right
      simp only [Bool.not_eq_true', ← Bool.not_eq_true]
      rw [not_keyLess_iff]
      rcases (keyLess_iff b.1 a.1).mp h with hlength | ⟨hlength, hlt⟩
      · exact .inl hlength
      · exact .inr ⟨hlength, List.le_of_lt hlt⟩
    · left
      simpa using h
  simpa using List.pairwise_mergeSort htrans htotal members

/-- The members of a document whose keys differ are found by their keys. -/
theorem getValueOfKey_installObject {members : List (SharedString × Value)}
    (hnodup : (members.map Prod.fst).Nodup) {key : SharedString} {value : Value} (hmem : (key, value) ∈ members) :
    Value.getValueOfKey (members.mergeSort fun lhs rhs => !keyLess rhs.1 lhs.1) key = some value := by
  have hsorted := pairwise_sorted members
  have hperm := List.mergeSort_perm members fun lhs rhs => !keyLess rhs.1 lhs.1
  generalize (members.mergeSort fun lhs rhs => !keyLess rhs.1 lhs.1) = sorted at hsorted hperm
  have hmem' := hperm.mem_iff.mpr hmem
  have hnodup' : (sorted.map Prod.fst).Nodup := (hperm.map Prod.fst).nodup_iff.mpr hnodup
  have hirrefl : ¬keyLess key key := by simp [keyLess_iff, List.lt_irrefl]
  clear hperm hmem hnodup
  induction sorted with
  | nil => cases hmem'
  | cons member sorted ih =>
    rw [List.pairwise_cons] at hsorted
    rw [List.map_cons, List.nodup_cons] at hnodup'
    unfold Value.getValueOfKey
    by_cases hless : keyLess member.1 key
    · rw [List.dropWhile_cons, if_pos hless]
      have hrest : (key, value) ∈ sorted := by
        rcases List.mem_cons.mp hmem' with rfl | hrest
        · exact absurd hless hirrefl
        · exact hrest
      exact ih hsorted.2 hrest hnodup'.2
    · rw [List.dropWhile_cons, if_neg hless]
      rcases List.mem_cons.mp hmem' with rfl | hrest
      · simp
      · have heq : member.1 = key := eq_of_not_keyLess hless (hsorted.1 _ hrest)
        exact absurd (heq ▸ List.mem_map_of_mem hrest) hnodup'.1

end keys

namespace ParserState

theorem run_goto {state next : ParserState} (h : state.step = .ok (.goto next)) : state.run = next.run := by
  rw [run]
  split
  all_goals rename_i heq; rw [h] at heq; cases heq
  rfl

theorem run_document {state : ParserState} {root : Value} (h : state.step = .ok (.document root)) :
    state.run = .ok root := by
  rw [run]
  split
  all_goals rename_i heq; rw [h] at heq; cases heq
  rfl

theorem run_error {state : ParserState} {error : Error} (h : state.step = .error error) :
    state.run = .error error := by
  rw [run]
  split
  all_goals rename_i heq; rw [h] at heq; cases heq
  rfl

theorem step_eq {state : ParserState} {c : UInt8} {p : List UInt8} (hp : state.p = c :: p) (hc : !isWhitespace c) :
    state.step = state.stepAt c p := by
  have hskip : skipWhitespace (c :: p) = c :: p := List.dropWhile_cons_of_neg (by simpa using hc)
  rw [step, hp, hskip]

/-- An integer is read and pushed, whether it fits or is a double. -/
theorem run_integer {n : Int} {literal : List UInt8} (h : IntegerLiteral n literal) {follow : List UInt8}
    (hfollow : EndsNumber follow) (current : Structure) (parents : List Structure) :
    ∃ value, (n.natAbs ≤ largestInteger → value = .integer n) ∧
      (largestInteger < n.natAbs → ∃ d, value = .double d) ∧
      run ⟨.nextElement, literal ++ follow, current, parents⟩ =
        run ⟨.structureCloseOrComma, follow, current.push value, parents⟩ := by
  obtain ⟨value, hparse, hinteger, hdouble⟩ := parseNumber_literal h hfollow
  refine ⟨value, hinteger, hdouble, run_goto ?_⟩
  have htable : ∀ c : UInt8, (isDigit c ∨ c = byte '-') → !isWhitespace c ∧ c ≠ 0 ∧ c ≠ byte 'n' ∧
      c ≠ byte 'f' ∧ c ≠ byte 't' := forall_byte (by decide +kernel)
  obtain ⟨c, tail, htext, hc⟩ : ∃ c tail, literal = c :: tail ∧ (isDigit c ∨ c = byte '-') := by
    cases h with
    | intro negative hint =>
      obtain ⟨d, digits, rfl, hd⟩ := hint.head
      cases negative with
      | true => exact ⟨_, _, rfl, .inr rfl⟩
      | false => exact ⟨_, _, rfl, .inl (isDigit_spec hd).1⟩
  obtain ⟨hws, hnul, hn, hf, ht⟩ := htable c hc
  rw [htext, List.cons_append] at hparse ⊢
  rw [step_eq rfl hws]
  simp only [stepAt, nextElement, if_neg hnul, if_neg hn, if_neg hf, if_neg ht, if_pos hc, hparse, Except.map,
    pushValue]

/-- An encoded string is read and pushed, or the document is refused. -/
theorem run_string (str follow : List UInt8) (current : Structure) (parents : List Structure) :
    if isLaxUtf8 str then
      run ⟨.nextElement, 0x22 :: (jsonEncode str ++ 0x22 :: follow), current, parents⟩ =
        run ⟨.structureCloseOrComma, follow, current.push (.string str), parents⟩
    else ∃ error, run ⟨.nextElement, 0x22 :: (jsonEncode str ++ 0x22 :: follow), current, parents⟩ = .error error := by
  have hslow := parseStringSlow_jsonEncode str follow
  have hstep : step ⟨.nextElement, 0x22 :: (jsonEncode str ++ 0x22 :: follow), current, parents⟩ =
      (parseStringSlow (jsonEncode str ++ 0x22 :: follow)).map fun read =>
        .goto ⟨.structureCloseOrComma, read.2, current.push (.string read.1), parents⟩ := by
    rw [step_eq rfl (by decide)]
    simp only [stepAt]
    rw [← parseString_eq]
    rfl
  split
  · rename_i hlax
    rw [if_pos hlax] at hslow
    exact run_goto (by rw [hstep, hslow]; rfl)
  · rename_i hlax
    rw [if_neg hlax] at hslow
    obtain ⟨error, herror⟩ := hslow
    exact ⟨error, run_error (by rw [hstep, herror]; rfl)⟩

/-- A key of plain characters and its colon -/
theorem run_key {key : SharedString} (hkey : key.all isPlainStringCharacter) (rest : List UInt8)
    (members : List (SharedString × Value)) (last : SharedString) (parents : List Structure) :
    run ⟨.objectKey, 0x22 :: (key ++ 0x22 :: byte ':' :: rest), .object members last, parents⟩ =
      run ⟨.nextElement, rest, .object members key, parents⟩ := by
  have hstring : parseString (key ++ 0x22 :: byte ':' :: rest) = .ok (key, byte ':' :: rest) := by
    have hplain := List.all_eq_true.mp hkey
    rw [parseString, List.takeWhile_append_of_pos hplain, List.dropWhile_append_of_pos hplain,
      List.takeWhile_cons_of_neg (by decide), List.dropWhile_cons_of_neg (by decide)]
    simp
  apply run_goto
  rw [step_eq rfl (by decide)]
  have hskip : skipWhitespace (byte ':' :: rest) = byte ':' :: rest := List.dropWhile_cons_of_neg (by decide)
  simp only [stepAt, objectKey, ne_eq, not_true_eq_false, if_false, hstring, Except.bind, hskip, Structure.setKey]

theorem run_comma (rest : List UInt8) (members : List (SharedString × Value)) (last : SharedString)
    (parents : List Structure) :
    run ⟨.structureCloseOrComma, byte ',' :: rest, .object members last, parents⟩ =
      run ⟨.objectKey, rest, .object members last, parents⟩ := by
  apply run_goto
  rw [step_eq rfl (by decide)]
  rfl

end ParserState

end cpv.Sajson
