import Cpv.Core.Json

namespace Json

/-- What may follow a value: nothing that would continue a number. -/
def Ends (rest : List UInt8) : Prop :=
  ∀ c ∈ rest.head?, !isDigit c ∧ c ≠ 0x2E ∧ c ≠ 0x65 ∧ c ≠ 0x45

theorem ends_nil : Ends [] := by simp [Ends]

theorem ends_cons {c : UInt8} (h : !isDigit c ∧ c ≠ 0x2E ∧ c ≠ 0x65 ∧ c ≠ 0x45) (rest : List UInt8) :
    Ends (c :: rest) := by
  simpa [Ends] using h

theorem isWs_ends {c : UInt8} (h : isWs c) : !isDigit c ∧ c ≠ 0x2E ∧ c ≠ 0x65 ∧ c ≠ 0x45 := by
  simp only [isWs, Bool.or_eq_true, beq_iff_eq] at h
  obtain ((rfl | rfl) | rfl) | rfl := h <;> decide

theorem IsWs.ends {ws rest : List UInt8} (hws : IsWs ws) (hrest : Ends rest) : Ends (ws ++ rest) := by
  cases ws with
  | nil => exact hrest
  | cons c ws => exact ends_cons (isWs_ends (hws c List.mem_cons_self)) _

theorem IsWs.skipWs {ws rest : List UInt8} (hws : IsWs ws) (hrest : ∀ c ∈ rest.head?, !isWs c) :
    Json.skipWs (ws ++ rest) = rest := by
  unfold Json.skipWs
  rw [List.dropWhile_append_of_pos hws]
  cases rest with
  | nil => rfl
  | cons c rest => exact List.dropWhile_cons_of_neg (by simpa using hrest c rfl)

theorem IsWs.skipWs_cons {ws : List UInt8} (hws : IsWs ws) {c : UInt8} (hc : !isWs c) (rest : List UInt8) :
    Json.skipWs (ws ++ c :: rest) = c :: rest :=
  hws.skipWs (by simpa using hc)

section numbers

theorem takeWhile_digits {digits rest : List UInt8} (hdigits : ∀ d ∈ digits, isDigit d)
    (hrest : ∀ c ∈ rest.head?, !isDigit c) :
    (digits ++ rest).takeWhile isDigit = digits ∧ (digits ++ rest).dropWhile isDigit = rest := by
  rw [List.takeWhile_append_of_pos hdigits, List.dropWhile_append_of_pos hdigits]
  cases rest with
  | nil => simp
  | cons c rest =>
    have hc : ¬isDigit c := by simpa using hrest c rfl
    rw [List.takeWhile_cons_of_neg hc, List.dropWhile_cons_of_neg hc, List.append_nil]
    exact ⟨rfl, rfl⟩

theorem IntText.parse {int : List UInt8} (h : IntText int) {rest : List UInt8}
    (hrest : ∀ c ∈ rest.head?, !isDigit c) : parseInt (int ++ rest) = some (int, rest) := by
  cases h with
  | zero => rfl
  | nonzero hc hne hdigits =>
    obtain ⟨htake, hdrop⟩ := takeWhile_digits hdigits hrest
    rw [List.cons_append, parseInt, if_neg hne, if_pos hc, htake, hdrop]

theorem FracText.parse {frac digits : List UInt8} (h : FracText frac digits) {rest : List UInt8}
    (hrest : ∀ c ∈ rest.head?, !isDigit c ∧ c ≠ 0x2E) : parseFrac (frac ++ rest) = some (digits, rest) := by
  cases h with
  | none =>
    rw [List.nil_append]
    unfold parseFrac
    split
    · exact absurd rfl (hrest _ rfl).2
    · rfl
  | point hne hdigits =>
    obtain ⟨htake, hdrop⟩ := takeWhile_digits hdigits fun c hc => (hrest c hc).1
    rw [List.cons_append, parseFrac, htake, hdrop, if_neg hne]

theorem SignText.parse {sign : List UInt8} {negative : Bool} (h : SignText sign negative)
    {digits rest : List UInt8} (hne : digits ≠ []) (hdigits : ∀ d ∈ digits, isDigit d) :
    parseSign (sign ++ (digits ++ rest)) = (negative, digits ++ rest) := by
  cases h with
  | none =>
    cases digits with
    | nil => exact absurd rfl hne
    | cons d digits =>
      have hd := hdigits d List.mem_cons_self
      rw [List.nil_append, List.cons_append]
      unfold parseSign
      split
      · rename_i heq
        rw [(List.cons.inj heq).1] at hd
        cases hd
      · rename_i heq
        rw [(List.cons.inj heq).1] at hd
        cases hd
      · rfl
  | plus => rfl
  | minus => rfl

theorem ExpText.parse {exp : List UInt8} {exponent : Int} (h : ExpText exp exponent) {rest : List UInt8}
    (hrest : Ends rest) : parseExp (exp ++ rest) = some (exponent, rest) := by
  cases h with
  | none =>
    cases rest with
    | nil => rfl
    | cons c rest =>
      obtain ⟨_, _, hlower, hupper⟩ := hrest c rfl
      rw [List.nil_append, parseExp, if_neg (by simp [hlower, hupper])]
  | exp he hsign hne hdigits =>
    obtain ⟨htake, hdrop⟩ := takeWhile_digits hdigits fun c hc => (hrest c hc).1
    rw [List.cons_append, List.append_assoc, parseExp, if_pos he, hsign.parse hne hdigits]
    simp only [htake, hdrop, if_neg hne]

theorem FracText.head {frac digits : List UInt8} (h : FracText frac digits) {rest : List UInt8}
    (hrest : ∀ c ∈ rest.head?, !isDigit c) : ∀ c ∈ (frac ++ rest).head?, !isDigit c := by
  cases h with
  | none => exact hrest
  | point hne hdigits =>
    intro c hc
    cases hc
    rfl

theorem ExpText.head {exp : List UInt8} {exponent : Int} (h : ExpText exp exponent) {rest : List UInt8}
    (hrest : Ends rest) : ∀ c ∈ (exp ++ rest).head?, !isDigit c ∧ c ≠ 0x2E := by
  cases h with
  | none => exact fun c hc => ⟨(hrest c hc).1, (hrest c hc).2.1⟩
  | exp he hsign hne hdigits =>
    intro c hc
    cases hc
    obtain rfl | rfl := he <;> decide

/-- The first character of `int`, and of a number without a sign -/
theorem IntText.head {int : List UInt8} (h : IntText int) : ∃ c tail, int = c :: tail ∧ isDigit c := by
  cases h with
  | zero => exact ⟨_, _, rfl, rfl⟩
  | nonzero hc => exact ⟨_, _, rfl, hc⟩

theorem NumberText.parse {text : List UInt8} {mantissa exponent : Int} (h : NumberText text mantissa exponent)
    {rest : List UInt8} (hrest : Ends rest) :
    parseNumber (text ++ rest) = some (.number mantissa exponent, rest) := by
  cases h with
  | @intro int frac digits exp exponent negative hint hfrac hexp =>
    have hminus : parseMinus ((if negative then [0x2D] else []) ++ (int ++ (frac ++ (exp ++ rest)))) =
        (negative, int ++ (frac ++ (exp ++ rest))) := by
      cases negative with
      | true => rfl
      | false =>
        obtain ⟨c, tail, rfl, hc⟩ := hint.head
        simp only [Bool.false_eq_true, if_false, List.nil_append, List.cons_append]
        unfold parseMinus
        split
        · rename_i heq
          rw [(List.cons.inj heq).1] at hc
          cases hc
        · rfl
    have hexpHead := hexp.head hrest
    simp only [List.append_assoc]
    rw [parseNumber, hminus]
    simp only [hint.parse (hfrac.head fun c hc => (hexpHead c hc).1), hfrac.parse hexpHead, hexp.parse hrest,
      Option.bind_some, Option.map_some]

theorem NumberText.head {text : List UInt8} {mantissa exponent : Int} (h : NumberText text mantissa exponent) :
    ∃ c tail, text = c :: tail ∧ (c = 0x2D ∨ isDigit c) := by
  cases h with
  | intro negative hint hfrac hexp =>
    cases negative with
    | true => exact ⟨_, _, rfl, .inl rfl⟩
    | false =>
      obtain ⟨c, tail, rfl, hc⟩ := hint.head
      exact ⟨c, _, rfl, .inr hc⟩

end numbers

section strings

theorem CharText.parse {char bytes : List UInt8} (h : CharText char bytes) (rest : List UInt8) :
    ∃ c read, char = c :: read ∧ c ≠ 0x22 ∧ readChar c (read ++ rest) = some (bytes, read.length) := by
  cases h with
  | unescaped hcontrol hquote hescape =>
    refine ⟨_, [], rfl, hquote, ?_⟩
    unfold readChar
    rw [if_neg hescape, if_pos ⟨hcontrol, hquote⟩]
    rfl
  | @escape c d h =>
    refine ⟨_, [c], rfl, by decide, ?_⟩
    have hunit : c ≠ 0x75 := by
      rintro rfl
      cases h
    simp [readChar, hunit, h]
  | unit h hplane =>
    refine ⟨_, [_, _, _, _, _], rfl, by decide, ?_⟩
    simp [readChar, readUnit, h, hplane]
  | @pair _ _ _ _ _ _ _ _ high _ hhigh hlow hhighRange hlowRange =>
    refine ⟨_, [_, _, _, _, _, _, _, _, _, _, _], rfl, by decide, ?_⟩
    have hsurrogate : ¬(high < 0xD800 ∨ 0xDFFF < high) := by omega
    simp [readChar, readUnit, hhigh, hlow, hsurrogate, hhighRange.2, hlowRange]

theorem StringText.parse {text str : List UInt8} (h : StringText text str) (rest : List UInt8) :
    parseString (text ++ 0x22 :: rest) = some (str, rest) := by
  induction h with
  | nil =>
    rw [List.nil_append, parseString, if_pos rfl]
  | @cons char bytes text str hchar htext ih =>
    obtain ⟨c, read, rfl, hquote, hread⟩ := hchar.parse (text ++ 0x22 :: rest)
    rw [List.append_assoc, List.cons_append, parseString, if_neg hquote, hread]
    simp only [List.drop_left, ih, Option.map_some]

end strings

section values

/-- The first character of a value is no whitespace and ends nothing. -/
theorem ValueText.head {value : Value} {text : List UInt8} (h : ValueText value text) :
    ∃ c tail, text = c :: tail ∧ !isWs c ∧ c ≠ 0x5D := by
  cases h with
  | number h =>
    obtain ⟨c, tail, rfl, hc⟩ := h.head
    refine ⟨c, tail, rfl, ?_⟩
    rcases hc with rfl | hdigit
    · decide
    · constructor
      · by_contra hws
        have hends := isWs_ends (by simpa using hws)
        simp [hdigit] at hends
      · rintro rfl
        cases hdigit
  | _ => exact ⟨_, _, rfl, by decide, by decide⟩

theorem ItemsText.head {items : List Value} {text : List UInt8} (h : ItemsText items text) :
    ∃ c tail, text = c :: tail ∧ !isWs c ∧ c ≠ 0x5D := by
  cases h with
  | one h =>
    obtain ⟨c, tail, rfl, hc⟩ := h.head
    exact ⟨c, _, rfl, hc⟩
  | cons h =>
    obtain ⟨c, tail, rfl, hc⟩ := h.head
    exact ⟨c, _, rfl, hc⟩

theorem MembersText.head {members : List (List UInt8 × Value)} {text : List UInt8}
    (h : MembersText members text) : ∃ tail, text = 0x22 :: tail := by
  cases h with
  | one h =>
    cases h
    exact ⟨_, rfl⟩
  | cons h =>
    cases h
    exact ⟨_, rfl⟩

theorem parseValue_number {c : UInt8} (hc : c = 0x2D ∨ isDigit c) (fuel : Nat) (tail : List UInt8) :
    parseValue (fuel + 1) (c :: tail) = parseNumber (c :: tail) := by
  unfold parseValue
  split <;> first
    | rfl
    | rename_i heq
      rw [(List.cons.inj heq).1] at hc
      exact absurd hc (by decide)

mutual

theorem ValueText.parse {value : Value} {text : List UInt8} (h : ValueText value text) {fuel : Nat}
    (hfuel : 3 * text.length + 1 ≤ fuel) {rest : List UInt8} (hrest : Ends rest) :
    parseValue fuel (text ++ rest) = some (value, rest) := by
  obtain ⟨fuel, rfl⟩ : ∃ fuel', fuel = fuel' + 1 := ⟨fuel - 1, by omega⟩
  match h with
  | .null => rfl
  | .false => rfl
  | .true => rfl
  | .number h =>
    obtain ⟨c, tail, rfl, hc⟩ := h.head
    rw [List.cons_append, parseValue_number hc, ← List.cons_append, h.parse hrest]
  | .string h =>
    rw [List.cons_append, List.append_assoc, parseValue]
    simp only [List.singleton_append, h.parse, Option.map_some]
  | .emptyArray hws =>
    rw [List.cons_append, List.append_assoc, parseValue]
    simp only [List.singleton_append, hws.skipWs_cons (show !isWs 0x5D by decide)]
  | .array hws hitems =>
    have hparse : parseItems fuel (_ ++ 0x5D :: rest) = some (_, rest) :=
      hitems.parse (by simp at hfuel; omega) rest
    obtain ⟨c, tail, rfl, hc, hend⟩ := hitems.head
    rw [List.cons_append, List.append_assoc, List.append_assoc, parseValue]
    simp only [List.cons_append, List.nil_append, hws.skipWs_cons hc] at hparse ⊢
    split
    · rename_i heq
      exact absurd (List.cons.inj heq).1 hend
    · rw [hparse]
      rfl
  | .emptyObject hws =>
    rw [List.cons_append, List.append_assoc, parseValue]
    simp only [List.singleton_append, hws.skipWs_cons (show !isWs 0x7D by decide)]
  | .object hws hmembers =>
    have hparse : parseMembers fuel (_ ++ 0x7D :: rest) = some (_, rest) :=
      hmembers.parse (by simp at hfuel; omega) rest
    obtain ⟨tail, rfl⟩ := hmembers.head
    rw [List.cons_append, List.append_assoc, List.append_assoc, parseValue]
    simp only [List.cons_append, List.nil_append, hws.skipWs_cons (show !isWs 0x22 by decide)] at hparse ⊢
    exact congrArg (Option.map _) hparse

theorem ItemsText.parse {items : List Value} {text : List UInt8} (h : ItemsText items text) {fuel : Nat}
    (hfuel : 3 * text.length + 2 ≤ fuel) (rest : List UInt8) :
    parseItems fuel (text ++ 0x5D :: rest) = some (items, rest) := by
  obtain ⟨fuel, rfl⟩ : ∃ fuel', fuel = fuel' + 1 := ⟨fuel - 1, by omega⟩
  match h with
  | .one h hws =>
    rw [List.append_assoc, parseItems,
      h.parse (by simp at hfuel; omega) (hws.ends (ends_cons (by decide) rest))]
    simp only [hws.skipWs_cons (show !isWs 0x5D by decide)]
  | .cons h hws hws' hitems =>
    have hparse : parseItems fuel (_ ++ 0x5D :: rest) = some (_, rest) :=
      hitems.parse (by simp at hfuel; omega) rest
    obtain ⟨c, tail, rfl, hc, -⟩ := hitems.head
    rw [List.append_assoc, List.append_assoc, List.cons_append, parseItems,
      h.parse (by simp at hfuel; omega) (hws.ends (ends_cons (by decide) _))]
    simp only [List.cons_append, List.append_assoc, hws.skipWs_cons (show !isWs 0x2C by decide),
      hws'.skipWs_cons hc] at hparse ⊢
    rw [hparse]
    rfl

theorem MemberText.parse {key : List UInt8} {value : Value} {text : List UInt8} (h : MemberText key value text)
    {fuel : Nat} (hfuel : 3 * text.length + 2 ≤ fuel) {rest : List UInt8} (hrest : Ends rest) :
    parseMember fuel (text ++ rest) = some ((key, value), rest) := by
  obtain ⟨fuel, rfl⟩ : ∃ fuel', fuel = fuel' + 1 := ⟨fuel - 1, by omega⟩
  match h with
  | .intro hkey hws hws' h =>
    have hparse : parseValue fuel (_ ++ rest) = some (_, rest) := h.parse (by simp at hfuel; omega) hrest
    obtain ⟨c, tail, rfl, hc, -⟩ := h.head
    simp only [List.cons_append, List.append_assoc] at hparse ⊢
    rw [parseMember]
    simp only [hkey.parse, Option.bind_some, hws.skipWs_cons (show !isWs 0x3A by decide),
      hws'.skipWs_cons hc, hparse, Option.map_some]

theorem MembersText.parse {members : List (List UInt8 × Value)} {text : List UInt8}
    (h : MembersText members text) {fuel : Nat} (hfuel : 3 * text.length + 3 ≤ fuel) (rest : List UInt8) :
    parseMembers fuel (text ++ 0x7D :: rest) = some (members, rest) := by
  obtain ⟨fuel, rfl⟩ : ∃ fuel', fuel = fuel' + 1 := ⟨fuel - 1, by omega⟩
  match h with
  | .one h hws =>
    rw [List.append_assoc, parseMembers,
      h.parse (by simp at hfuel; omega) (hws.ends (ends_cons (by decide) rest))]
    simp only [hws.skipWs_cons (show !isWs 0x7D by decide)]
  | .cons h hws hws' hmembers =>
    have hparse : parseMembers fuel (_ ++ 0x7D :: rest) = some (_, rest) :=
      hmembers.parse (by simp at hfuel; omega) rest
    obtain ⟨tail, rfl⟩ := hmembers.head
    rw [List.append_assoc, List.append_assoc, List.cons_append, parseMembers,
      h.parse (by simp at hfuel; omega) (hws.ends (ends_cons (by decide) _))]
    simp only [List.cons_append, List.append_assoc, hws.skipWs_cons (show !isWs 0x2C by decide),
      hws'.skipWs_cons (show !isWs 0x22 by decide)] at hparse ⊢
    rw [hparse]
    rfl

end

/-- The parser reads every JSON text, as the value that it is a text of. -/
theorem parse_complete {value : Value} {text : List UInt8} (h : IsText value text) :
    parse text = some value := by
  obtain ⟨before, inner, after, rfl, hbefore, hvalue, hafter⟩ := h
  have hends : Ends after := by simpa using hafter.ends ends_nil
  have hparse : parseValue (3 * (before ++ (inner ++ after)).length + 1) (inner ++ after) = some (value, after) :=
    hvalue.parse (by simp; omega) hends
  obtain ⟨c, tail, rfl, hc, -⟩ := hvalue.head
  rw [parse, List.cons_append, hbefore.skipWs_cons hc, ← List.cons_append, hparse]
  have hend : skipWs (after ++ []) = [] := hafter.skipWs (by simp)
  rw [List.append_nil] at hend
  simp only [hend, if_true]

/-- The reader takes exactly the texts of the grammar. -/
theorem parse_eq_some_iff {value : Value} {text : List UInt8} : parse text = some value ↔ IsText value text :=
  ⟨parse_sound, parse_complete⟩

end values

end Json
