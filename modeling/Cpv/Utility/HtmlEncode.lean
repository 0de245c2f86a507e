import Cpv.Utility.SharedString

namespace cpv

/-- The entities that `htmlEncode` writes. -/
def htmlEntities : List SharedString := [text "&quot;", text "&amp;", text "&#x27;", text "&lt;", text "&gt;"]

/-- The table of `htmlEncode`. Its entries are views of C strings, so that of the zero byte is empty. -/
def HtmlEncodeMapping (c : UInt8) : SharedString :=
  if c = 0 then []
  else if c = byte '"' then text "&quot;"
  else if c = byte '&' then text "&amp;"
  else if c = byte '\'' then text "&#x27;"
  else if c = byte '<' then text "&lt;"
  else if c = byte '>' then text "&gt;"
  else [c]

/-- The size `htmlEncode` computes before it encodes. -/
def htmlEncodedSize (str : SharedString) : Nat := (str.map fun c => (HtmlEncodeMapping c).length).sum

/-- Encode string for use in html -/
def htmlEncode (str : SharedString) : SharedString :=
  -- no change, return original string
  if htmlEncodedSize str = str.length then str else str.flatMap HtmlEncodeMapping

/-- The characters with a meaning in html. -/
def htmlSpecials : SharedString := [byte '<', byte '>', byte '&', byte '"', byte '\'']

/-- A text without the characters that open or close tags and attribute values, in which every '&' starts one of the
    entities. -/
structure HtmlSafe (str : SharedString) : Prop where
  quoted : ∀ c ∈ str, c ≠ byte '<' ∧ c ≠ byte '>' ∧ c ≠ byte '"' ∧ c ≠ byte '\''
  entities : ∀ before after, str = before ++ byte '&' :: after → ∃ entity ∈ htmlEntities, entity <+: byte '&' :: after

theorem htmlSafe_nil : HtmlSafe [] where
  quoted := nofun
  entities before after heq := by cases before <;> cases heq

theorem HtmlSafe.plain {c : UInt8} {rest : SharedString} (hc : c ∉ htmlSpecials) (hrest : HtmlSafe rest) :
    HtmlSafe (c :: rest) := by
  simp only [htmlSpecials, List.mem_cons, List.not_mem_nil, or_false, not_or] at hc
  obtain ⟨hless, hgreater, hand, hquote, happly⟩ := hc
  constructor
  · intro d hd
    rcases List.mem_cons.mp hd with rfl | hd
    · exact ⟨hless, hgreater, hquote, happly⟩
    · exact hrest.quoted d hd
  · intro before after heq
    cases before with
    | nil => exact absurd (List.cons.inj heq).1 hand
    | cons d before => exact hrest.entities before after (List.cons.inj heq).2

theorem HtmlSafe.entity {entity rest : SharedString} (hentity : entity ∈ htmlEntities) (hrest : HtmlSafe rest) :
    HtmlSafe (entity ++ rest) := by
  have hhead : ∃ tail, entity = byte '&' :: tail ∧ ∀ c ∈ tail, c ∉ htmlSpecials := by
    simp only [htmlEntities, List.mem_cons, List.not_mem_nil, or_false] at hentity
    rcases hentity with rfl | rfl | rfl | rfl | rfl <;> exact ⟨_, rfl, by decide +kernel⟩
  obtain ⟨tail, rfl, htail⟩ := hhead
  have hsafe : HtmlSafe (tail ++ rest) := by
    clear hentity
    induction tail with
    | nil => exact hrest
    | cons c tail ih =>
      exact (ih fun d hd => htail d (.tail _ hd)).plain (htail c (.head _))
  constructor
  · intro c hc
    rcases List.mem_cons.mp hc with rfl | hc
    · decide
    · exact hsafe.quoted c hc
  · intro before after heq
    cases before with
    | nil => exact ⟨_, hentity, rest, heq⟩
    | cons d before => exact hsafe.entities before after (List.cons.inj heq).2

/-- Every special character is written as an entity, every other one as it is but the zero byte. -/
theorem HtmlEncodeMapping_cases (c : UInt8) :
    HtmlEncodeMapping c ∈ htmlEntities ∨ HtmlEncodeMapping c = [] ∨ HtmlEncodeMapping c = [c] ∧ c ∉ htmlSpecials := by
  revert c
  exact forall_byte (by decide +kernel)

theorem htmlSafe_flatMap (str : SharedString) : HtmlSafe (str.flatMap HtmlEncodeMapping) := by
  induction str with
  | nil => exact htmlSafe_nil
  | cons c str ih =>
    rw [List.flatMap_cons]
    rcases HtmlEncodeMapping_cases c with hentity | hempty | ⟨hplain, hc⟩
    · exact ih.entity hentity
    · rwa [hempty]
    · rw [hplain]
      exact ih.plain hc

theorem htmlSafe_of_plain {str : SharedString} (hplain : ∀ c ∈ str, c ∉ htmlSpecials) : HtmlSafe str := by
  induction str with
  | nil => exact htmlSafe_nil
  | cons c str ih => exact (ih fun d hd => hplain d (.tail _ hd)).plain (hplain c (.head _))

/-- How many bytes longer a text becomes by its entities. -/
def htmlGrowth (str : SharedString) : Nat :=
  3 * str.count (byte '<') + 3 * str.count (byte '>') + 4 * str.count (byte '&') + 5 * str.count (byte '"') +
    5 * str.count (byte '\'')

/-- Encoding adds what the entities take, and drops the zero bytes. -/
theorem htmlEncodedSize_add (str : SharedString) :
    htmlEncodedSize str + str.count 0 = str.length + htmlGrowth str := by
  have hbyte : ∀ c : UInt8, (HtmlEncodeMapping c).length + [c].count 0 = 1 + htmlGrowth [c] :=
    forall_byte (by decide +kernel)
  induction str with
  | nil => rfl
  | cons c str ih =>
    have hc := hbyte c
    simp only [htmlEncodedSize, htmlGrowth, List.map_cons, List.sum_cons, List.length_cons, List.count_cons,
      List.count_nil] at hc ih ⊢
    omega

theorem htmlGrowth_eq_zero {str : SharedString} : htmlGrowth str = 0 ↔ ∀ c ∈ str, c ∉ htmlSpecials := by
  simp only [htmlGrowth, Nat.add_eq_zero_iff, Nat.mul_eq_zero, List.count_eq_zero, htmlSpecials, List.mem_cons,
    List.not_mem_nil, or_false, not_or]
  constructor
  · rintro ⟨⟨⟨⟨hless, hgreater⟩, hand⟩, hquote⟩, happly⟩ c hc
    grind
  · intro hplain
    grind

/-- What `htmlEncode` owes to its callers: a safe text, and no text left as it is for its length alone. -/
structure HtmlEncodedSafely (str : SharedString) : Prop where
  safe : HtmlSafe (htmlEncode str)
  unchanged : htmlEncodedSize str = str.length → ∀ c ∈ str, c ∉ htmlSpecials

/-- A text is encoded safely unless it has special characters, and as many zero bytes as they make it longer. -/
theorem htmlEncodedSafely_iff (str : SharedString) :
    HtmlEncodedSafely str ↔ (∀ c ∈ str, c ∉ htmlSpecials) ∨ str.count 0 ≠ htmlGrowth str := by
  have hsize : htmlEncodedSize str = str.length ↔ str.count 0 = htmlGrowth str := by
    have hadd := htmlEncodedSize_add str
    omega
  constructor
  · intro hsafely
    by_cases hcount : str.count 0 = htmlGrowth str
    · exact .inl (hsafely.unchanged (hsize.mpr hcount))
    · exact .inr hcount
  · intro hcases
    have hunchanged : htmlEncodedSize str = str.length → ∀ c ∈ str, c ∉ htmlSpecials := by
      intro heq
      rcases hcases with hplain | hcount
      · exact hplain
      · exact absurd (hsize.mp heq) hcount
    refine ⟨?_, hunchanged⟩
    unfold htmlEncode
    split
    · rename_i heq
      exact htmlSafe_of_plain (hunchanged heq)
    · exact htmlSafe_flatMap str

/-- Three zero bytes make up for the entity of a '<'. -/
theorem not_htmlEncodedSafely_zeros : ¬ HtmlEncodedSafely ([0, 0, 0] ++ text "<script>" ++ [0, 0, 0]) := by
  intro hsafely
  have hmem : byte '<' ∈ htmlEncode ([0, 0, 0] ++ text "<script>" ++ [0, 0, 0]) := by decide +kernel
  exact (hsafely.safe.quoted _ hmem).1 rfl

end cpv
