import Cpv.Utility.HttpUtils

namespace cpv

/-- The bytes that `urlDecode` takes for a hexadecimal digit. -/
def isHexDigit (c : UInt8) : Bool :=
  (byte '0' ≤ c && c ≤ byte '9') || (byte 'a' ≤ c && c ≤ byte 'f') || (byte 'A' ≤ c && c ≤ byte 'F')

/-- Texts of unreserved characters, slashes and escapes of two hexadecimal digits. -/
inductive UrlEncoded : SharedString → Prop
  | nil : UrlEncoded []
  | safe {c : UInt8} {rest : SharedString} (hsafe : isUrlSafe c) (hrest : UrlEncoded rest) : UrlEncoded (c :: rest)
  | escape {a b : UInt8} {rest : SharedString} (ha : isHexDigit a) (hb : isHexDigit b) (hrest : UrlEncoded rest) :
      UrlEncoded (byte '%' :: a :: b :: rest)

theorem urlEncoded_flatMap (str : SharedString) : UrlEncoded (str.flatMap UrlEncodeMapping) := by
  have hdigits : ∀ c : UInt8, isHexDigit (hexDigit (c >>> 4)) ∧ isHexDigit (hexDigit (c &&& 15)) :=
    forall_byte (by decide +kernel)
  induction str with
  | nil => exact .nil
  | cons c str ih =>
    rw [List.flatMap_cons, UrlEncodeMapping]
    split
    · rename_i hsafe
      exact .safe hsafe ih
    · exact .escape (hdigits c).1 (hdigits c).2 ih

/-- What is encoded for a url needs no further encoding, and decodes to what it was. -/
theorem urlEncode_encoded_decodes (str : SharedString) :
    UrlEncoded (urlEncode str) ∧ urlDecode (urlEncode str) = str := by
  refine ⟨?_, urlDecode_urlEncode str⟩
  rw [urlEncode_eq]
  exact urlEncoded_flatMap str

/-- The escapes of a text: a '%' with the two bytes behind it, whatever they are. -/
def escapes : SharedString → List (UInt8 × UInt8)
  | [] => []
  | c :: src =>
    if c = byte '%' then
      match src with
      | a :: b :: src => (a, b) :: escapes src
      | _ => []
    else escapes src

/-- Whether a text ends outside of an escape: its last '%' that starts one has two more bytes behind it. -/
def endsOutside : SharedString → Bool
  | [] => true
  | c :: src =>
    if c = byte '%' then
      match src with
      | _ :: _ :: src => endsOutside src
      | _ => false
    else endsOutside src

@[simp] theorem escapes_plain {c : UInt8} (hc : c ≠ byte '%') (src : SharedString) :
    escapes (c :: src) = escapes src := by
  conv_lhs => unfold escapes
  rw [if_neg hc]

@[simp] theorem escapes_percent (a b : UInt8) (src : SharedString) :
    escapes (byte '%' :: a :: b :: src) = (a, b) :: escapes src := by
  conv_lhs => unfold escapes
  rw [if_pos rfl]

@[simp] theorem endsOutside_plain {c : UInt8} (hc : c ≠ byte '%') (src : SharedString) :
    endsOutside (c :: src) = endsOutside src := by
  conv_lhs => unfold endsOutside
  rw [if_neg hc]

@[simp] theorem endsOutside_percent (a b : UInt8) (src : SharedString) :
    endsOutside (byte '%' :: a :: b :: src) = endsOutside src := by
  conv_lhs => unfold endsOutside
  rw [if_pos rfl]

/-- An escape that is cut off is none, and a text that ends in one ends inside of it. -/
theorem escapes_tail {src : SharedString} (hsrc : src.length < 2) :
    escapes (byte '%' :: src) = [] ∧ endsOutside (byte '%' :: src) = false := by
  match src, hsrc with
  | [], _ => exact ⟨rfl, rfl⟩
  | [_], _ => exact ⟨rfl, rfl⟩

/-- Texts are read escape by escape: a plain byte, a whole escape, or one that is cut off at the end. -/
theorem escape_induction {motive : SharedString → Prop} (nil : motive [])
    (plain : ∀ c src, c ≠ byte '%' → motive src → motive (c :: src))
    (escape : ∀ a b src, motive src → motive (byte '%' :: a :: b :: src))
    (tail : ∀ src : SharedString, src.length < 2 → motive (byte '%' :: src)) (str : SharedString) : motive str := by
  match str with
  | [] => exact nil
  | c :: src =>
    by_cases hpercent : c = byte '%'
    · subst hpercent
      match src with
      | [] => exact tail [] (by decide)
      | [b] => exact tail [b] Nat.one_lt_two
      | a :: b :: src => exact escape a b src (escape_induction nil plain escape tail src)
    · exact plain c src hpercent (escape_induction nil plain escape tail src)
termination_by str.length

/-- The byte that an escape stands for, if it is hexadecimal. -/
def escapeValue (escape : UInt8 × UInt8) : Option UInt8 :=
  (loadIntFromHex 8 [escape.1, escape.2]).map UInt8.ofBitVec

theorem urlDecodeLoop_escape (a b : UInt8) (src : SharedString) (charFromHex : UInt8) :
    urlDecodeLoop (byte '%' :: a :: b :: src) charFromHex =
      (escapeValue (a, b)).getD charFromHex :: urlDecodeLoop src ((escapeValue (a, b)).getD charFromHex) :=
  urlDecodeLoop_percent a b src charFromHex

/-- The value of the last hexadecimal escape among some, or what was there before them. -/
def lastValue (escapes : List (UInt8 × UInt8)) (charFromHex : UInt8) : UInt8 :=
  escapes.foldl (fun charFromHex escape => (escapeValue escape).getD charFromHex) charFromHex

theorem lastValue_eq (escapes : List (UInt8 × UInt8)) (charFromHex : UInt8) :
    lastValue escapes charFromHex = (escapes.filterMap escapeValue).getLast?.getD charFromHex := by
  induction escapes generalizing charFromHex with
  | nil => rfl
  | cons escape rest ih =>
    rw [lastValue, List.foldl_cons]
    refine (ih _).trans ?_
    cases hvalue : escapeValue escape with
    | none => rw [List.filterMap_cons_none hvalue, Option.getD_none]
    | some value =>
      rw [List.filterMap_cons_some hvalue, List.getLast?_cons, Option.getD_some, Option.getD_some]

/-- The decoder goes on behind a text with the value of its last hexadecimal escape. -/
theorem urlDecodeLoop_append {s : SharedString} (hs : endsOutside s) (t : SharedString) (charFromHex : UInt8) :
    urlDecodeLoop (s ++ t) charFromHex =
      urlDecodeLoop s charFromHex ++ urlDecodeLoop t (lastValue (escapes s) charFromHex) := by
  induction s using escape_induction generalizing charFromHex with
  | nil => rfl
  | plain c src hplain ih =>
    rw [endsOutside_plain hplain] at hs
    rw [List.cons_append, urlDecodeLoop_plain hplain, urlDecodeLoop_plain hplain, ih hs, escapes_plain hplain,
      List.cons_append]
  | escape a b src ih =>
    rw [endsOutside_percent] at hs
    simp only [List.cons_append]
    rw [urlDecodeLoop_escape, urlDecodeLoop_escape, ih hs, escapes_percent, List.cons_append]
    rfl
  | tail src hshort =>
    rw [(escapes_tail hshort).2] at hs
    cases hs

/-- What the decoder starts with shows up exactly where the first escape is not hexadecimal. -/
theorem urlDecodeLoop_eq_iff (t : SharedString) (charFromHex other : UInt8) :
    urlDecodeLoop t charFromHex = urlDecodeLoop t other ↔
      charFromHex = other ∨ ∀ escape ∈ (escapes t).head?, (escapeValue escape).isSome := by
  induction t using escape_induction with
  | nil => simp [urlDecodeLoop, escapes]
  | plain c src hplain ih =>
    rw [urlDecodeLoop_plain hplain, urlDecodeLoop_plain hplain, escapes_plain hplain, List.cons.injEq]
    exact (and_iff_right rfl).trans ih
  | escape a b src ih =>
    rw [urlDecodeLoop_escape, urlDecodeLoop_escape, escapes_percent]
    cases hvalue : escapeValue (a, b) with
    | none =>
      simp only [Option.getD_none, List.cons.injEq, List.head?_cons, Option.mem_some_iff, forall_eq', hvalue,
        Option.isSome_none, Bool.false_eq_true, or_false, and_iff_left_iff_imp]
      rintro rfl
      rfl
    | some value => simp [hvalue]
  | tail src hshort =>
    rw [urlDecodeLoop_tail hshort, urlDecodeLoop_tail hshort, (escapes_tail hshort).1]
    simp

/-- A text decodes apart from what follows it exactly if the last hexadecimal escape before stands for the zero byte or
    there is none, or if the first escape behind is hexadecimal or there is none. -/
theorem urlDecode_append_iff {s t : SharedString} (hs : endsOutside s) :
    urlDecode (s ++ t) = urlDecode s ++ urlDecode t ↔
      (∀ value ∈ ((escapes s).filterMap escapeValue).getLast?, value = 0) ∨
        ∀ escape ∈ (escapes t).head?, (escapeValue escape).isSome := by
  rw [urlDecode_eq_loop, urlDecode_eq_loop, urlDecode_eq_loop, urlDecodeLoop_append hs, List.append_cancel_left_eq,
    urlDecodeLoop_eq_iff, lastValue_eq]
  cases ((escapes s).filterMap escapeValue).getLast? with
  | none => simp
  | some value => simp

theorem urlDecode_append_iff_zero :
    urlDecode (text "%41%00" ++ text "%PP") = urlDecode (text "%41%00") ++ urlDecode (text "%PP") ↔
      (∀ value ∈ ((escapes (text "%41%00")).filterMap escapeValue).getLast?, value = 0) ∨
        ∀ escape ∈ (escapes (text "%PP")).head?, (escapeValue escape).isSome :=
  urlDecode_append_iff (by decide +kernel)

/-- The escape that is not hexadecimal repeats the letter before it. -/
theorem urlDecode_append_repeated :
    ¬ ∀ s t : SharedString, endsOutside s → urlDecode (s ++ t) = urlDecode s ++ urlDecode t := by
  intro hclaim
  have heq := hclaim (text "%41") (text "%PP") (by decide +kernel)
  revert heq
  decide +kernel

end cpv
