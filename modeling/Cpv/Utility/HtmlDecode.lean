import Cpv.Utility.HtmlEncode
import Cpv.Utility.HtmlEntities
import Cpv.Utility.HttpUtils
import Cpv.Utility.StringUtils

namespace cpv

/-- The bytes of a code point in UTF-8, none for an invalid code point. -/
def codePointText (code : Nat) : SharedString :=
  if code ≤ 0x7f then [UInt8.ofNat code]
  else if code ≤ 0x7ff then [UInt8.ofNat (0b11000000 ||| code >>> 6), UInt8.ofNat (0b10000000 ||| code &&& 0b00111111)]
  else if code ≤ 0xffff then
    [UInt8.ofNat (0b11100000 ||| code >>> 12), UInt8.ofNat (0b10000000 ||| code >>> 6 &&& 0b00111111),
      UInt8.ofNat (0b10000000 ||| code &&& 0b00111111)]
  else if code ≤ 0x10ffff then
    [UInt8.ofNat (0b11110000 ||| code >>> 18), UInt8.ofNat (0b10000000 ||| code >>> 12 &&& 0b00111111),
      UInt8.ofNat (0b10000000 ||| code >>> 6 &&& 0b00111111), UInt8.ofNat (0b10000000 ||| code &&& 0b00111111)]
  else []

/-- The code point of a numeric entity by its digits, which are hexadecimal behind an 'x'. -/
def loadCodePoint (mark : UInt8) (hex dec : SharedString) : Option Nat :=
  if mark = byte 'x' ∨ mark = byte 'X' then (loadIntFromHex 64 hex).map BitVec.toNat
  else (loadIntFromDec dec).map UInt64.toNat

/-- What is written for an entity, from its '&' to its ';' or to the end of the string. -/
def entityText (name : SharedString) : SharedString :=
  -- check whether it's unicode code point: e.g. "&#xabcd;" or "&#1;"
  if 4 ≤ name.length ∧ name[1]? = some (byte '#') then
    match loadCodePoint (name.getD 2 0) (name.drop 3).dropLast (name.drop 2).dropLast with
    | some code => codePointText code
    | none => []
  else (HtmlEntitiesMapping name).getD []

/-- The loop of `htmlDecode`, with the part of an entity's name that is already found. -/
def htmlDecodeLoop : SharedString → Option SharedString → SharedString
  | [], none => []
  | [], some name => entityText name
  | c :: src, none => if c = byte '&' then htmlDecodeLoop src (some [c]) else c :: htmlDecodeLoop src none
  | c :: src, some name =>
    if c = byte ';' then entityText (name ++ [c]) ++ htmlDecodeLoop src none
    else htmlDecodeLoop src (some (name ++ [c]))

/-- Decode string from html content -/
def htmlDecode (str : SharedString) : SharedString :=
  -- no change, return original string
  if byte '&' ∈ str then htmlDecodeLoop str none else str

theorem htmlDecodeLoop_plain {c : UInt8} (hc : c ≠ byte '&') (src : SharedString) :
    htmlDecodeLoop (c :: src) none = c :: htmlDecodeLoop src none := by
  rw [htmlDecodeLoop, if_neg hc]

/-- A name that is not finished before a ';' is found. -/
theorem htmlDecodeLoop_name {name : SharedString} (hname : byte ';' ∉ name) (found rest : SharedString) :
    htmlDecodeLoop (name ++ byte ';' :: rest) (some found) =
      entityText (found ++ name ++ [byte ';']) ++ htmlDecodeLoop rest none := by
  induction name generalizing found with
  | nil => rw [List.nil_append, htmlDecodeLoop, if_pos rfl, List.append_nil]
  | cons c name ih =>
    rw [List.mem_cons, not_or] at hname
    rw [List.cons_append, htmlDecodeLoop, if_neg (Ne.symm hname.1), ih hname.2]
    simp

/-- The shortcut for strings without entities changes nothing. -/
theorem htmlDecode_eq_loop (str : SharedString) : htmlDecode str = htmlDecodeLoop str none := by
  have hplain : ∀ str : SharedString, byte '&' ∉ str → htmlDecodeLoop str none = str := by
    intro str hstr
    induction str with
    | nil => rfl
    | cons c str ih =>
      rw [List.mem_cons, not_or] at hstr
      rw [htmlDecodeLoop_plain (Ne.symm hstr.1), ih hstr.2]
  unfold htmlDecode
  split
  · rfl
  · rename_i hnone
    exact (hplain str hnone).symm

section Length

theorem length_codePointText (code : Nat) : (codePointText code).length ≤ 4 := by
  unfold codePointText
  grind

theorem length_codePointText_ascii {code : Nat} (hcode : code ≤ 0x7f) : (codePointText code).length = 1 := by
  rw [codePointText, if_pos hcode, List.length_singleton]

/-- A single decimal digit, or no hexadecimal one, is a character of ASCII. -/
theorem loadCodePoint_short {mark a : UInt8} {code : Nat} (hload : loadCodePoint mark [] [a] = some code) :
    code ≤ 0x7f := by
  unfold loadCodePoint at hload
  split at hload
  · obtain ⟨value, hvalue, rfl⟩ := Option.map_eq_some_iff.mp hload
    obtain rfl : 0 = value := Option.some.inj hvalue
    decide
  · have hdigit : ∀ a : UInt8, (loadIntFromDec [a]).all fun value => value.toNat ≤ 0x7f :=
      forall_byte (by decide +kernel)
    obtain ⟨value, hvalue, rfl⟩ := Option.map_eq_some_iff.mp hload
    simpa [hvalue] using hdigit a

/-- Every entity, terminated or not, is longer than what is written for it. -/
theorem length_entityText_lt {name : SharedString} (hname : name ≠ []) : (entityText name).length < name.length := by
  have hpos := List.length_pos_of_ne_nil hname
  unfold entityText
  split
  · rename_i hnumeric
    split
    · rename_i code hload
      by_cases hlong : 5 ≤ name.length
      · have hle := length_codePointText code
        omega
      · obtain ⟨a, b, c, d, rfl⟩ := List.length_eq_four.mp (show name.length = 4 by omega)
        have hascii := length_codePointText_ascii (loadCodePoint_short hload)
        simp [hascii]
    · exact hpos
  · cases hfind : HtmlEntitiesMapping name with
    | some mapped => exact length_lt_of_htmlEntitiesMapping hfind
    | none => exact hpos

/-- Decoding makes a text shorter by every entity in it. -/
theorem length_htmlDecodeLoop (src : SharedString) :
    (htmlDecodeLoop src none).length ≤ src.length ∧
      (byte '&' ∈ src → (htmlDecodeLoop src none).length < src.length) ∧
      ∀ name ≠ [], (htmlDecodeLoop src (some name)).length < src.length + name.length := by
  induction src with
  | nil =>
    refine ⟨Nat.le_refl _, by simp, fun name hname => ?_⟩
    rw [htmlDecodeLoop, List.length_nil, Nat.zero_add]
    exact length_entityText_lt hname
  | cons c src ih =>
    obtain ⟨hle, hlt, hentity⟩ := ih
    refine ⟨?_, ?_, fun name hname => ?_⟩
    · rw [htmlDecodeLoop]
      split
      · have hshorter := hentity [c] (by simp)
        simp only [List.length_cons, List.length_nil] at hshorter ⊢
        omega
      · simpa using hle
    · intro hmem
      rw [htmlDecodeLoop]
      split
      · simpa using hentity [c] (by simp)
      · rename_i hplain
        simpa using hlt ((List.mem_cons.mp hmem).resolve_left (Ne.symm hplain))
    · rw [htmlDecodeLoop]
      split
      · have hshorter := @length_entityText_lt (name ++ [c]) (by simp)
        simp only [List.length_append, List.length_cons, List.length_nil] at hshorter ⊢
        omega
      · have hshorter := hentity (name ++ [c]) (by simp)
        simp only [List.length_append, List.length_cons, List.length_nil] at hshorter ⊢
        omega

end Length

/-- A text is its own decoding exactly if nothing begins an entity in it. -/
theorem htmlDecode_eq_self_iff (str : SharedString) : htmlDecode str = str ↔ byte '&' ∉ str := by
  constructor
  · intro heq hmem
    have hlt := (length_htmlDecodeLoop str).2.1 hmem
    rw [← htmlDecode_eq_loop, heq] at hlt
    omega
  · exact fun hnone => if_neg hnone

/-- What a byte is encoded to decodes to it, whatever stands behind it. The zero byte is encoded to nothing. -/
theorem htmlDecodeLoop_mapping (c : UInt8) (rest : SharedString) :
    htmlDecodeLoop (HtmlEncodeMapping c ++ rest) none = (if c = 0 then [] else [c]) ++ htmlDecodeLoop rest none := by
  have hentity : ∀ (entity name : SharedString) (d : UInt8), entity = byte '&' :: name ++ [byte ';'] →
      byte ';' ∉ name → entityText entity = [d] →
      htmlDecodeLoop (entity ++ rest) none = [d] ++ htmlDecodeLoop rest none := by
    intro entity name d hsplit hname hdecoded
    rw [← hdecoded, hsplit, List.append_assoc, List.cons_append, List.singleton_append, htmlDecodeLoop, if_pos rfl,
      htmlDecodeLoop_name hname, List.singleton_append]
  unfold HtmlEncodeMapping
  split
  · rfl
  split
  · rename_i hquote
    rw [hquote]
    exact hentity (text "&quot;") (text "quot") _ (by decide +kernel) (by decide +kernel) (by decide +kernel)
  split
  · rename_i hand
    rw [hand]
    exact hentity (text "&amp;") (text "amp") _ (by decide +kernel) (by decide +kernel) (by decide +kernel)
  rename_i hand
  split
  · rename_i happly
    rw [happly]
    exact hentity (text "&#x27;") (text "#x27") _ (by decide +kernel) (by decide +kernel) (by decide +kernel)
  split
  · rename_i hless
    rw [hless]
    exact hentity (text "&lt;") (text "lt") _ (by decide +kernel) (by decide +kernel) (by decide +kernel)
  split
  · rename_i hgreater
    rw [hgreater]
    exact hentity (text "&gt;") (text "gt") _ (by decide +kernel) (by decide +kernel) (by decide +kernel)
  · rw [List.singleton_append, htmlDecodeLoop_plain hand, List.singleton_append]

/-- Of an encoded text only the zero bytes are lost. -/
theorem htmlDecode_flatMap (str : SharedString) :
    htmlDecode (str.flatMap HtmlEncodeMapping) = str.filter (· ≠ 0) := by
  rw [htmlDecode_eq_loop]
  induction str with
  | nil => rfl
  | cons c str ih =>
    rw [List.flatMap_cons, htmlDecodeLoop_mapping, ih]
    by_cases hzero : c = 0 <;> simp [hzero]

/-- Decoding gives an encoded text back exactly if it has no zero byte, or if its zero bytes make up for the length of
    its entities and it is left as it is, without an '&'. -/
theorem htmlDecode_htmlEncode_iff (str : SharedString) :
    htmlDecode (htmlEncode str) = str ↔ 0 ∉ str ∨ str.count 0 = htmlGrowth str ∧ byte '&' ∉ str := by
  have hadd := htmlEncodedSize_add str
  have hzeros : str.filter (· ≠ 0) = str ↔ 0 ∉ str := by
    rw [List.filter_eq_self]
    simp only [decide_eq_true_eq]
    exact ⟨fun h hmem => h 0 hmem rfl, fun h c hc hzero => h (hzero ▸ hc)⟩
  unfold htmlEncode
  split
  · rename_i hsame
    have hcount : str.count 0 = htmlGrowth str := by omega
    rw [htmlDecode_eq_self_iff]
    constructor
    · exact fun hnone => .inr ⟨hcount, hnone⟩
    · rintro (hnonzero | hright)
      · rw [List.count_eq_zero.mpr hnonzero] at hcount
        intro hmem
        exact htmlGrowth_eq_zero.mp hcount.symm _ hmem (by decide)
      · exact hright.2
  · rename_i hdiffers
    rw [htmlDecode_flatMap, hzeros]
    constructor
    · exact .inl
    · rintro (hnonzero | hright)
      · exact hnonzero
      · omega

/-- A zero byte is lost. -/
theorem htmlDecode_htmlEncode_zero : ¬ ∀ str : SharedString, htmlDecode (htmlEncode str) = str := by
  intro hclaim
  exact absurd (hclaim [0]) (by decide +kernel)

end cpv
