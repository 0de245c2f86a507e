import Mathlib.Data.List.Basic
import Cpv.Utility.SharedString

namespace cpv

/-- Convert dynamic size hex string to an integer of `w` bits, dropping what
    does not fit. `none` where the conversion fails, which leaves the
    destination of the source as it was. -/
def loadIntFromHexLoop {w : Nat} : SharedString → BitVec w → Option (BitVec w)
  | [], uvalue => some uvalue
  | c :: hex, uvalue =>
    if c = 0 then none
    else if c - byte '0' ≤ 9 then
      loadIntFromHexLoop hex ((uvalue <<< 4) ||| BitVec.ofNat w (c - byte '0').toNat)
    else if c - byte 'a' ≤ 5 then
      loadIntFromHexLoop hex ((uvalue <<< 4) ||| BitVec.ofNat w ((c - byte 'a').toNat + 10))
    else if c - byte 'A' ≤ 5 then
      loadIntFromHexLoop hex ((uvalue <<< 4) ||| BitVec.ofNat w ((c - byte 'A').toNat + 10))
    else none

/-- Convert hex string to integer -/
def loadIntFromHex (w : Nat) (hex : SharedString) : Option (BitVec w) := loadIntFromHexLoop hex 0

/-- The loop of `urlDecode`. An escape that is not hexadecimal writes the byte
    of the escape before it again, and fewer than two bytes after '%' end the
    string. -/
def urlDecodeLoop : SharedString → UInt8 → SharedString
  | [], _ => []
  | c :: src, charFromHex =>
    if c = byte '%' then
      match src with
      | a :: b :: src =>
        let charFromHex := ((loadIntFromHex 8 [a, b]).map UInt8.ofBitVec).getD charFromHex
        charFromHex :: urlDecodeLoop src charFromHex
      | _ => []
    else if c = byte '+' then byte ' ' :: urlDecodeLoop src charFromHex
    else c :: urlDecodeLoop src charFromHex

/-- Decode string from url parts -/
def urlDecode (str : SharedString) : SharedString :=
  if str.any fun c => c == byte '%' || c == byte '+' then urlDecodeLoop str 0 else str

theorem urlDecodeLoop_plain {c : UInt8} (hc : c ≠ byte '%') (src : SharedString) (charFromHex : UInt8) :
    urlDecodeLoop (c :: src) charFromHex =
      (if c = byte '+' then byte ' ' else c) :: urlDecodeLoop src charFromHex := by
  conv_lhs => unfold urlDecodeLoop
  rw [if_neg hc]
  split <;> rfl

theorem urlDecodeLoop_percent (a b : UInt8) (src : SharedString) (charFromHex : UInt8) :
    urlDecodeLoop (byte '%' :: a :: b :: src) charFromHex =
      ((loadIntFromHex 8 [a, b]).map UInt8.ofBitVec).getD charFromHex ::
        urlDecodeLoop src (((loadIntFromHex 8 [a, b]).map UInt8.ofBitVec).getD charFromHex) := by
  rw [urlDecodeLoop, if_pos rfl]

/-- An escape that is cut off at the end of the string is ignored. -/
theorem urlDecodeLoop_tail {src : SharedString} (hsrc : src.length < 2) (charFromHex : UInt8) :
    urlDecodeLoop (byte '%' :: src) charFromHex = [] := by
  match src, hsrc with
  | [], _ => rfl
  | [_], _ => rfl

/-- The shortcut for strings without escapes changes nothing. -/
theorem urlDecode_eq_loop (str : SharedString) : urlDecode str = urlDecodeLoop str 0 := by
  have hplain : ∀ str : SharedString, (∀ c ∈ str, c ≠ byte '%' ∧ c ≠ byte '+') →
      urlDecodeLoop str 0 = str := by
    intro str hstr
    induction str with
    | nil => rfl
    | cons c str ih =>
      obtain ⟨hpercent, hplus⟩ := hstr c List.mem_cons_self
      rw [urlDecodeLoop_plain hpercent, if_neg hplus, ih fun c hc => hstr c (List.mem_cons_of_mem _ hc)]
  unfold urlDecode
  split
  · rfl
  · rename_i hany
    refine (hplain str fun c hc => ?_).symm
    rw [Bool.not_eq_true, List.any_eq_false] at hany
    simpa using hany c hc

/-- The bytes that the table of `urlEncode` leaves as they are. -/
def isUrlSafe (c : UInt8) : Bool :=
  (byte 'A' ≤ c && c ≤ byte 'Z') || (byte 'a' ≤ c && c ≤ byte 'z') || (byte '0' ≤ c && c ≤ byte '9') ||
    c == byte '-' || c == byte '.' || c == byte '/' || c == byte '_' || c == byte '~'

/-- An upper case hexadecimal digit. -/
def hexDigit (digit : UInt8) : UInt8 := if digit < 10 then byte '0' + digit else byte 'A' + (digit - 10)

def UrlEncodeMapping (c : UInt8) : SharedString :=
  if isUrlSafe c then [c] else [byte '%', hexDigit (c >>> 4), hexDigit (c &&& 15)]

/-- Encode string for use in url -/
def urlEncode (str : SharedString) : SharedString :=
  let encodedSize := (str.map fun c => (UrlEncodeMapping c).length).sum
  if encodedSize = str.length then str else str.flatMap UrlEncodeMapping

/-- A text of the encoded size is one that has nothing to encode. -/
theorem urlEncode_eq (str : SharedString) : urlEncode str = str.flatMap UrlEncodeMapping := by
  unfold urlEncode
  dsimp only
  split
  · rename_i hsize
    refine (flatMap_eq_self (fun c => ?_) hsize).symm
    unfold UrlEncodeMapping
    split <;> simp
  · rfl

/-- What is encoded is free of everything that has a meaning in a uri but '/'. -/
theorem mem_urlEncode {str : SharedString} {c : UInt8} (hc : c ∈ urlEncode str) :
    isUrlSafe c ∨ c = byte '%' := by
  have htable : ∀ c : UInt8, (UrlEncodeMapping c).all fun d => isUrlSafe d || d == byte '%' :=
    forall_byte (by decide +kernel)
  rw [urlEncode_eq] at hc
  obtain ⟨d, -, hd⟩ := List.mem_flatMap.mp hc
  simpa using List.all_eq_true.mp (htable d) c hd

theorem slash_mem_urlEncode {str : SharedString} : byte '/' ∈ urlEncode str ↔ byte '/' ∈ str := by
  have htable : ∀ c : UInt8, byte '/' ∈ UrlEncodeMapping c → c = byte '/' :=
    forall_byte (by decide +kernel)
  rw [urlEncode_eq, List.mem_flatMap]
  constructor
  · rintro ⟨c, hc, hslash⟩
    exact htable c hslash ▸ hc
  · exact fun hmem => ⟨byte '/', hmem, by decide +kernel⟩

theorem urlEncode_eq_nil {str : SharedString} : urlEncode str = [] ↔ str = [] := by
  have hne (c : UInt8) : UrlEncodeMapping c ≠ [] := by
    unfold UrlEncodeMapping
    split <;> simp
  cases str with
  | nil => simp [urlEncode_eq]
  | cons c str => simp [urlEncode_eq, hne]

/-- Decoding an encoded text gives it back, whatever stands behind it. -/
theorem urlDecodeLoop_urlEncode (str rest : SharedString) (charFromHex : UInt8) :
    ∃ last, urlDecodeLoop (urlEncode str ++ rest) charFromHex = str ++ urlDecodeLoop rest last := by
  have hsafe : ∀ c : UInt8, isUrlSafe c → c ≠ byte '%' ∧ c ≠ byte '+' :=
    forall_byte (by decide +kernel)
  have hescape : ∀ c : UInt8,
      ((loadIntFromHex 8 [hexDigit (c >>> 4), hexDigit (c &&& 15)]).map UInt8.ofBitVec) = some c :=
    forall_byte (by decide +kernel)
  rw [urlEncode_eq]
  induction str generalizing charFromHex with
  | nil => exact ⟨charFromHex, rfl⟩
  | cons c str ih =>
    rw [List.flatMap_cons, List.append_assoc]
    unfold UrlEncodeMapping
    split
    · rename_i hc
      obtain ⟨last, hlast⟩ := ih charFromHex
      exact ⟨last, by
        rw [List.singleton_append, urlDecodeLoop_plain (hsafe c hc).1, if_neg (hsafe c hc).2]
        exact congrArg (c :: ·) hlast⟩
    · obtain ⟨last, hlast⟩ := ih c
      refine ⟨last, ?_⟩
      simp only [List.cons_append, List.nil_append]
      rw [urlDecodeLoop_percent, hescape, Option.getD_some]
      exact congrArg (c :: ·) hlast

@[simp] theorem urlDecode_urlEncode (str : SharedString) : urlDecode (urlEncode str) = str := by
  obtain ⟨last, hlast⟩ := urlDecodeLoop_urlEncode str [] 0
  rw [List.append_nil] at hlast
  rw [urlDecode_eq_loop, hlast]
  exact List.append_nil str

example : urlDecode (text "a%20b%2") = text "a b" := by decide +kernel

end cpv
