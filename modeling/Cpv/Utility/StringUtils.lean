import Cpv.Utility.SharedString

namespace cpv

/-- The digits of `loadIntFromDec`, accumulated with the wrap-around of the
    integer type. -/
def loadIntFromDecLoop : SharedString → UInt64 → Option UInt64
  | [], value => some value
  | c :: dec, value =>
    let diff := c - byte '0'
    if diff ≤ 9 then loadIntFromDecLoop dec (value * 10 + diff.toUInt64) else none

/-- Convert decimal string to an unsigned 64 bit integer. A minus sign is an
    error, an overflow is not. -/
def loadIntFromDec (dec : SharedString) : Option UInt64 :=
  match dec with
  | [] => some 0
  | c :: _ => if c = byte '-' then none else loadIntFromDecLoop dec 0

/-- The number that decimal digits stand for, however large. -/
def decimalLoop : SharedString → Nat → Option Nat
  | [], value => some value
  | c :: dec, value =>
    let diff := c - byte '0'
    if diff ≤ 9 then decimalLoop dec (value * 10 + diff.toNat) else none

/-- The value of a decimal numeral. -/
def decimalValue (dec : SharedString) : Option Nat :=
  if dec = [] then none else decimalLoop dec 0

theorem loadIntFromDecLoop_eq (dec : SharedString) (value : Nat) :
    loadIntFromDecLoop dec (UInt64.ofNat value) = (decimalLoop dec value).map UInt64.ofNat := by
  induction dec generalizing value with
  | nil => rfl
  | cons c dec ih =>
    simp only [loadIntFromDecLoop, decimalLoop]
    split
    · rw [← ih]
      congr 1
      simp [UInt64.ofNat_add, UInt64.ofNat_mul]
    · rfl

/-- `loadIntFromDec` reads the value of a numeral modulo 2^64. -/
theorem loadIntFromDec_eq {dec : SharedString} (hdec : dec ≠ []) :
    loadIntFromDec dec = (decimalValue dec).map UInt64.ofNat := by
  obtain ⟨c, dec, rfl⟩ := List.exists_cons_of_ne_nil hdec
  rw [decimalValue, if_neg hdec, ← loadIntFromDecLoop_eq, loadIntFromDec]
  split
  · rename_i hminus
    subst hminus
    rfl
  · rfl

/-- The lower case of an ASCII letter. -/
def toLower (c : UInt8) : UInt8 := if byte 'A' ≤ c ∧ c ≤ byte 'Z' then c + 32 else c

/-- Return sub string view that removes given prefix and suffix, by default the
    white space at both ends. -/
def trimString (str : SharedString) : SharedString :=
  let removes : UInt8 → Bool := fun c => c == byte ' ' || c == byte '\t' || c == byte '\r' || c == byte '\n'
  ((str.dropWhile removes).reverse.dropWhile removes).reverse

/-- The characters that `trimString` removes by default. -/
def isTrimmed (c : UInt8) : Bool := c == byte ' ' || c == byte '\t' || c == byte '\r' || c == byte '\n'

theorem dropWhile_isTrimmed {str : SharedString} (hstr : ∀ c ∈ str, ¬ isTrimmed c) : str.dropWhile isTrimmed = str := by
  cases str with
  | nil => rfl
  | cons c str => exact List.dropWhile_cons_of_neg (hstr c (.head _))

/-- Spaces around a text without white space are removed. -/
theorem trimString_spaces {str : SharedString} (hstr : ∀ c ∈ str, ¬ isTrimmed c) (before after : Nat) :
    trimString (List.replicate before (byte ' ') ++ str ++ List.replicate after (byte ' ')) = str := by
  have hspaces : ∀ count, ∀ c ∈ List.replicate count (byte ' '), isTrimmed c := by
    intro count c hc
    rw [List.eq_of_mem_replicate hc]
    rfl
  have hback : (str ++ List.replicate after (byte ' ')).reverse.dropWhile isTrimmed = str.reverse := by
    rw [List.reverse_append, List.reverse_replicate, List.dropWhile_append_of_pos (hspaces after)]
    exact dropWhile_isTrimmed fun c hc => hstr c (List.mem_reverse.mp hc)
  change (((List.replicate before (byte ' ') ++ str ++ _).dropWhile isTrimmed).reverse.dropWhile isTrimmed).reverse = _
  rw [List.append_assoc, List.dropWhile_append_of_pos (hspaces before)]
  cases str with
  | nil =>
    rw [List.nil_append, ← List.append_nil (List.replicate after _), List.dropWhile_append_of_pos (hspaces after)]
    rfl
  | cons c str =>
    rw [List.cons_append, List.dropWhile_cons_of_neg (hstr c (.head _)), ← List.cons_append, hback,
      List.reverse_reverse]

end cpv
