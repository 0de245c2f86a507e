import Cpv.Utility.UrlEscapes

namespace cpv

/-- The value of a hexadecimal digit. -/
def hexValue (c : UInt8) : Nat :=
  if c ≤ byte '9' then (c - byte '0').toNat
  else if byte 'a' ≤ c then (c - byte 'a').toNat + 10
  else (c - byte 'A').toNat + 10

/-- The number that hexadecimal digits stand for, however large. -/
def hexNumber (hex : SharedString) : Nat := hex.foldl (fun value c => value * 16 + hexValue c) 0

/-- The digits of `dumpIntToHex`. -/
def HexDigits : SharedString := text "0123456789ABCDEF"

/-- Convert integer to hex, as the text that is appended to the string. The number of digits depends on the width. -/
def dumpIntToHex {w : Nat} (value : BitVec w) : SharedString :=
  (List.range (w / 4)).map fun i => HexDigits.getD ((value >>> ((w / 4 - 1 - i) * 4)) &&& 0xf).toNat 0

/-- The last hexadecimal digits of a number. -/
def hexText (count number : Nat) : SharedString :=
  (List.range count).map fun i => HexDigits.getD (number / 16 ^ (count - 1 - i) % 16) 0

theorem hexValue_lt : ∀ c, isHexDigit c → hexValue c < 16 := forall_byte (by decide +kernel)

/-- One character of `loadIntFromHex`. -/
theorem loadIntFromHexLoop_cons {w : Nat} (c : UInt8) (hex : SharedString) (uvalue : BitVec w) :
    loadIntFromHexLoop (c :: hex) uvalue =
      if isHexDigit c then loadIntFromHexLoop hex ((uvalue <<< 4) ||| BitVec.ofNat w (hexValue c)) else none := by
  have htable : ∀ c : UInt8,
      (if c = 0 then none
        else if c - byte '0' ≤ 9 then some (c - byte '0').toNat
        else if c - byte 'a' ≤ 5 then some ((c - byte 'a').toNat + 10)
        else if c - byte 'A' ≤ 5 then some ((c - byte 'A').toNat + 10)
        else none) = if isHexDigit c then some (hexValue c) else none :=
    forall_byte (by decide +kernel)
  have hdigit := htable c
  rw [loadIntFromHexLoop]
  split_ifs at hdigit ⊢ with hzero hdec hlower hupper hhex <;> simp_all

/-- A digit behind the others. -/
theorem shiftLeft_or_ofNat {w digit : Nat} (hdigit : digit < 16) (value : Nat) :
    (BitVec.ofNat w value <<< 4) ||| BitVec.ofNat w digit = BitVec.ofNat w (value * 16 + digit) := by
  have hor : value <<< 4 ||| digit = value * 16 + digit := by
    rw [← Nat.shiftLeft_add_eq_or_of_lt (by omega), Nat.shiftLeft_eq]
  rw [← hor, BitVec.ofNat_or]
  congr 1
  refine BitVec.eq_of_toNat_eq ?_
  simp [Nat.shiftLeft_eq, Nat.mod_mul_mod]

theorem loadIntFromHexLoop_eq {w : Nat} (hex : SharedString) (value : Nat) :
    loadIntFromHexLoop hex (BitVec.ofNat w value) =
      if hex.all isHexDigit then some (BitVec.ofNat w (hex.foldl (fun value c => value * 16 + hexValue c) value))
      else none := by
  induction hex generalizing value with
  | nil => rfl
  | cons c hex ih =>
    rw [loadIntFromHexLoop_cons]
    by_cases hc : isHexDigit c
    · rw [if_pos hc, shiftLeft_or_ofNat (hexValue_lt c hc), ih]
      simp [hc]
    · simp [hc]

/-- `loadIntFromHex` reads hexadecimal digits only, and drops what does not fit. -/
theorem loadIntFromHex_eq (w : Nat) (hex : SharedString) :
    loadIntFromHex w hex = if hex.all isHexDigit then some (BitVec.ofNat w (hexNumber hex)) else none :=
  loadIntFromHexLoop_eq hex 0

theorem hexNumber_cons (c : UInt8) (hex : SharedString) :
    hexNumber (c :: hex) = hexValue c * 16 ^ hex.length + hexNumber hex := by
  have hfold (hex : SharedString) (value : Nat) :
      hex.foldl (fun value c => value * 16 + hexValue c) value = value * 16 ^ hex.length + hexNumber hex := by
    unfold hexNumber
    induction hex generalizing value with
    | nil => simp
    | cons c hex ih =>
      rw [List.foldl_cons, ih, List.foldl_cons, ih (0 * 16 + hexValue c), List.length_cons, Nat.pow_succ]
      ring
  rw [hexNumber, List.foldl_cons, hfold]
  simp

theorem hexNumber_lt {hex : SharedString} (hhex : hex.all isHexDigit) : hexNumber hex < 16 ^ hex.length := by
  induction hex with
  | nil => simp [hexNumber]
  | cons c hex ih =>
    simp only [List.all_cons, Bool.and_eq_true] at hhex
    have hrest := ih hhex.2
    have hvalue := hexValue_lt c hhex.1
    have hmul : hexValue c * 16 ^ hex.length ≤ 15 * 16 ^ hex.length := Nat.mul_le_mul_right _ (by omega)
    rw [hexNumber_cons, List.length_cons, Nat.pow_succ]
    omega

@[simp]
theorem hexText_zero (number : Nat) : hexText 0 number = [] := rfl

theorem hexText_succ (count number : Nat) :
    hexText (count + 1) number = HexDigits.getD (number / 16 ^ count % 16) 0 :: hexText count number := by
  rw [hexText, List.range_succ_eq_map, List.map_cons, List.map_map, hexText]
  congr 1
  refine List.map_congr_left fun i hi => ?_
  have hlt := List.mem_range.mp hi
  simp only [Function.comp_apply]
  rw [show count + 1 - 1 - i.succ = count - 1 - i by omega]

@[simp]
theorem length_hexText (count number : Nat) : (hexText count number).length = count := by
  simp [hexText]

/-- The digits of a number in their order are those of the code. -/
theorem dumpIntToHex_eq {w : Nat} (value : BitVec w) : dumpIntToHex value = hexText (w / 4) value.toNat := by
  refine List.map_congr_left fun i hi => ?_
  have hmask : ∀ number : Nat, number &&& 15 = number % 16 := fun number => Nat.and_two_pow_sub_one_eq_mod number 4
  have hfifteen : (15 : BitVec w).toNat = 15 := by
    have hwidth : 4 ≤ w := by
      have hlt := List.mem_range.mp hi
      omega
    have hpow : 2 ^ 4 ≤ 2 ^ w := Nat.pow_le_pow_right (by decide) hwidth
    exact Nat.mod_eq_of_lt (show 15 < 2 ^ w by omega)
  rw [BitVec.toNat_and, BitVec.toNat_ushiftRight, hfifteen, hmask, Nat.shiftRight_eq_div_pow, Nat.mul_comm, Nat.pow_mul]

@[simp]
theorem length_dumpIntToHex {w : Nat} (value : BitVec w) : (dumpIntToHex value).length = w / 4 := by
  simp [dumpIntToHex]

/-- Every digit is upper case, and has the value it was written for. -/
theorem hexDigits_spec : ∀ digit : Fin 16, isHexDigit (HexDigits.getD digit 0) ∧
    hexValue (HexDigits.getD digit 0) = digit ∧ ¬ (byte 'a' ≤ HexDigits.getD digit 0) := by
  decide +kernel

theorem all_hexText (count number : Nat) : (hexText count number).all isHexDigit := by
  rw [List.all_eq_true]
  intro c hc
  obtain ⟨i, -, rfl⟩ := List.mem_map.mp hc
  exact (hexDigits_spec ⟨_, Nat.mod_lt _ (by decide)⟩).1

/-- As many digits are read back as were written. -/
theorem hexNumber_hexText (count number : Nat) : hexNumber (hexText count number) = number % 16 ^ count := by
  induction count with
  | zero => simp [hexNumber, Nat.mod_one]
  | succ count ih =>
    have hdigit := (hexDigits_spec ⟨number / 16 ^ count % 16, Nat.mod_lt _ (by decide)⟩).2.1
    simp only at hdigit
    rw [hexText_succ, hexNumber_cons, length_hexText, ih, hdigit, Nat.mod_pow_succ]
    ring

/-- Digits in front of the ones that are written do not matter. -/
theorem hexText_add_mul (count high low : Nat) : hexText count (high * 16 ^ count + low) = hexText count low := by
  refine List.map_congr_left fun i hi => ?_
  have hlt := List.mem_range.mp hi
  have hpow : high * 16 ^ count = 16 ^ (count - 1 - i) * (high * 16 ^ i * 16) := by
    rw [show count = count - 1 - i + i + 1 by omega, Nat.pow_succ, Nat.pow_add]
    rw [show count - 1 - i + i + 1 - 1 - i = count - 1 - i by omega]
    ring
  rw [hpow, Nat.mul_add_div (Nat.pow_pos (by decide)), Nat.mul_add_mod']

/-- The upper case of an ASCII letter. -/
def toUpper (c : UInt8) : UInt8 := if byte 'a' ≤ c ∧ c ≤ byte 'z' then c - 32 else c

/-- Hexadecimal digits that are read are written as they were, in upper case. -/
theorem hexText_hexNumber {hex : SharedString} (hhex : hex.all isHexDigit) :
    hexText hex.length (hexNumber hex) = hex.map toUpper := by
  have htable : ∀ c, isHexDigit c → HexDigits.getD (hexValue c) 0 = toUpper c := forall_byte (by decide +kernel)
  induction hex with
  | nil => rfl
  | cons c hex ih =>
    simp only [List.all_cons, Bool.and_eq_true] at hhex
    have hdigit : (hexValue c * 16 ^ hex.length + hexNumber hex) / 16 ^ hex.length % 16 = hexValue c := by
      rw [Nat.mul_comm, Nat.mul_add_div (Nat.pow_pos (by decide)), Nat.div_eq_of_lt (hexNumber_lt hhex.2), Nat.add_zero,
        Nat.mod_eq_of_lt (hexValue_lt c hhex.1)]
    rw [List.length_cons, hexNumber_cons, hexText_succ, hdigit, hexText_add_mul, ih hhex.2, htable c hhex.1,
      List.map_cons]

/-- What `dumpIntToHex` writes is read back. -/
theorem loadIntFromHex_dumpIntToHex {w : Nat} (hw : 4 ∣ w) (value : BitVec w) :
    loadIntFromHex w (dumpIntToHex value) = some value := by
  obtain ⟨count, rfl⟩ := hw
  have hlt : value.toNat < 16 ^ count := by
    have hlt := value.isLt
    rwa [Nat.pow_mul] at hlt
  rw [dumpIntToHex_eq, loadIntFromHex_eq, if_pos (all_hexText _ _), hexNumber_hexText,
    Nat.mul_div_cancel_left count (by decide), Nat.mod_eq_of_lt hlt, BitVec.ofNat_toNat, BitVec.setWidth_eq]

/-- What `loadIntFromHex` reads in full is written as it was, in upper case. -/
theorem dumpIntToHex_loadIntFromHex {w : Nat} {hex : SharedString} (hlength : hex.length * 4 = w) {value : BitVec w}
    (hload : loadIntFromHex w hex = some value) : dumpIntToHex value = hex.map toUpper := by
  subst hlength
  rw [loadIntFromHex_eq] at hload
  split at hload
  · rename_i hhex
    have hlt := hexNumber_lt hhex
    rw [show (16 : Nat) = 2 ^ 4 by rfl, ← Nat.pow_mul, Nat.mul_comm] at hlt
    rw [← Option.some.inj hload, dumpIntToHex_eq, BitVec.toNat_ofNat, Nat.mod_eq_of_lt hlt, Nat.mul_div_cancel _ (by decide),
      hexText_hexNumber hhex]
  · cases hload

end cpv
