import Cpv.Utility.HexText
import Cpv.Utility.SharedStringBuilder
import Cpv.Utility.StringUtils

namespace cpv

/-- Data format error, with the parts of its message -/
structure FormatException where
  parts : List SharedString

abbrev UUIDDataType := BitVec 64 × BitVec 64

/-- Convert fixed size hex string to integer, from an offset on -/
def loadHexAt (w : Nat) (str : SharedString) (offset : Nat) : Option (BitVec w) :=
  loadIntFromHex w ((str.drop offset).take (w / 4))

/-- Set the uuid by it's string representation -/
def strToUUID (str : SharedString) : Except FormatException UUIDDataType :=
  if str.length ≠ 36 then .error ⟨[text "invalid uuid string: size should be 36, str is", str]⟩
  else
    let uuid : Option UUIDDataType := do
      let a ← loadHexAt 32 str 0
      let b ← loadHexAt 16 str 9
      let c ← loadHexAt 16 str 14
      let d ← loadHexAt 16 str 19
      let e ← loadHexAt 16 str 24
      let f ← loadHexAt 32 str 28
      let highBits := (a.setWidth 64 <<< 32) ||| (b.setWidth 64 <<< 16) ||| c.setWidth 64
      let lowBits := (d.setWidth 64 <<< 48) ||| (e.setWidth 64 <<< 32) ||| f.setWidth 64
      return (highBits, lowBits)
    uuid.elim (.error ⟨[text "invalid uuid string: contains non-hex character, str is", str]⟩) .ok

/-- Get the string representation of uuid -/
def uuidToStr (uuid : UUIDDataType) : SharedString :=
  let builder := SharedStringBuilder.ofCapacity 36
  let builder := builder.append (dumpIntToHex ((uuid.1 >>> 32).setWidth 32))
  let builder := builder.append (text "-")
  let builder := builder.append (dumpIntToHex (((uuid.1 >>> 16) &&& 0xffff).setWidth 16))
  let builder := builder.append (text "-")
  let builder := builder.append (dumpIntToHex ((uuid.1 &&& 0xffff).setWidth 16))
  let builder := builder.append (text "-")
  let builder := builder.append (dumpIntToHex (((uuid.2 >>> 48) &&& 0xffff).setWidth 16))
  let builder := builder.append (text "-")
  let builder := builder.append (dumpIntToHex (((uuid.2 >>> 32) &&& 0xffff).setWidth 16))
  let builder := builder.append (dumpIntToHex ((uuid.2 &&& 0xffffffff).setWidth 32))
  builder.build.1

/-- Three numbers in the bits of one. -/
theorem or_shiftLeft_eq {x y z i j : Nat} (hy : y < 2 ^ j) (hz : z < 2 ^ i) :
    x <<< (i + j) ||| y <<< i ||| z = x * 2 ^ (i + j) + y * 2 ^ i + z := by
  rw [Nat.add_comm i j, Nat.shiftLeft_add, ← Nat.shiftLeft_or_distrib, ← Nat.shiftLeft_add_eq_or_of_lt hy,
    ← Nat.shiftLeft_add_eq_or_of_lt hz]
  simp only [Nat.shiftLeft_eq, Nat.pow_add]
  ring

theorem toNat_highBits (a : BitVec 32) (b c : BitVec 16) :
    ((a.setWidth 64 <<< 32) ||| (b.setWidth 64 <<< 16) ||| c.setWidth 64).toNat =
      a.toNat * 2 ^ 32 + b.toNat * 2 ^ 16 + c.toNat := by
  have hjoin := @or_shiftLeft_eq a.toNat b.toNat c.toNat 16 16 b.isLt c.isLt
  have ha := a.isLt
  have hb := b.isLt
  rw [← hjoin]
  simp only [BitVec.toNat_or, BitVec.toNat_shiftLeft, BitVec.toNat_setWidth, Nat.shiftLeft_eq]
  congr 1 <;> [congr 1; skip] <;> omega

theorem toNat_lowBits (d e : BitVec 16) (f : BitVec 32) :
    ((d.setWidth 64 <<< 48) ||| (e.setWidth 64 <<< 32) ||| f.setWidth 64).toNat =
      d.toNat * 2 ^ 48 + e.toNat * 2 ^ 32 + f.toNat := by
  have hjoin := @or_shiftLeft_eq d.toNat e.toNat f.toNat 32 16 e.isLt f.isLt
  have hd := d.isLt
  have he := e.isLt
  rw [← hjoin]
  simp only [BitVec.toNat_or, BitVec.toNat_shiftLeft, BitVec.toNat_setWidth, Nat.shiftLeft_eq]
  congr 1 <;> [congr 1; skip] <;> omega

/-- The numbers that are written one after the other. -/
@[ext]
structure UUIDFields where
  a : BitVec 32
  b : BitVec 16
  c : BitVec 16
  d : BitVec 16
  e : BitVec 16
  f : BitVec 32

namespace UUIDFields

def ofUUID (uuid : UUIDDataType) : UUIDFields where
  a := (uuid.1 >>> 32).setWidth 32
  b := ((uuid.1 >>> 16) &&& 0xffff).setWidth 16
  c := (uuid.1 &&& 0xffff).setWidth 16
  d := ((uuid.2 >>> 48) &&& 0xffff).setWidth 16
  e := ((uuid.2 >>> 32) &&& 0xffff).setWidth 16
  f := (uuid.2 &&& 0xffffffff).setWidth 32

def toUUID (fields : UUIDFields) : UUIDDataType :=
  ((fields.a.setWidth 64 <<< 32) ||| (fields.b.setWidth 64 <<< 16) ||| fields.c.setWidth 64,
    (fields.d.setWidth 64 <<< 48) ||| (fields.e.setWidth 64 <<< 32) ||| fields.f.setWidth 64)

theorem toNat_ofUUID (uuid : UUIDDataType) :
    (ofUUID uuid).a.toNat = uuid.1.toNat / 2 ^ 32 ∧ (ofUUID uuid).b.toNat = uuid.1.toNat / 2 ^ 16 % 2 ^ 16 ∧
      (ofUUID uuid).c.toNat = uuid.1.toNat % 2 ^ 16 ∧ (ofUUID uuid).d.toNat = uuid.2.toNat / 2 ^ 48 ∧
      (ofUUID uuid).e.toNat = uuid.2.toNat / 2 ^ 32 % 2 ^ 16 ∧ (ofUUID uuid).f.toNat = uuid.2.toNat % 2 ^ 32 := by
  have hmask16 (number : Nat) : number &&& 65535 = number % 2 ^ 16 := Nat.and_two_pow_sub_one_eq_mod number 16
  have hmask32 (number : Nat) : number &&& 4294967295 = number % 2 ^ 32 := Nat.and_two_pow_sub_one_eq_mod number 32
  have hhigh := uuid.1.isLt
  have hlow := uuid.2.isLt
  simp only [ofUUID, BitVec.toNat_setWidth, BitVec.toNat_and, BitVec.toNat_ushiftRight, BitVec.reduceToNat,
    Nat.shiftRight_eq_div_pow, hmask16, hmask32]
  omega

theorem toUUID_ofUUID (uuid : UUIDDataType) : (ofUUID uuid).toUUID = uuid := by
  obtain ⟨ha, hb, hc, hd, he, hf⟩ := toNat_ofUUID uuid
  refine Prod.ext (BitVec.eq_of_toNat_eq ?_) (BitVec.eq_of_toNat_eq ?_)
  · rw [toUUID, toNat_highBits, ha, hb, hc]
    omega
  · rw [toUUID, toNat_lowBits, hd, he, hf]
    omega

theorem ofUUID_toUUID (fields : UUIDFields) : ofUUID fields.toUUID = fields := by
  obtain ⟨ha, hb, hc, hd, he, hf⟩ := toNat_ofUUID fields.toUUID
  have hhigh := toNat_highBits fields.a fields.b fields.c
  have hlow := toNat_lowBits fields.d fields.e fields.f
  have hb' := fields.b.isLt
  have hc' := fields.c.isLt
  have he' := fields.e.isLt
  have hf' := fields.f.isLt
  rw [toUUID] at ha hb hc hd he hf
  simp only [hhigh, hlow] at ha hb hc hd he hf
  ext1 <;> refine BitVec.eq_of_toNat_eq ?_ <;> rw [toUUID] <;> omega

/-- The text of the numbers. -/
def str (fields : UUIDFields) : SharedString :=
  dumpIntToHex fields.a ++ text "-" ++ dumpIntToHex fields.b ++ text "-" ++ dumpIntToHex fields.c ++ text "-" ++
    dumpIntToHex fields.d ++ text "-" ++ dumpIntToHex fields.e ++ dumpIntToHex fields.f

end UUIDFields

theorem uuidToStr_eq (uuid : UUIDDataType) : uuidToStr uuid = (UUIDFields.ofUUID uuid).str := by
  have hbuilt := SharedStringBuilder.Built.ofCapacity 36
  rw [← List.nil_append (UUIDFields.str _)]
  simp only [UUIDFields.str, ← List.append_assoc]
  refine SharedStringBuilder.Built.build ?_
  repeat refine SharedStringBuilder.Built.append ?_ _
  exact hbuilt

/-- The numbers at their offsets. -/
def UUIDFields.ofStr? (str : SharedString) : Option UUIDFields := do
  let a ← loadHexAt 32 str 0
  let b ← loadHexAt 16 str 9
  let c ← loadHexAt 16 str 14
  let d ← loadHexAt 16 str 19
  let e ← loadHexAt 16 str 24
  let f ← loadHexAt 32 str 28
  return { a, b, c, d, e, f }

theorem strToUUID_eq (str : SharedString) :
    strToUUID str =
      if str.length ≠ 36 then .error ⟨[text "invalid uuid string: size should be 36, str is", str]⟩
      else (UUIDFields.ofStr? str).elim
        (.error ⟨[text "invalid uuid string: contains non-hex character, str is", str]⟩) fun fields => .ok fields.toUUID := by
  unfold strToUUID UUIDFields.ofStr?
  congr 1
  cases loadHexAt 32 str 0 <;> cases loadHexAt 16 str 9 <;> cases loadHexAt 16 str 14 <;>
    cases loadHexAt 16 str 19 <;> cases loadHexAt 16 str 24 <;> cases loadHexAt 32 str 28 <;> rfl

/-- The numbers are read where they were written. -/
theorem UUIDFields.ofStr?_str (fields : UUIDFields) : ofStr? fields.str = some fields := by
  have hload32 := @loadIntFromHex_dumpIntToHex 32 (by decide)
  have hload16 := @loadIntFromHex_dumpIntToHex 16 (by decide)
  have hdash : (text "-").length = 1 := rfl
  simp [ofStr?, loadHexAt, str, List.drop_append, List.drop_eq_nil_of_le, List.take_of_length_le,
    hload32, hload16, hdash]

/-- The positions of the dashes -/
def UUIDDashes : List Nat := [8, 13, 18, 23]

/-- Hexadecimal digits at all positions but those of the dashes -/
def HasUUIDDigits (str : SharedString) : Prop := ∀ i < 36, i ∉ UUIDDashes → isHexDigit (str.getD i 0)

/-- Hexadecimal digits in groups of 8, 4, 4, 4 and 12, with a dash between them -/
def IsUUIDText (str : SharedString) : Prop :=
  str.length = 36 ∧ HasUUIDDigits str ∧ ∀ i ∈ UUIDDashes, str.getD i 0 = byte '-'

theorem all_piece_iff {str : SharedString} {offset count : Nat} (hlength : offset + count ≤ str.length) :
    ((str.drop offset).take count).all isHexDigit ↔
      ∀ i, offset ≤ i → i < offset + count → isHexDigit (str.getD i 0) := by
  have hget (i : Nat) (hi : i < str.length) : str.getD i 0 = str[i] := by
    rw [List.getD_eq_getElem _ _ hi]
  rw [List.all_eq_true]
  constructor
  · intro hall i hlow hhigh
    rw [hget i (by omega)]
    refine hall _ (List.mem_take_iff_getElem.mpr ⟨i - offset, ?_, ?_⟩)
    · rw [List.length_drop]
      omega
    · simp only [List.getElem_drop]
      congr 1
      omega
  · intro hall c hc
    obtain ⟨i, hi, rfl⟩ := List.mem_take_iff_getElem.mp hc
    rw [List.length_drop] at hi
    rw [List.getElem_drop, ← hget]
    exact hall (offset + i) (by omega) (by omega)

/-- Every digit is in one of the groups that are read. -/
theorem hasUUIDDigits_iff {str : SharedString} (hlength : str.length = 36) :
    HasUUIDDigits str ↔
      ((str.drop 0).take 8).all isHexDigit ∧ ((str.drop 9).take 4).all isHexDigit ∧
      ((str.drop 14).take 4).all isHexDigit ∧ ((str.drop 19).take 4).all isHexDigit ∧
      ((str.drop 24).take 4).all isHexDigit ∧ ((str.drop 28).take 8).all isHexDigit := by
  rw [all_piece_iff (by omega), all_piece_iff (by omega), all_piece_iff (by omega), all_piece_iff (by omega),
    all_piece_iff (by omega), all_piece_iff (by omega), HasUUIDDigits]
  simp only [UUIDDashes, List.mem_cons, List.not_mem_nil, or_false, not_or]
  constructor
  · intro hall
    refine ⟨?_, ?_, ?_, ?_, ?_, ?_⟩ <;>
    · intro i hlow hhigh
      exact hall i (by omega) (by omega)
  · rintro ⟨ha, hb, hc, hd, he, hf⟩ i hi hne
    by_cases h8 : i < 8
    · exact ha i (by omega) (by omega)
    by_cases h13 : i < 13
    · exact hb i (by omega) (by omega)
    by_cases h18 : i < 18
    · exact hc i (by omega) (by omega)
    by_cases h23 : i < 23
    · exact hd i (by omega) (by omega)
    by_cases h28 : i < 28
    · exact he i (by omega) (by omega)
    · exact hf i (by omega) (by omega)

/-- A text of 36 characters is its groups with a character between them. -/
theorem split_uuidText {str : SharedString} (hlength : str.length = 36) :
    str = (str.drop 0).take 8 ++ [str.getD 8 0] ++ (str.drop 9).take 4 ++ [str.getD 13 0] ++ (str.drop 14).take 4 ++
      [str.getD 18 0] ++ (str.drop 19).take 4 ++ [str.getD 23 0] ++ (str.drop 24).take 4 ++ (str.drop 28).take 8 := by
  have hone (i : Nat) (hi : i < 36) : [str.getD i 0] = (str.drop i).take 1 := by
    rw [List.drop_eq_getElem_cons (by omega), List.getD_eq_getElem _ _ (by omega)]
    rfl
  have hjoin (i m n : Nat) : (str.drop i).take m ++ (str.drop (i + m)).take n = (str.drop i).take (m + n) := by
    rw [← List.drop_drop, List.take_add]
  rw [hone 8 (by omega), hone 13 (by omega), hone 18 (by omega), hone 23 (by omega), hjoin 0 8 1, hjoin 0 9 4, hjoin 0 13 1,
    hjoin 0 14 4, hjoin 0 18 1, hjoin 0 19 4, hjoin 0 23 1, hjoin 0 24 4, hjoin 0 28 8, List.drop_zero,
    List.take_of_length_le (by omega)]

theorem exists_loadHexAt_iff {w : Nat} {str : SharedString} {offset : Nat} :
    (∃ value, loadHexAt w str offset = some value) ↔ ((str.drop offset).take (w / 4)).all isHexDigit := by
  rw [loadHexAt, loadIntFromHex_eq]
  split <;> simp_all

theorem dumpIntToHex_loadHexAt {w : Nat} {str : SharedString} {offset : Nat} {value : BitVec w} (hw : 4 ∣ w)
    (hlength : offset + w / 4 ≤ str.length) (hload : loadHexAt w str offset = some value) :
    dumpIntToHex value = ((str.drop offset).take (w / 4)).map toUpper := by
  refine dumpIntToHex_loadIntFromHex ?_ hload
  rw [List.length_take, List.length_drop, Nat.min_eq_left (by omega), Nat.div_mul_cancel hw]

namespace UUIDFields

theorem ofStr?_eq_some_iff {str : SharedString} {fields : UUIDFields} :
    ofStr? str = some fields ↔
      loadHexAt 32 str 0 = some fields.a ∧ loadHexAt 16 str 9 = some fields.b ∧ loadHexAt 16 str 14 = some fields.c ∧
      loadHexAt 16 str 19 = some fields.d ∧ loadHexAt 16 str 24 = some fields.e ∧
      loadHexAt 32 str 28 = some fields.f := by
  simp only [ofStr?, Option.bind_eq_bind, Option.bind_eq_some_iff, Option.pure_def, Option.some.injEq]
  constructor
  · rintro ⟨a, ha, b, hb, c, hc, d, hd, e, he, f, hf, rfl⟩
    exact ⟨ha, hb, hc, hd, he, hf⟩
  · rintro ⟨ha, hb, hc, hd, he, hf⟩
    exact ⟨_, ha, _, hb, _, hc, _, hd, _, he, _, hf, rfl⟩

theorem exists_ofStr?_iff {str : SharedString} (hlength : str.length = 36) :
    (∃ fields, ofStr? str = some fields) ↔ HasUUIDDigits str := by
  simp only [hasUUIDDigits_iff hlength, ofStr?_eq_some_iff]
  constructor
  · rintro ⟨fields, ha, hb, hc, hd, he, hf⟩
    exact ⟨exists_loadHexAt_iff.mp ⟨_, ha⟩, exists_loadHexAt_iff.mp ⟨_, hb⟩, exists_loadHexAt_iff.mp ⟨_, hc⟩,
      exists_loadHexAt_iff.mp ⟨_, hd⟩, exists_loadHexAt_iff.mp ⟨_, he⟩, exists_loadHexAt_iff.mp ⟨_, hf⟩⟩
  · rintro ⟨ha, hb, hc, hd, he, hf⟩
    obtain ⟨a, ha⟩ := (@exists_loadHexAt_iff 32 str 0).mpr ha
    obtain ⟨b, hb⟩ := (@exists_loadHexAt_iff 16 str 9).mpr hb
    obtain ⟨c, hc⟩ := (@exists_loadHexAt_iff 16 str 14).mpr hc
    obtain ⟨d, hd⟩ := (@exists_loadHexAt_iff 16 str 19).mpr hd
    obtain ⟨e, he⟩ := (@exists_loadHexAt_iff 16 str 24).mpr he
    obtain ⟨f, hf⟩ := (@exists_loadHexAt_iff 32 str 28).mpr hf
    exact ⟨{ a, b, c, d, e, f }, ha, hb, hc, hd, he, hf⟩

/-- What is read is written as it was, in upper case, where the characters between the groups are dashes. -/
theorem str_of_ofStr? {str : SharedString} {fields : UUIDFields} (htext : IsUUIDText str)
    (hload : ofStr? str = some fields) : fields.str = str.map toUpper := by
  obtain ⟨hlength, -, hdashes⟩ := htext
  obtain ⟨ha, hb, hc, hd, he, hf⟩ := ofStr?_eq_some_iff.mp hload
  have hdash : [byte '-'].map toUpper = text "-" := by decide +kernel
  have hsplit := split_uuidText hlength
  rw [hdashes 8 (by decide), hdashes 13 (by decide), hdashes 18 (by decide), hdashes 23 (by decide)] at hsplit
  conv_rhs => rw [hsplit]
  simp only [List.map_append, hdash, UUIDFields.str]
  rw [dumpIntToHex_loadHexAt (by decide) (by omega) ha, dumpIntToHex_loadHexAt (by decide) (by omega) hb,
    dumpIntToHex_loadHexAt (by decide) (by omega) hc, dumpIntToHex_loadHexAt (by decide) (by omega) hd,
    dumpIntToHex_loadHexAt (by decide) (by omega) he, dumpIntToHex_loadHexAt (by decide) (by omega) hf]

end UUIDFields

/-- A text is read exactly when it is that of a uuid, which has the same text up to letter case. -/
def ReadsUUIDExactly (str : SharedString) (uuid : Except FormatException UUIDDataType) : Prop :=
  ((∃ value, uuid = .ok value) ↔ IsUUIDText str) ∧
    ∀ value, uuid = .ok value → (uuidToStr value).map toLower = str.map toLower

/-- The text of every uuid is read back. A text is read as it should be exactly when it has the dashes, or is not taken
    for its size or its digits. -/
theorem strToUUID_readsExactly_iff (uuid : UUIDDataType) (str : SharedString) :
    strToUUID (uuidToStr uuid) = .ok uuid ∧
    (ReadsUUIDExactly str (strToUUID str) ↔
      (str.length = 36 → HasUUIDDigits str → ∀ i ∈ UUIDDashes, str.getD i 0 = byte '-')) := by
  constructor
  · have hlength : (uuidToStr uuid).length = 36 := by
      have hdash : (text "-").length = 1 := rfl
      simp [uuidToStr_eq, UUIDFields.str, hdash]
    rw [strToUUID_eq, if_neg (by simpa using hlength), uuidToStr_eq, UUIDFields.ofStr?_str, Option.elim_some,
      UUIDFields.toUUID_ofUUID]
  · rw [strToUUID_eq, ReadsUUIDExactly]
    by_cases hlength : str.length = 36
    · rw [if_neg (by simpa using hlength)]
      by_cases hdigits : HasUUIDDigits str
      · obtain ⟨fields, hfields⟩ := (UUIDFields.exists_ofStr?_iff hlength).mpr hdigits
        have hcase : ∀ c : UInt8, toLower (toUpper c) = toLower c := forall_byte (by decide +kernel)
        rw [hfields, Option.elim_some]
        constructor
        · rintro ⟨hiff, -⟩ - -
          exact (hiff.mp ⟨_, rfl⟩).2.2
        · intro hdashes
          have htext : IsUUIDText str := ⟨hlength, hdigits, hdashes hlength hdigits⟩
          refine ⟨iff_of_true ⟨_, rfl⟩ htext, fun value hvalue => ?_⟩
          obtain rfl := Except.ok.inj hvalue
          rw [uuidToStr_eq, UUIDFields.ofUUID_toUUID, UUIDFields.str_of_ofStr? htext hfields, List.map_map]
          exact List.map_congr_left fun c _ => hcase c
      · have hnone : UUIDFields.ofStr? str = none := by
          rw [Option.eq_none_iff_forall_ne_some]
          exact fun fields hfields => hdigits ((UUIDFields.exists_ofStr?_iff hlength).mp ⟨fields, hfields⟩)
        simp [hnone, IsUUIDText, hdigits]
    · simp [hlength, IsUUIDText]

/-- The characters between the groups are not looked at. -/
theorem not_strToUUID_readsExactly_letter :
    ¬ ReadsUUIDExactly (text "00112233x4455-6677-8899-aabbccddeeff")
      (strToUUID (text "00112233x4455-6677-8899-aabbccddeeff")) := by
  rintro ⟨hiff, -⟩
  have hread : ∃ value, strToUUID (text "00112233x4455-6677-8899-aabbccddeeff") = .ok value := ⟨_, rfl⟩
  have hdash := (hiff.mp hread).2.2 8 (by decide)
  revert hdash
  decide +kernel

end cpv
