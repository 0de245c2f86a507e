import Cpv.Core.Buffer
import Cpv.Core.Loop
import Cpv.Utility.HexText

namespace cpv

/-- Convert bytes to hex and write to string -/
def dumpBytesToHex (bytes : SharedString) : SharedString := bytes.flatMap fun c => dumpIntToHex c.toBitVec

/-- `loadIntFromHex` from a position of a buffer on. There is no result where something behind the buffer would be
    read. -/
def loadIntFromHexAt {w : Nat} (buffer : SharedString) (hex : Nat) : Nat → BitVec w → Option (Option (BitVec w))
  | 0, uvalue => some (some uvalue)
  | hexLen + 1, uvalue => do
    let c ← buffer[hex]?
    (loadIntFromHexLoop [c] uvalue).elim (some none) (loadIntFromHexAt buffer (hex + 1) hexLen)

/-- The variables of `loadBytesFromHex`, and what it returns. -/
structure LoadBytes where
  start : Nat := 0
  str : SharedString
  result : Option Bool := none

/-- A round of the loop of `loadBytesFromHex`. -/
def loadBytesRound (hex : SharedString) (state : LoadBytes) : Option (ForInStep LoadBytes) :=
  if state.start < hex.length then do
    let c ← hex[state.start]?
    if c ≠ 0 then
      let loaded ← loadIntFromHexAt hex state.start 2 (0 : BitVec 8)
      loaded.elim (some (.done { state with result := some false })) fun c =>
        some (.yield { state with str := state.str ++ [UInt8.ofBitVec c], start := state.start + 2 })
    else some (.done { state with result := some (state.start == hex.length) })
  else some (.done { state with result := some (state.start == hex.length) })

/-- Convert hex string to bytes, which are appended to the string. Return whether the coversion is successful. -/
def loadBytesFromHex (hex str : SharedString) : Option (Bool × SharedString) :=
  (Loop.run (loadBytesRound hex) (hex.length + 1) { str }).bind fun state =>
    state.result.map fun result => (result, state.str)

/-- The byte of two hexadecimal digits. -/
def hexByte (a b : UInt8) : UInt8 := UInt8.ofNat (hexValue a * 16 + hexValue b)

/-- What `loadBytesFromHex` does with the characters that are left. -/
def loadBytesFrom : SharedString → SharedString → Option (Bool × SharedString)
  | [], str => some (true, str)
  | [a], str => if isHexDigit a then none else some (false, str)
  | a :: b :: hex, str =>
    if isHexDigit a then
      if isHexDigit b then loadBytesFrom hex (str ++ [hexByte a b]) else some (false, str)
    else some (false, str)

theorem loadIntFromHexAt_succ {w : Nat} {buffer : SharedString} {hex : Nat} {c : UInt8} (hc : buffer[hex]? = some c)
    (hexLen : Nat) (uvalue : BitVec w) :
    loadIntFromHexAt buffer hex (hexLen + 1) uvalue =
      if isHexDigit c then
        loadIntFromHexAt buffer (hex + 1) hexLen ((uvalue <<< 4) ||| BitVec.ofNat w (hexValue c))
      else some none := by
  rw [loadIntFromHexAt, hc, Option.bind_eq_bind, Option.bind_some, loadIntFromHexLoop_cons]
  split <;> rfl

/-- The first digit is read in any case, and the one behind it only where the first one is a digit. -/
theorem loadIntFromHexAt_two {buffer : SharedString} {start : Nat} {a : UInt8} (ha : buffer[start]? = some a) :
    loadIntFromHexAt buffer start 2 (0 : BitVec 8) =
      if isHexDigit a then
        buffer[start + 1]?.map fun b => if isHexDigit b then some (hexByte a b).toBitVec else none
      else some none := by
  rw [loadIntFromHexAt_succ ha]
  split
  · cases hb : buffer[start + 1]? with
    | none => rw [loadIntFromHexAt, hb]; rfl
    | some b =>
      have hfirst := shiftLeft_or_ofNat (w := 8) (hexValue_lt a ‹_›) 0
      rw [loadIntFromHexAt_succ hb, Option.map_some]
      split
      · have hsecond := shiftLeft_or_ofNat (w := 8) (hexValue_lt b ‹_›) (0 * 16 + hexValue a)
        rw [← hfirst] at hsecond
        rw [loadIntFromHexAt, show (0 : BitVec 8) = BitVec.ofNat 8 0 from rfl, hsecond, Nat.zero_mul, Nat.zero_add]
        rfl
      · rfl
  · rfl

/-- A round of the loop where characters are left. -/
theorem loadBytesRound_cons {hex rest : SharedString} {state : LoadBytes} {a : UInt8}
    (hrest : hex.drop state.start = a :: rest) :
    loadBytesRound hex state =
      if isHexDigit a then
        rest.head?.map fun b =>
          if isHexDigit b then .yield { state with str := state.str ++ [hexByte a b], start := state.start + 2 }
          else .done { state with result := some false }
      else some (.done { state with result := some false }) := by
  have ha : hex[state.start]? = some a := by
    rw [← Nat.add_zero state.start, ← List.getElem?_drop, hrest]
    rfl
  have hb : hex[state.start + 1]? = rest.head? := by
    rw [← List.getElem?_drop, hrest, List.getElem?_cons_succ, List.head?_eq_getElem?]
  have hlt : state.start < hex.length := (List.getElem?_eq_some_iff.mp ha).1
  have hzero : ∀ a, isHexDigit a → a ≠ 0 := forall_byte (by decide +kernel)
  rw [loadBytesRound, if_pos hlt, ha, Option.bind_eq_bind, Option.bind_some, loadIntFromHexAt_two ha, hb]
  by_cases hhex : isHexDigit a
  · rw [if_pos (hzero a hhex), if_pos hhex, if_pos hhex]
    cases rest with
    | nil => rfl
    | cons b rest =>
      by_cases hhex' : isHexDigit b
      · simp [hhex']
      · simp [hhex']
  · have hne : state.start ≠ hex.length := Nat.ne_of_lt hlt
    by_cases hnull : a = 0
    · simp [hnull, hne, show isHexDigit 0 = false from rfl]
    · simp [hnull, hhex]

theorem loadBytesRound_nil {hex : SharedString} {state : LoadBytes} (hrest : hex.length ≤ state.start) :
    loadBytesRound hex state = some (.done { state with result := some (state.start == hex.length) }) := by
  rw [loadBytesRound, if_neg (by omega)]

/-- The loop does with the characters that are left what the recursion over them does. -/
theorem run_loadBytesRound {hex : SharedString} (state : LoadBytes) (hstart : state.start ≤ hex.length) {rounds : Nat}
    (hrounds : hex.length - state.start < rounds) :
    ((Loop.run (loadBytesRound hex) rounds state).bind fun state =>
      state.result.map fun result => (result, state.str)) = loadBytesFrom (hex.drop state.start) state.str := by
  induction rounds generalizing state with
  | zero => omega
  | succ rounds ih =>
    match hrest : hex.drop state.start with
    | [] =>
      have hend : state.start = hex.length := by
        have hle := List.drop_eq_nil_iff.mp hrest
        omega
      rw [Loop.run_done (loadBytesRound_nil (Nat.le_of_eq hend.symm)), loadBytesFrom]
      simp [hend]
    | [a] =>
      have hround := loadBytesRound_cons hrest
      rw [loadBytesFrom]
      by_cases hhex : isHexDigit a
      · rw [if_pos hhex] at hround
        rw [Loop.run, hround, if_pos hhex]
        rfl
      · rw [if_neg hhex] at hround
        rw [Loop.run_done hround, if_neg hhex]
        rfl
    | a :: b :: rest =>
      have hround := loadBytesRound_cons hrest
      have hlength := congrArg List.length hrest
      simp only [List.length_drop, List.length_cons] at hlength
      rw [loadBytesFrom]
      by_cases hhex : isHexDigit a
      · rw [if_pos hhex] at hround
        rw [if_pos hhex]
        by_cases hhex' : isHexDigit b
        · have hnext : hex.drop (state.start + 2) = rest := by
            rw [← List.drop_drop, hrest]
            rfl
          rw [List.head?_cons, Option.map_some, if_pos hhex'] at hround
          rw [Loop.run_yield hround, if_pos hhex', ← hnext]
          exact ih _ (by simp only; omega) (by simp only; omega)
        · rw [List.head?_cons, Option.map_some, if_neg hhex'] at hround
          rw [Loop.run_done hround, if_neg hhex']
          rfl
      · rw [if_neg hhex] at hround
        rw [Loop.run_done hround, if_neg hhex]
        rfl

theorem loadBytesFromHex_eq (hex str : SharedString) : loadBytesFromHex hex str = loadBytesFrom hex str :=
  run_loadBytesRound { str } (Nat.zero_le _) (Nat.lt_succ_self _)

/-- The bytes that pairs of hexadecimal digits stand for. -/
def bytesOfHex (hex : SharedString) : SharedString :=
  (List.range (hex.length / 2)).map fun i => hexByte (hex.getD (2 * i) 0) (hex.getD (2 * i + 1) 0)

theorem bytesOfHex_cons_cons (a b : UInt8) (hex : SharedString) :
    bytesOfHex (a :: b :: hex) = hexByte a b :: bytesOfHex hex := by
  rw [bytesOfHex, show (a :: b :: hex).length / 2 = hex.length / 2 + 1 by simp only [List.length_cons]; omega,
    List.range_succ_eq_map, List.map_cons, List.map_map]
  congr 1

/-- Digits in pairs are decoded, and the loop reads beyond an odd number of them. -/
theorem loadBytesFrom_digits {hex : SharedString} (hhex : hex.all isHexDigit) (str : SharedString) :
    loadBytesFrom hex str = if Even hex.length then some (true, str ++ bytesOfHex hex) else none := by
  fun_induction loadBytesFrom hex str with
  | case1 str => simp [bytesOfHex]
  | case2 a str ha => simp
  | case3 a str ha => simp [ha] at hhex
  | case4 a b hex str ha hb ih =>
    simp only [List.all_cons, ha, hb, Bool.true_and] at hhex
    rw [ih hhex, bytesOfHex_cons_cons, List.append_assoc, List.singleton_append]
    simp only [List.length_cons, Nat.even_add_one, not_not]
  | case5 a b hex str ha hb => simp [ha, hb] at hhex
  | case6 a b hex str ha => simp [ha] at hhex

/-- The first character that is no digit ends the loop. -/
theorem loadBytesFrom_other {hex : SharedString} (hhex : ¬ hex.all isHexDigit) (str : SharedString) :
    ∃ out, loadBytesFrom hex str = some (false, out) := by
  fun_induction loadBytesFrom hex str with
  | case1 str => simp at hhex
  | case2 a str ha => simp [ha] at hhex
  | case3 a str ha => exact ⟨str, rfl⟩
  | case4 a b hex str ha hb ih => exact ih (by simpa [ha, hb] using hhex)
  | case5 a b hex str ha hb => exact ⟨str, rfl⟩
  | case6 a b hex str ha => exact ⟨str, rfl⟩

/-- Nothing behind the buffer is read, and exactly an even number of digits is decoded. -/
def DecodesExactly (hex str : SharedString) (loaded : Option (Bool × SharedString)) : Prop :=
  ∃ result out, loaded = some (result, out) ∧ (result ↔ Even hex.length ∧ hex.all isHexDigit) ∧
    (result → out = str ++ bytesOfHex hex)

/-- `loadBytesFromHex` stays inside of every buffer but those of an odd number of digits and nothing else, and decodes
    what `dumpBytesToHex` writes. -/
theorem loadBytesFromHex_decodes_iff (hex bytes str : SharedString) :
    (DecodesExactly hex str (loadBytesFromHex hex str) ↔ ¬ (Odd hex.length ∧ hex.all isHexDigit)) ∧
    loadBytesFromHex (dumpBytesToHex bytes) str = some (true, str ++ bytes) := by
  constructor
  · rw [loadBytesFromHex_eq, DecodesExactly]
    by_cases hhex : hex.all isHexDigit
    · rw [loadBytesFrom_digits hhex]
      by_cases heven : Even hex.length
      · simp [heven, hhex, Nat.not_odd_iff_even.mpr heven]
      · simp [heven, hhex, Nat.not_even_iff_odd.mp heven]
    · obtain ⟨out, hout⟩ := loadBytesFrom_other hhex str
      simp [hout, hhex]
  · have htable : ∀ c : UInt8, dumpIntToHex c.toBitVec = [hexDigit (c >>> 4), hexDigit (c &&& 15)] ∧
        isHexDigit (hexDigit (c >>> 4)) ∧ isHexDigit (hexDigit (c &&& 15)) ∧
        hexByte (hexDigit (c >>> 4)) (hexDigit (c &&& 15)) = c :=
      forall_byte (by decide +kernel)
    rw [loadBytesFromHex_eq]
    induction bytes generalizing str with
    | nil => simp [dumpBytesToHex, loadBytesFrom]
    | cons c bytes ih =>
      obtain ⟨hdump, hhigh, hlow, hbyte⟩ := htable c
      rw [dumpBytesToHex, List.flatMap_cons, hdump, List.cons_append, List.singleton_append, loadBytesFrom, if_pos hhigh,
        if_pos hlow, hbyte, ← dumpBytesToHex, ih, List.append_assoc, List.singleton_append]

/-- A digit without a second one makes the loop read behind the buffer. -/
theorem not_loadBytesFromHex_decodes_single : ¬ DecodesExactly (text "a") [] (loadBytesFromHex (text "a") []) := by
  have hnone : loadBytesFromHex (text "a") [] = none := by decide +kernel
  rintro ⟨result, out, hloaded, -⟩
  rw [hnone] at hloaded
  cases hloaded

end cpv
