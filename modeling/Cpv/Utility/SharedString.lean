import Mathlib

namespace cpv

/-- The text of a shared string: its bytes, whatever buffer they live in. -/
abbrev SharedString := List UInt8

/-- The bytes of an ASCII literal of the source. -/
def text (literal : String) : SharedString :=
  literal.toList.map fun c => c.toNat.toUInt8

/-- The byte of an ASCII character of the source. -/
abbrev byte (c : Char) : UInt8 := c.toNat.toUInt8

/-- What holds of every entry of a table of bytes holds of every byte. -/
theorem forall_byte {P : UInt8 → Prop} (htable : ∀ c : Fin 256, P (UInt8.ofFin c)) (c : UInt8) : P c := by
  simpa using htable c.toFin

/-- A text that a table of replacements does not make longer has nothing to
    replace, where every replacement is the byte itself or longer than it. -/
theorem flatMap_eq_self {mapping : UInt8 → SharedString} (hmapping : ∀ c, mapping c = [c] ∨ 1 < (mapping c).length)
    {str : SharedString} (hsize : (str.map fun c => (mapping c).length).sum = str.length) :
    str.flatMap mapping = str := by
  have hle : ∀ str : SharedString, str.length ≤ (str.map fun c => (mapping c).length).sum := by
    intro str
    induction str with
    | nil => simp
    | cons c str ih =>
      have hone : 1 ≤ (mapping c).length := by
        rcases hmapping c with heq | hlt
        · simp [heq]
        · omega
      simp only [List.length_cons, List.map_cons, List.sum_cons]
      omega
  induction str with
  | nil => rfl
  | cons c str ih =>
    have hrest := hle str
    simp only [List.length_cons, List.map_cons, List.sum_cons] at hsize
    rcases hmapping c with heq | hlt
    · rw [heq, List.length_singleton] at hsize
      rw [List.flatMap_cons, heq, ih (by omega), List.singleton_append]
    · omega

/-- Return whether string starts with given pattern -/
def startsWith (str pattern : SharedString) : Bool := pattern.isPrefixOf str

/-- Return whether string ends with given pattern -/
def endsWith (str pattern : SharedString) : Bool := pattern.isSuffixOf str

/-- Decimal representation of an unsigned integer, as `SharedString::fromInt`
    and `SharedStringBuilder::append` write it. -/
def fromInt (value : Nat) : SharedString := text (Nat.repr value)

end cpv
