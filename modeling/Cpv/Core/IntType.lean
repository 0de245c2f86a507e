import Mathlib.Algebra.Ring.Int.Defs
import Mathlib.Algebra.Ring.Nat
import Mathlib.Data.Int.Basic
import Mathlib.Tactic.Common

/-- An integer type of 8, 16, 32 or 64 bits. -/
structure IntType where
  width : Nat
  signed : Bool
  width_mem : width ∈ [8, 16, 32, 64] := by decide
deriving DecidableEq

namespace IntType

def int32 : IntType := { width := 32, signed := true }

def uint32 : IntType := { width := 32, signed := false }

def int64 : IntType := { width := 64, signed := true }

def uint64 : IntType := { width := 64, signed := false }

variable (type : IntType)

def min : Int := if type.signed then -2 ^ (type.width - 1) else 0

def max : Int := if type.signed then 2 ^ (type.width - 1) - 1 else 2 ^ type.width - 1

/-- The numbers that are values of the type -/
def Fits (number : Int) : Prop := type.min ≤ number ∧ number ≤ type.max

instance (number : Int) : Decidable (type.Fits number) := inferInstanceAs (Decidable (_ ∧ _))

abbrev Value := { number : Int // type.Fits number }

/-- The type that an operation on values of the type computes in: int where the type is narrower. -/
def promoted : IntType := if type.width < 32 then int32 else type

/-- The result of an operation in the type. It wraps around where the type is unsigned, and an overflow of a signed type
    is undefined. -/
def compute (number : Int) : Option Int :=
  if type.signed then if type.Fits number then some number else none else some (number % 2 ^ type.width)

/-- Conversion to the type, which keeps the low bits. -/
def convert (number : Int) : Int :=
  if type.signed then number.bmod (2 ^ type.width) else number % 2 ^ type.width

/-- The result of an operation on values of the type, assigned to a variable of the type -/
def assign (number : Int) : Option Int := (type.promoted.compute number).map type.convert

variable {type} {number : Int}

/-- What holds of the eight types holds of all. -/
theorem forall_type {P : IntType → Prop}
    (hP : ∀ signed, P { width := 8, signed } ∧ P { width := 16, signed } ∧ P { width := 32, signed } ∧
      P { width := 64, signed }) (type : IntType) : P type := by
  obtain ⟨width, signed, hwidth⟩ := type
  obtain ⟨h8, h16, h32, h64⟩ := hP signed
  simp only [List.mem_cons, List.not_mem_nil, or_false] at hwidth
  rcases hwidth with rfl | rfl | rfl | rfl
  · exact h8
  · exact h16
  · exact h32
  · exact h64

theorem convert_of_fits (hfits : type.Fits number) : type.convert number = number := by
  refine forall_type (P := fun type => type.Fits number → type.convert number = number) (fun signed => ?_) type hfits
  cases signed <;> simp [Fits, min, max, convert, Int.bmod] <;> omega

theorem promoted_compute_of_fits (hfits : type.Fits number) : type.promoted.compute number = some number := by
  refine forall_type (P := fun type => type.Fits number → type.promoted.compute number = some number) (fun signed => ?_)
    type hfits
  cases signed <;> simp [Fits, min, max, promoted, compute, int32] <;> omega

/-- An operation whose result is a value of the type has this result. -/
theorem assign_of_fits (hfits : type.Fits number) : type.assign number = some number := by
  rw [assign, promoted_compute_of_fits hfits, Option.map_some, convert_of_fits hfits]

/-- The values of a signed type are values of the widest one. -/
theorem Fits.widen_signed (hfits : type.Fits number) (hsigned : type.signed) : int64.Fits number := by
  refine forall_type (P := fun type => type.signed → type.Fits number → int64.Fits number) (fun signed => ?_) type hsigned
    hfits
  cases signed <;> simp [Fits, min, max, int64]; omega

theorem Fits.widen_unsigned (hfits : type.Fits number) (hsigned : ¬ type.signed) : uint64.Fits number := by
  refine forall_type (P := fun type => ¬ type.signed → type.Fits number → uint64.Fits number) (fun signed => ?_) type
    hsigned hfits
  cases signed <;> simp [Fits, min, max, uint64]; omega

end IntType
