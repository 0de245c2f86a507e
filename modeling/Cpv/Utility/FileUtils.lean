import Cpv.Core.Split
import Cpv.Utility.SharedString

namespace cpv

/-- The loop of `isSafePath` -/
def isSafePathLoop (lastChar : UInt8) : SharedString → Bool
  | [] => true
  | c :: filename =>
    if c = byte '\r' ∨ c = byte '\n' ∨ c = 0 ∨
      (c = byte '.' ∧ lastChar = byte '.') ∨
      (c = byte '/' ∧ lastChar = byte '/') ∨
      (c = byte '\\' ∧ lastChar = byte '\\') then false
    else isSafePathLoop c filename

/-- Check whether filename is safe (not contains ".." or "//") -/
def isSafePath (filename : SharedString) : Bool := isSafePathLoop 0 filename

/-- The components of a path, between slashes and backslashes. -/
def pathComponents (path : SharedString) : List SharedString :=
  path.splitOnP fun c => c == byte '/' || c == byte '\\'

/-- A path without ".." among its components, and without bytes that end a
    string or a line. -/
def StaysBelow (path : SharedString) : Prop :=
  text ".." ∉ pathComponents path ∧ ∀ c ∈ path, c ≠ 0 ∧ c ≠ byte '\r' ∧ c ≠ byte '\n'

/-- What the loop guarantees of a stretch of the path: no byte that ends it, and
    no second dot after a dot. -/
theorem isSafePathLoop_spec {lastChar : UInt8} {path : SharedString}
    (hsafe : isSafePathLoop lastChar path = true) :
    (∀ c ∈ path, c ≠ 0 ∧ c ≠ byte '\r' ∧ c ≠ byte '\n') ∧ ¬ text ".." <:+: lastChar :: path := by
  induction path generalizing lastChar with
  | nil =>
    refine ⟨by simp, fun hdots => ?_⟩
    have hlength := hdots.length_le
    simp [text] at hlength
  | cons c path ih =>
    rw [isSafePathLoop] at hsafe
    split at hsafe
    · cases hsafe
    · rename_i hc
      obtain ⟨hbytes, hdots⟩ := ih hsafe
      simp only [not_or, not_and] at hc
      obtain ⟨hcr, hlf, hnul, hdot, -⟩ := hc
      refine ⟨?_, ?_⟩
      · rintro other (_ | hother)
        · exact ⟨hnul, hcr, hlf⟩
        · exact hbytes other ‹_›
      · rw [List.infix_cons_iff]
        rintro (hfirst | hrest)
        · change [byte '.', byte '.'] <+: lastChar :: c :: path at hfirst
          rw [List.cons_prefix_cons, List.cons_prefix_cons] at hfirst
          exact hdot hfirst.2.1.symm hfirst.1.symm
        · exact hdots hrest

/-- A safe path has no ".." among its components. -/
theorem isSafePath_staysBelow {path : SharedString} (hsafe : isSafePath path = true) :
    StaysBelow path := by
  obtain ⟨hbytes, hdots⟩ := isSafePathLoop_spec hsafe
  refine ⟨fun hmem => hdots ?_, hbytes⟩
  exact (List.infix_of_mem_splitOnPPrepend hmem).trans (List.suffix_cons 0 path).isInfix

end cpv
