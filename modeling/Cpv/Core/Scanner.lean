import Cpv.Core.Buffer
import Cpv.Core.Loop

/-- A scanner of a text with delimiters: the part it is in begins at the mark. -/
structure MarkScanner (State : Type) where
  state : State
  mark : Nat := 0
  ptr : Nat := 0

namespace MarkScanner

variable {α Part State : Type} (delimits : α → Bool) (step : State → α → Part → State)

/-- A round of the scanner, which takes the part before a delimiter out of the source. It has no result where something
    outside of the source would be read, or where the part cannot be taken. -/
def round (source : List α) (slice? : Nat → Nat → Option Part) (scanner : MarkScanner State) :
    Option (ForInStep (MarkScanner State)) :=
  if scanner.ptr < source.length then do
    let c ← source[scanner.ptr]?
    if delimits c then
      let part ← slice? scanner.mark scanner.ptr
      return .yield { state := step scanner.state c part, mark := scanner.ptr + 1, ptr := scanner.ptr + 1 }
    else return .yield { scanner with ptr := scanner.ptr + 1 }
  else some (.done scanner)

/-- What a scanner comes to over a text, with the part in front of it, and what is then left behind the mark. -/
def read (part : List α → Part) : State → List α → List α → State × List α
  | state, pending, [] => (state, pending)
  | state, pending, c :: rest =>
    if delimits c then read part (step state c (part pending)) [] rest else read part state (pending ++ [c]) rest

/-- A scanner that can take every part inside of the source reads all of the source, and nothing else. -/
theorem run_round {source : List α} {slice? : Nat → Nat → Option Part} (part : List α → Part)
    (hslice : ∀ start stop, start ≤ stop → stop ≤ source.length →
      slice? start stop = some (part ((source.drop start).take (stop - start)))) (state : State) :
    ∃ final, Loop.run (round delimits step source slice?) (source.length + 1) { state } = some final ∧
      final.mark ≤ final.ptr ∧ final.ptr = source.length ∧
      (final.state, (source.drop final.mark).take (final.ptr - final.mark)) =
        read delimits step part state [] source := by
  refine Loop.run_spec
    (fun scanner => scanner.mark ≤ scanner.ptr ∧ scanner.ptr ≤ source.length ∧
      read delimits step part scanner.state ((source.drop scanner.mark).take (scanner.ptr - scanner.mark))
        (source.drop scanner.ptr) = read delimits step part state [] source)
    (fun scanner => source.length - scanner.ptr) ?_ ⟨Nat.le_refl 0, Nat.zero_le _, by simp⟩ (by simp)
  rintro ⟨state, mark, ptr⟩ ⟨hmark, hptr, hsame⟩
  simp only at hmark hptr hsame
  unfold round
  by_cases hend : ptr < source.length
  · obtain ⟨c, hc⟩ : ∃ c, source[ptr]? = some c := ⟨_, List.getElem?_eq_getElem hend⟩
    rw [List.drop_eq_cons hc, read] at hsame
    rw [if_pos hend, hc]
    simp only [Option.bind_eq_bind, Option.bind_some]
    by_cases hdelimits : delimits c
    · rw [if_pos hdelimits] at hsame ⊢
      rw [hslice mark ptr hmark hptr]
      exact .inr ⟨_, rfl, ⟨Nat.le_refl _, hend, by simpa using hsame⟩, by simp only; omega⟩
    · rw [if_neg hdelimits] at hsame ⊢
      rw [← List.take_drop_concat hc hmark] at hsame
      exact .inr ⟨_, rfl, ⟨by simp only; omega, hend, hsame⟩, by simp only; omega⟩
  · have hlast : ptr = source.length := by omega
    rw [hlast, List.drop_length, read] at hsame
    exact .inl ⟨⟨state, mark, ptr⟩, if_neg hend, hmark, hlast, by rw [hlast]; exact hsame⟩

end MarkScanner
