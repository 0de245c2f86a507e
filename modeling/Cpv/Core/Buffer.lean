import Mathlib.Data.List.Basic

variable {α : Type*}

/-- The part of a buffer between two offsets. There is none where it would have a negative length or reach beyond the
    buffer. -/
def List.slice? (source : List α) (start stop : Nat) : Option (List α) :=
  if start ≤ stop ∧ stop ≤ source.length then some ((source.drop start).take (stop - start)) else none

theorem List.slice?_eq {source : List α} {start stop : Nat} (hstart : start ≤ stop) (hstop : stop ≤ source.length) :
    source.slice? start stop = some ((source.drop start).take (stop - start)) :=
  if_pos ⟨hstart, hstop⟩

theorem List.drop_eq_cons {source : List α} {start : Nat} {value : α} (hget : source[start]? = some value) :
    source.drop start = value :: source.drop (start + 1) := by
  obtain ⟨hlt, hvalue⟩ := List.getElem?_eq_some_iff.mp hget
  rw [List.drop_eq_getElem_cons hlt, hvalue]

/-- A part of a buffer becomes longer by the value behind it. -/
theorem List.take_drop_concat {source : List α} {start stop : Nat} {value : α} (hget : source[stop]? = some value)
    (hle : start ≤ stop) :
    (source.drop start).take (stop + 1 - start) = (source.drop start).take (stop - start) ++ [value] := by
  have hlast : (source.drop start)[stop - start]? = some value := by
    rw [List.getElem?_drop, show start + (stop - start) = stop by omega]
    exact hget
  rw [show stop + 1 - start = stop - start + 1 by omega, List.take_add_one, hlast]
  rfl

/-- A buffer of a given size that is written from its beginning on. -/
structure OutputBuffer (α : Type*) (size : Nat) where
  written : List α := []
  fits : written.length ≤ size := by simp

namespace OutputBuffer

variable {size : Nat}

def empty (size : Nat) : OutputBuffer α size := {}

/-- Write some values behind the others. There is no buffer any more where they would be written beyond its end. -/
def write (buffer : OutputBuffer α size) (values : List α) : Option (OutputBuffer α size) :=
  if hfits : (buffer.written ++ values).length ≤ size then some ⟨buffer.written ++ values, hfits⟩ else none

theorem write_spec {buffer : OutputBuffer α size} (values : List α)
    (hfits : buffer.written.length + values.length ≤ size) :
    ∃ after, buffer.write values = some after ∧ after.written = buffer.written ++ values :=
  ⟨_, dif_pos (by simpa using hfits), rfl⟩

end OutputBuffer
