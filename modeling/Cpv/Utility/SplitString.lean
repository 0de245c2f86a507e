import Cpv.Core.Loop
import Cpv.Core.Words
import Cpv.Utility.SharedString

namespace cpv

/-- The first position from `pos` on with a character that fits, as `find_first_of` and `find_first_not_of` return it. -/
def findFirst (fits : UInt8 → Bool) (str : SharedString) (pos : Nat) : Option Nat :=
  ((str.drop pos).findIdx? fits).map (pos + ·)

/-- The variables of `splitString`, and the arguments of the calls of `func` that were made. -/
structure SplitState where
  startIndex : Nat := 0
  count : Nat := 0
  calls : List (SharedString × Nat) := []

/-- A round of the loop of `splitString`. -/
def splitRound (delimits : UInt8 → Bool) (str : SharedString) (state : SplitState) : Option (ForInStep SplitState) :=
  if state.startIndex < str.length then
    let index := findFirst delimits str state.startIndex
    let endIndex := index.getD str.length
    let call := ((str.drop state.startIndex).take (endIndex - state.startIndex), state.count)
    let index := findFirst (!delimits ·) str endIndex
    some (.yield {
      startIndex := index.getD str.length
      count := state.count + 1
      calls := state.calls ++ [call] })
  else some (.done state)

/-- Both overloads of `splitString`. The rounds are limited by the size of the string, there is no result when they are
    not enough. -/
def splitStringBy (delimits : UInt8 → Bool) (str : SharedString) : Option (List (SharedString × Nat)) :=
  (Loop.run (splitRound delimits str) (str.length + 1) {}).map (·.calls)

/-- Split string with specified characters. -/
def splitString (str : SharedString) (delimiter : SharedString) : Option (List (SharedString × Nat)) :=
  splitStringBy (delimiter.contains ·) str

/-- Split string with specified characters, single char version. -/
def splitStringByChar (str : SharedString) (delimiter : UInt8) : Option (List (SharedString × Nat)) :=
  splitStringBy (· == delimiter) str

section Split

variable {delimits : UInt8 → Bool} {str : SharedString}

/-- Where a search ends, at the end of the string when nothing is found. -/
theorem findFirst_spec (fits : UInt8 → Bool) {pos : Nat} (hpos : pos ≤ str.length) :
    ∃ index, (findFirst fits str pos).getD str.length = index ∧ pos ≤ index ∧ index ≤ str.length ∧
      (str.drop pos).take (index - pos) = (str.drop pos).takeWhile (!fits ·) ∧
      str.drop index = (str.drop pos).dropWhile (!fits ·) := by
  have hindex : (findFirst fits str pos).getD str.length = pos + (str.drop pos).findIdx fits := by
    unfold findFirst
    cases hfind : (str.drop pos).findIdx? fits with
    | none =>
      rw [List.findIdx?_eq_none_iff_findIdx_eq.mp hfind, List.length_drop]
      simp only [Option.map_none, Option.getD_none]
      omega
    | some found => rw [(List.findIdx?_eq_some_iff_findIdx_eq.mp hfind).2]; rfl
  have hle : (str.drop pos).findIdx fits ≤ (str.drop pos).length := List.findIdx_le_length
  rw [List.length_drop] at hle
  refine ⟨_, hindex, by omega, by omega, ?_, ?_⟩
  · rw [List.takeWhile_eq_take_findIdx_not]
    simp
  · rw [List.dropWhile_eq_drop_findIdx_not, List.drop_drop]
    simp

/-- A round takes the text up to the next delimiter, however short, and goes on behind the delimiters. -/
theorem splitRound_spec (delimits : UInt8 → Bool) (str : SharedString) (state : SplitState)
    (hstart : state.startIndex < str.length) :
    ∃ next, splitRound delimits str state = some (.yield next) ∧
      state.startIndex < next.startIndex ∧ next.startIndex ≤ str.length ∧ next.count = state.count + 1 ∧
      next.calls = state.calls ++ [((str.drop state.startIndex).takeWhile (!delimits ·), state.count)] ∧
      str.drop next.startIndex = ((str.drop state.startIndex).dropWhile (!delimits ·)).dropWhile delimits ∧
      ∀ c ∈ (str.drop next.startIndex).head?, ¬ delimits c := by
  obtain ⟨endIndex, hend, hlow, hhigh, hcall, hrest⟩ := findFirst_spec delimits (Nat.le_of_lt hstart)
  obtain ⟨next, hnext, hlow', hhigh', -, hrest'⟩ := findFirst_spec (!delimits ·) hhigh
  rw [hrest] at hrest'
  simp only [Bool.not_not] at hrest'
  refine ⟨⟨next, state.count + 1, state.calls ++ [(_, state.count)]⟩, ?_, ?_, hhigh', rfl, rfl, hrest',
    fun c hc => ?_⟩
  · rw [splitRound, if_pos hstart]
    simp only [hend, hcall, hnext]
  · have hne : str.drop state.startIndex ≠ [] := by simpa using hstart
    have hshorter := List.length_dropWhile_dropWhile_lt delimits hne
    rw [← hrest', List.length_drop, List.length_drop] at hshorter
    show state.startIndex < next
    omega
  · have hhead := List.head?_dropWhile_not delimits ((str.drop state.startIndex).dropWhile (!delimits ·))
    rw [← hrest', Option.mem_def.mp hc] at hhead
    simpa using hhead

/-- From a position without delimiter on the calls are made on the words. -/
theorem run_splitRound_words (delimits : UInt8 → Bool) (str : SharedString) (state : SplitState)
    (hstart : state.startIndex ≤ str.length)
    (hword : ∀ c ∈ (str.drop state.startIndex).head?, ¬ delimits c) {rounds : Nat}
    (hrounds : str.length - state.startIndex < rounds) :
    (Loop.run (splitRound delimits str) rounds state).map (·.calls) =
      some (state.calls ++ ((str.drop state.startIndex).words delimits).zipIdx state.count) := by
  refine Loop.run_eq
    (fun state : SplitState =>
      state.startIndex ≤ str.length ∧ ∀ c ∈ (str.drop state.startIndex).head?, ¬ delimits c)
    (fun state => str.length - state.startIndex)
    (fun state => state.calls ++ ((str.drop state.startIndex).words delimits).zipIdx state.count) SplitState.calls
    (fun before hbefore => ?_) ⟨hstart, hword⟩ hrounds
  obtain ⟨hle, hword⟩ := hbefore
  by_cases hlt : before.startIndex < str.length
  · obtain ⟨next, hround, hmore, hle', hcount, hcalls, hrest, hword'⟩ := splitRound_spec delimits str before hlt
    have hfirst : ¬ delimits str[before.startIndex] := hword _ (by simp [List.head?_drop, hlt])
    refine .inr ⟨next, hround, ⟨hle', hword'⟩, ?_, by omega⟩
    rw [hcalls, hrest, hcount, List.words_dropWhile, List.drop_eq_getElem_cons hlt, List.words_cons hfirst,
      List.zipIdx_cons, List.append_assoc, List.singleton_append]
  · refine .inl ⟨before, by rw [splitRound, if_neg hlt], ?_⟩
    rw [List.drop_eq_nil_of_le (by omega)]
    simp

/-- What `splitString` calls `func` with: the words, and the empty text first where the string begins with a
    delimiter. -/
theorem splitStringBy_eq (delimits : UInt8 → Bool) (str : SharedString) :
    splitStringBy delimits str =
      some ((if str.head?.any delimits then [] :: str.words delimits else str.words delimits).zipIdx) := by
  unfold splitStringBy
  split
  · rename_i hdelimiter
    obtain ⟨c, rest, rfl, hc⟩ : ∃ c rest, str = c :: rest ∧ delimits c := by
      cases str with
      | nil => cases hdelimiter
      | cons c rest => exact ⟨c, rest, rfl, by simpa using hdelimiter⟩
    obtain ⟨next, hround, hmore, hle, hcount, hcalls, hrest, hword⟩ :=
      splitRound_spec delimits (c :: rest) {} (Nat.zero_lt_succ _)
    have hempty : (c :: rest).takeWhile (!delimits ·) = [] := by simp [hc]
    have hsame : (c :: rest).dropWhile (!delimits ·) = c :: rest := by simp [hc]
    rw [List.drop_zero] at hcalls hrest
    rw [Loop.run_yield hround, run_splitRound_words delimits _ next hle hword (by rw [List.length_cons] at hle ⊢; omega), hcalls, hrest,
      hcount, hempty, hsame, List.words_dropWhile, List.zipIdx_cons]
    rfl
  · rename_i hword
    have hrun := run_splitRound_words delimits str {} (Nat.zero_le _)
      (fun c hc hdelimits => hword (by simp_all)) (Nat.lt_succ_self _)
    simpa using hrun

end Split

/-- `func` is called with 0, 1, 2, ... on the words of the string, one after the other. -/
def YieldsWords (delimits : UInt8 → Bool) (str : SharedString) (calls : Option (List (SharedString × Nat))) : Prop :=
  calls = some (str.words delimits).zipIdx

/-- `splitString` yields the words exactly of the strings that do not begin with a delimiter. It always ends, and both
    overloads do the same. -/
theorem splitString_yieldsWords_iff (str delimiter : SharedString) (c : UInt8) :
    (splitString str delimiter).isSome ∧
    (YieldsWords (delimiter.contains ·) str (splitString str delimiter) ↔ ∀ c ∈ str.head?, c ∉ delimiter) ∧
    (splitStringByChar str c).isSome ∧
    (YieldsWords (· == c) str (splitStringByChar str c) ↔ str.head? ≠ some c) ∧
    splitStringByChar str c = splitString str [c] := by
  have hwords (delimits : UInt8 → Bool) (str : SharedString) :
      YieldsWords delimits str (splitStringBy delimits str) ↔ ∀ c ∈ str.head?, ¬ delimits c := by
    rw [YieldsWords, splitStringBy_eq, Option.some.injEq]
    cases str with
    | nil => simp
    | cons c str =>
      by_cases hc : delimits c
      · have hlength : ([] :: (c :: str).words delimits).zipIdx ≠ ((c :: str).words delimits).zipIdx := fun heq => by
          simpa using congrArg List.length heq
        rw [List.head?_cons, Option.any_some, if_pos hc]
        simpa [hc] using hlength
      · simp [hc]
  have hends (delimits : UInt8 → Bool) (str : SharedString) : (splitStringBy delimits str).isSome := by
    rw [splitStringBy_eq, Option.isSome_some]
  refine ⟨hends _ _, ?_, hends _ _, ?_, ?_⟩
  · rw [splitString, hwords]
    simp
  · rw [splitStringByChar, hwords]
    cases str <;> simp
  · rw [splitStringByChar, splitString]
    congr 1
    funext other
    by_cases heq : other = c <;> simp [heq]

/-- A space in front of a word gives an empty text first. -/
theorem not_splitString_yieldsWords_space :
    ¬ YieldsWords ((text " ").contains ·) (text " a") (splitString (text " a") (text " ")) := by
  unfold YieldsWords
  decide +kernel

end cpv
