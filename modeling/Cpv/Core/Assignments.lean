import Mathlib

variable {κ ν : Type*}

section LastValue

variable [DecidableEq κ]

/-- The value of the last pair that has the key. -/
def lastValue (pairs : List (κ × ν)) (key : κ) : Option ν := pairs.reverse.lookup key

theorem lastValue_concat_self (pairs : List (κ × ν)) (pair : κ × ν) :
    lastValue (pairs ++ [pair]) pair.1 = some pair.2 := by
  simp [lastValue, List.lookup]

theorem lastValue_concat_ne (pairs : List (κ × ν)) {pair : κ × ν} {key : κ} (hne : pair.1 ≠ key) :
    lastValue (pairs ++ [pair]) key = lastValue pairs key := by
  simp [lastValue, List.lookup, beq_false_of_ne hne.symm]

theorem lastValue_append_of_ne {after : List (κ × ν)} {key : κ} (hne : ∀ pair ∈ after, pair.1 ≠ key)
    (before : List (κ × ν)) : lastValue (before ++ after) key = lastValue before key := by
  induction after using List.reverseRecOn with
  | nil => rw [List.append_nil]
  | append_singleton after pair ih =>
    rw [← List.append_assoc, lastValue_concat_ne _ (hne pair (by simp))]
    exact ih fun other hother => hne other (by simp [hother])

/-- The map after assignments from left to right. -/
def assignAll (map : AList fun _ : κ => ν) (pairs : List (κ × ν)) : AList fun _ : κ => ν :=
  pairs.foldl (fun map pair => map.insert pair.1 pair.2) map

theorem lookup_assignAll (map : AList fun _ : κ => ν) (pairs : List (κ × ν)) (key : κ) :
    (assignAll map pairs).lookup key = (lastValue pairs key).or (map.lookup key) := by
  induction pairs using List.reverseRecOn with
  | nil => rfl
  | append_singleton pairs pair ih =>
    rw [assignAll, List.foldl_append, List.foldl_cons, List.foldl_nil]
    by_cases hkey : pair.1 = key
    · rw [← hkey, AList.lookup_insert, lastValue_concat_self]
      rfl
    · rw [AList.lookup_insert_ne (Ne.symm hkey), lastValue_concat_ne pairs hkey]
      exact ih

end LastValue

/-- An assignment that is meant, and the one that is made instead, if any. -/
structure Reading (κ ν : Type*) where
  own : κ × ν
  taken : Option (κ × ν)

/-- Whether a key plays a part in a reading. -/
def Reading.Touches (reading : Reading κ ν) (key : κ) : Prop :=
  reading.own.1 = key ∨ reading.taken.map Prod.fst = some key

section Settled

variable [DecidableEq κ]

/-- The last reading that touches a key is right, or it puts the value there that is meant to be there before, or the
    value that it is meant to put there has been put there before. -/
def SettledFor (readings : List (Reading κ ν)) (key : κ) : Prop :=
  ∀ (before : List (Reading κ ν)) (reading : Reading κ ν) (after : List (Reading κ ν)),
    readings = before ++ reading :: after → (∀ later ∈ after, ¬ later.Touches key) →
    reading.taken ≠ some reading.own →
    (∀ value, reading.taken = some (key, value) →
      reading.own.1 ≠ key ∧ lastValue (before.map Reading.own) key = some value) ∧
    (∀ value, reading.own = (key, value) →
      reading.taken.map Prod.fst ≠ some key ∧ lastValue (before.filterMap Reading.taken) key = some value)

theorem assignAll_filterMap_cons (map : AList fun _ : κ => ν) (reading : Reading κ ν) (readings : List (Reading κ ν)) :
    assignAll map ((reading :: readings).filterMap Reading.taken) =
      assignAll (assignAll map reading.taken.toList) (readings.filterMap Reading.taken) := by
  rw [List.filterMap_cons]
  cases reading.taken <;> rfl

variable {key : κ}

theorem lastValue_of_untouched (before : List (Reading κ ν)) {after : List (Reading κ ν)}
    (huntouched : ∀ later ∈ after, ¬ later.Touches key) :
    lastValue ((before ++ after).map Reading.own) key = lastValue (before.map Reading.own) key ∧
      lastValue ((before ++ after).filterMap Reading.taken) key = lastValue (before.filterMap Reading.taken) key := by
  rw [List.map_append, List.filterMap_append]
  constructor
  · refine lastValue_append_of_ne (fun pair hpair hkey => ?_) _
    obtain ⟨later, hlater, rfl⟩ := List.mem_map.mp hpair
    exact huntouched later hlater (.inl hkey)
  · refine lastValue_append_of_ne (fun pair hpair hkey => ?_) _
    obtain ⟨later, hlater, htaken⟩ := List.mem_filterMap.mp hpair
    exact huntouched later hlater (.inr (by rw [htaken, Option.map_some, hkey]))

/-- What a last reading does to a key. -/
theorem lastValue_concat_reading_eq_iff (before : List (Reading κ ν)) (reading : Reading κ ν)
    (htouches : reading.Touches key) :
    lastValue ((before ++ [reading]).filterMap Reading.taken) key = lastValue ((before ++ [reading]).map Reading.own) key ↔
      (reading.taken ≠ some reading.own →
        (∀ value, reading.taken = some (key, value) →
          reading.own.1 ≠ key ∧ lastValue (before.map Reading.own) key = some value) ∧
        (∀ value, reading.own = (key, value) →
          reading.taken.map Prod.fst ≠ some key ∧ lastValue (before.filterMap Reading.taken) key = some value)) := by
  obtain ⟨⟨name, value⟩, taken⟩ := reading
  have hself := fun (pairs : List (κ × ν)) (value : ν) => lastValue_concat_self pairs (key, value)
  have hother := fun (pairs : List (κ × ν)) (pair : κ × ν) => @lastValue_concat_ne _ _ _ pairs pair key
  rw [List.map_append, List.filterMap_append]
  cases taken with
  | none =>
    obtain rfl : name = key := htouches.resolve_right (by simp)
    simp [hself]
  | some pair =>
    obtain ⟨other, put⟩ := pair
    by_cases hname : name = key <;> by_cases htaken : other = key
    · subst hname htaken
      simp [hself]
    · subst hname
      simp [hself, hother _ (other, put) htaken, htaken]
    · subst htaken
      simp [hself, hother _ (name, value) hname, hname, eq_comm]
    · exact absurd htouches (by simp [Reading.Touches, hname, htaken])

/-- Readings come to what is meant for a key exactly if the last one that touches it leaves it so. -/
theorem lastValue_filterMap_taken_eq_iff (readings : List (Reading κ ν)) (key : κ) :
    lastValue (readings.filterMap Reading.taken) key = lastValue (readings.map Reading.own) key ↔
      SettledFor readings key := by
  constructor
  · rintro hsame before reading after rfl huntouched
    by_cases htouches : reading.Touches key
    · obtain ⟨hown, htaken⟩ := lastValue_of_untouched (before ++ [reading]) huntouched
      rw [List.append_assoc, List.singleton_append] at hown htaken
      rw [hown, htaken] at hsame
      exact (lastValue_concat_reading_eq_iff before reading htouches).mp hsame
    · refine fun _ => ⟨fun value htaken => absurd (.inr ?_) htouches, fun value hown => absurd (.inl ?_) htouches⟩
      · rw [htaken, Option.map_some]
      · rw [hown]
  · intro hsettled
    induction readings using List.reverseRecOn with
    | nil => rfl
    | append_singleton readings reading ih =>
      by_cases htouches : reading.Touches key
      · exact (lastValue_concat_reading_eq_iff readings reading htouches).mpr
          (hsettled readings reading [] rfl fun later hlater => absurd hlater List.not_mem_nil)
      · have huntouched : ∀ later ∈ [reading], ¬ later.Touches key := fun later hlater => by
          rwa [List.mem_singleton.mp hlater]
        obtain ⟨hown, htaken⟩ := lastValue_of_untouched readings huntouched
        rw [hown, htaken]
        refine ih fun before other after heq hafter => hsettled before other (after ++ [reading]) ?_ ?_
        · rw [heq, List.append_assoc, List.cons_append]
        · intro later hlater
          exact (List.mem_append.mp hlater).elim (hafter later) (huntouched later)

end Settled

/-- A value that is meant for one key and is put under another, or under the same. -/
structure Labelled (κ ν : Type*) where
  own : κ
  taken : κ
  value : ν

namespace Labelled

def ownPair (label : Labelled κ ν) : κ × ν := (label.own, label.value)

def takenPair (label : Labelled κ ν) : κ × ν := (label.taken, label.value)

def reading (label : Labelled κ ν) : Reading κ ν where
  own := label.ownPair
  taken := some label.takenPair

/-- Whether a key plays a part where a value is put. -/
def Touches (label : Labelled κ ν) (key : κ) : Prop := label.own = key ∨ label.taken = key

end Labelled

section Harmless

variable [DecidableEq κ]

/-- A value under a wrong key makes no difference for a key if another one with that key follows, or if the value is
    what the key had before. -/
def HarmlessFor (labels : List (Labelled κ ν)) (key : κ) : Prop :=
  ∀ (before : List (Labelled κ ν)) (label : Labelled κ ν) (after : List (Labelled κ ν)),
    labels = before ++ label :: after → label.own ≠ label.taken →
    (label.taken = key →
      (∃ later ∈ after, later.Touches key) ∨ lastValue (before.map Labelled.ownPair) key = some label.value) ∧
    (label.own = key →
      (∃ later ∈ after, later.Touches key) ∨ lastValue (before.map Labelled.takenPair) key = some label.value)

/-- The last one that touches a key decides: before it, nothing has to be harmless. -/
theorem harmlessFor_iff_settledFor (labels : List (Labelled κ ν)) (key : κ) :
    HarmlessFor labels key ↔ SettledFor (labels.map Labelled.reading) key := by
  have hown : (Reading.own ∘ Labelled.reading : Labelled κ ν → κ × ν) = Labelled.ownPair := rfl
  have htaken : (Reading.taken ∘ Labelled.reading : Labelled κ ν → Option (κ × ν)) = some ∘ Labelled.takenPair := rfl
  have htouches : ∀ label : Labelled κ ν, label.reading.Touches key ↔ label.Touches key := fun label => by
    simp [Reading.Touches, Labelled.Touches, Labelled.reading, Labelled.ownPair, Labelled.takenPair]
  constructor
  · intro hharmless before reading after heq huntouched hwrong
    obtain ⟨before, rest, rfl, rfl, hrest⟩ := List.map_eq_append_iff.mp heq
    obtain ⟨label, after, rfl, rfl, rfl⟩ := List.map_eq_cons_iff.mp hrest
    have hlabel : label.own ≠ label.taken := fun h => hwrong (by
      simp [Labelled.reading, Labelled.ownPair, Labelled.takenPair, h])
    have hnone : ¬ ∃ later ∈ after, later.Touches key := by
      rintro ⟨later, hlater, hkey⟩
      exact huntouched later.reading (List.mem_map_of_mem hlater) ((htouches later).mpr hkey)
    obtain ⟨hput, hmeant⟩ := hharmless before label after rfl hlabel
    rw [List.map_map, List.filterMap_map, hown, htaken, List.filterMap_eq_map]
    constructor
    · intro value hvalue
      obtain ⟨rfl, rfl⟩ : label.taken = key ∧ label.value = value := by
        simpa [Labelled.reading, Labelled.takenPair] using hvalue
      exact ⟨hlabel, (hput rfl).resolve_left hnone⟩
    · intro value hvalue
      obtain ⟨rfl, rfl⟩ : label.own = key ∧ label.value = value := by
        simpa [Labelled.reading, Labelled.ownPair] using hvalue
      refine ⟨fun hkey => hlabel ?_, (hmeant rfl).resolve_left hnone⟩
      simpa [Labelled.reading, Labelled.takenPair, eq_comm] using hkey
  · rintro hsettled before label after rfl hlabel
    by_cases hlater : ∃ later ∈ after, later.Touches key
    · exact ⟨fun _ => .inl hlater, fun _ => .inl hlater⟩
    · have hsettled := hsettled (before.map Labelled.reading) label.reading (after.map Labelled.reading) (by simp)
        (fun later hmem hkey => by
          obtain ⟨one, hone, rfl⟩ := List.mem_map.mp hmem
          exact hlater ⟨one, hone, (htouches one).mp hkey⟩)
        (by simpa [Labelled.reading, Labelled.ownPair, Labelled.takenPair, eq_comm] using hlabel)
      rw [List.map_map, List.filterMap_map, hown, htaken, List.filterMap_eq_map] at hsettled
      exact ⟨fun hkey => .inr (hsettled.1 label.value (by rw [← hkey]; rfl)).2,
        fun hkey => .inr (hsettled.2 label.value (by rw [← hkey]; rfl)).2⟩

/-- Values under wrong keys make no difference for a key exactly if each of them is put there in vain. -/
theorem lastValue_taken_eq_iff (labels : List (Labelled κ ν)) (key : κ) :
    lastValue (labels.map Labelled.takenPair) key = lastValue (labels.map Labelled.ownPair) key ↔
      HarmlessFor labels key := by
  have htaken : (Reading.taken ∘ Labelled.reading : Labelled κ ν → Option (κ × ν)) = some ∘ Labelled.takenPair := rfl
  rw [harmlessFor_iff_settledFor, ← lastValue_filterMap_taken_eq_iff, List.map_map, List.filterMap_map, htaken,
    List.filterMap_eq_map]
  rfl

end Harmless
