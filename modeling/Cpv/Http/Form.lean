import Mathlib.Data.List.Sort
import Cpv.Utility.KeyValueText

namespace cpv

/-- Class used to parse and build url encoded form -/
structure HttpForm where
  formParameters : StringMap (List SharedString) := ∅

namespace HttpForm

/-- Get all values, in the order of the keys. -/
def getAll (form : HttpForm) : List (Sigma fun _ : SharedString => List SharedString) :=
  form.formParameters.entries.insertionSort fun a b => a.1 ≤ b.1

/-- Get values associated with given key. -/
def getMany (form : HttpForm) (key : SharedString) : List SharedString := (form.formParameters.lookup key).getD []

/-- Get the first value associated with given key. -/
def get (form : HttpForm) (key : SharedString) : SharedString := (form.getMany key).headD []

/-- Add value associated with given key. -/
def add (form : HttpForm) (key value : SharedString) : HttpForm where
  formParameters := form.formParameters.insert key (form.getMany key ++ [value])

/-- Remove values associated with given key -/
def remove (form : HttpForm) (key : SharedString) : HttpForm where
  formParameters := form.formParameters.erase key

/-- Remove all values -/
def clear (_ : HttpForm) : HttpForm := {}

/-- What is left of a key that is moved to `add`: it is moved on only into a new entry of the map. -/
def keyLeft (form : HttpForm) (key : SharedString) : SharedString := if key ∈ form.formParameters then key else []

/-- The loop over the body, with the text behind `mark` and the key. -/
def parseLoop (form : HttpForm) (pending formKey : SharedString) : SharedString → HttpForm
  | [] => if pending ≠ [] ∨ formKey ≠ [] then form.add formKey (urlDecode pending) else form
  | c :: rest =>
    if c = byte '=' then parseLoop form [] (urlDecode pending) rest
    else if c = byte '&' then parseLoop (form.add formKey (urlDecode pending)) [] (form.keyLeft formKey) rest
    else parseLoop form (pending ++ [c]) formKey rest

/-- Parse url encoded form body -/
def parseUrlEncoded (form : HttpForm) (body : SharedString) : HttpForm := form.parseLoop [] [] body

/-- Append a value to what is built, of which it is known whether it is still empty. -/
def buildValue (key : SharedString) (built : SharedString × Bool) (value : SharedString) : SharedString × Bool :=
  let (fragments, isFirst) := built
  (fragments ++ (if isFirst then [] else [byte '&']) ++ urlEncode key ++ [byte '='] ++ urlEncode value, false)

/-- Append url encoded form body to packet -/
def buildUrlEncoded (form : HttpForm) : SharedString :=
  (form.getAll.foldl (fun built parameter => parameter.2.foldl (buildValue parameter.1) built) ([], true)).1

/-- Add the pairs from left to right. -/
def addAll (form : HttpForm) (pairs : List (SharedString × SharedString)) : HttpForm :=
  pairs.foldl (fun form pair => form.add pair.1 pair.2) form

end HttpForm

/-- The values of the pairs with a key. -/
def valuesOf (pairs : List (SharedString × SharedString)) (key : SharedString) : List SharedString :=
  (pairs.filter fun pair => pair.1 = key).map Prod.snd

namespace HttpForm

theorem addAll_append (form : HttpForm) (pairs others : List (SharedString × SharedString)) :
    form.addAll (pairs ++ others) = (form.addAll pairs).addAll others := List.foldl_append

theorem lookup_addAll (form : HttpForm) (pairs : List (SharedString × SharedString)) (key : SharedString) :
    (form.addAll pairs).formParameters.lookup key =
      if valuesOf pairs key = [] then form.formParameters.lookup key
      else some (form.getMany key ++ valuesOf pairs key) := by
  induction pairs using List.reverseRecOn with
  | nil => simp [addAll, valuesOf]
  | append_singleton pairs pair ih =>
    have hadd : form.addAll (pairs ++ [pair]) = (form.addAll pairs).add pair.1 pair.2 := addAll_append form pairs [pair]
    have hvalues : valuesOf (pairs ++ [pair]) key =
        valuesOf pairs key ++ if pair.1 = key then [pair.2] else [] := by
      by_cases hkey : pair.1 = key <;> simp [valuesOf, hkey]
    rw [hadd, hvalues, add]
    by_cases hkey : pair.1 = key
    · subst hkey
      have hmany : (form.addAll pairs).getMany pair.1 = form.getMany pair.1 ++ valuesOf pairs pair.1 := by
        rw [getMany, ih]
        split
        · rename_i hnil
          rw [hnil, List.append_nil, getMany]
        · rfl
      rw [AList.lookup_insert, hmany]
      simp
    · rw [AList.lookup_insert_ne (Ne.symm hkey), ih, if_neg hkey, List.append_nil]

theorem getMany_addAll (form : HttpForm) (pairs : List (SharedString × SharedString)) (key : SharedString) :
    (form.addAll pairs).getMany key = form.getMany key ++ valuesOf pairs key := by
  rw [getMany, lookup_addAll]
  split
  · rename_i hnil
    rw [hnil, List.append_nil, getMany]
  · rfl

/-- A value more under its key. -/
def put (map : StringMap (List SharedString)) (key value : SharedString) : StringMap (List SharedString) :=
  (add ⟨map⟩ key value).formParameters

theorem mem_put (map : StringMap (List SharedString)) (key value other : SharedString) :
    other ∈ put map key value ↔ other = key ∨ other ∈ map := by
  simp [put, add]

theorem putAll_put (form : HttpForm) (pairs : List (SharedString × SharedString)) :
    putAll put form.formParameters pairs = (form.addAll pairs).formParameters := by
  induction pairs generalizing form with
  | nil => rfl
  | cons pair pairs ih => exact ih (form.add pair.1 pair.2)

/-- The loop is a reader of keys and values, which adds to the form. -/
theorem parseLoop_eq (form : HttpForm) (pending formKey body : SharedString) :
    form.parseLoop pending formKey body =
      let reader := KeyValueReader.readAll put { map := form.formParameters, pending, key := formKey } body
      parseLoop ⟨reader.map⟩ reader.pending reader.key [] := by
  induction body generalizing form pending formKey with
  | nil => rfl
  | cons c body ih =>
    conv_lhs => rw [parseLoop]
    rw [KeyValueReader.readAll, List.foldl_cons, KeyValueReader.read]
    by_cases hequals : c = byte '='
    · simp only [if_pos hequals]
      exact ih form [] (urlDecode pending)
    by_cases hand : c = byte '&'
    · simp only [if_neg hequals, if_pos hand]
      exact ih (form.add formKey (urlDecode pending)) [] (form.keyLeft formKey)
    · simp only [if_neg hequals, if_neg hand]
      exact ih form (pending ++ [c]) formKey

/-- The body adds the values of its segments under the keys they are read with. Of the last one either the key or the
    text of its value is not empty. -/
theorem parseUrlEncoded_eq (form : HttpForm) {body last : SharedString} {init : List SharedString}
    (hsplit : segments body = init ++ [last]) :
    let known := fun key => decide (key ∈ form.formParameters)
    form.parseUrlEncoded body = form.addAll
      (((labels known [] init) ++
        if valueText last = [] ∧ (label known init.reverse last).taken = [] then []
        else [label known init.reverse last]).map Labelled.takenPair) := by
  intro known
  have hadd := putAll_put form (takenPairs form.formParameters init)
  rw [parseUrlEncoded, parseLoop_eq, readAll_eq mem_put hsplit]
  simp only [hadd, parseLoop]
  rw [List.map_append, addAll_append]
  by_cases hcounted : valueText last = [] ∧ (label known init.reverse last).taken = []
  · rw [if_pos hcounted, if_neg (by simpa [known] using hcounted)]
    rfl
  · rw [if_neg hcounted, if_pos (by simpa [known, -not_and, not_and_or] using hcounted)]
    rfl

/-- A key is left for a segment without one only where it is empty. -/
def CarriesNoKey (form : HttpForm) (body : SharedString) : Prop :=
  ∀ before segment after, segments body = before ++ segment :: after → ownKey segment = none →
    carriedKey (fun key => key ∈ form.formParameters) before.reverse = []

/-- The segments of a body that add a value: the last one does only with a key or a text of its value. -/
def formSegments (body : SharedString) : List SharedString :=
  let last := (segments body).getLastD []
  if valueText last = [] ∧ (ownKey last).getD [] = [] then (segments body).dropLast else segments body

theorem carriesNoKey_iff (form : HttpForm) (body : SharedString) :
    form.CarriesNoKey body ↔
      ∀ one ∈ labels (fun key => key ∈ form.formParameters) [] (segments body), one.taken = one.own := by
  constructor
  · intro hcarries one hone
    obtain ⟨before, segment, after, hsplit, rfl⟩ := (mem_labels _).mp hone
    cases hown : ownKey segment with
    | some key => simp [label, hown]
    | none => simpa [label, hown] using hcarries before segment after hsplit hown
  · intro hright before segment after hsplit hown
    have hsame := hright _ ((mem_labels _).mpr ⟨before, segment, after, hsplit, rfl⟩)
    simpa [label, hown] using hsame

/-- The number of values that come to a key. -/
theorem length_valuesOf (pairs : List (SharedString × SharedString)) (key : SharedString) :
    (valuesOf pairs key).length = pairs.countP fun pair => pair.1 = key := by
  rw [valuesOf, List.length_map, List.countP_eq_length_filter]

/-- The pairs of two lists come to a key in the same number where they leave the same forms. -/
theorem countP_eq_of_getMany {form : HttpForm} {pairs others : List (SharedString × SharedString)} {key : SharedString}
    (hsame : (form.addAll pairs).getMany key = (form.addAll others).getMany key) :
    (pairs.countP fun pair => pair.1 = key) = others.countP fun pair => pair.1 = key := by
  rw [getMany_addAll, getMany_addAll, List.append_cancel_left_eq] at hsame
  rw [← length_valuesOf, ← length_valuesOf, hsame]

/-- Values that are put under the empty key are meant for it. Where as many are put under it as are meant for it, all
    of them are right. -/
theorem taken_eq_own_of_countP {some : List (Labelled SharedString SharedString)}
    (hwrong : ∀ one ∈ some, one.taken ≠ one.own → one.own = [])
    (hcount : (some.countP fun one => one.own = []) ≤ some.countP fun one => one.taken = []) :
    ∀ one ∈ some, one.taken = one.own := by
  induction some with
  | nil => simp
  | cons first rest ih =>
    have hrest := fun one hone => hwrong one (List.mem_cons_of_mem first hone)
    have hle : (rest.countP fun one => one.taken = []) ≤ rest.countP fun one => one.own = [] := by
      refine List.countP_mono_left fun one hone htaken => ?_
      by_cases hsame : one.taken = one.own
      · rw [← hsame]
        exact htaken
      · simpa using hrest one hone hsame
    simp only [List.countP_cons, decide_eq_true_eq] at hcount
    have hfirst : first.taken = first.own := by
      by_contra hne
      have hown := hwrong first List.mem_cons_self hne
      rw [hown] at hne
      rw [if_pos hown, if_neg hne] at hcount
      omega
    rw [hfirst] at hcount
    exact List.forall_mem_cons.mpr ⟨hfirst, ih hrest (by omega)⟩

section Last

variable {form : HttpForm} {init : List (Labelled SharedString SharedString)}
  {last : Labelled SharedString SharedString} {noValue : Prop} [Decidable noValue]

theorem map_takenPair_eq (hright : ∀ one ∈ init ++ [last], one.taken = one.own) :
    (init ++ if noValue ∧ last.taken = [] then [] else [last]).map Labelled.takenPair =
      (init ++ if noValue ∧ last.own = [] then [] else [last]).map Labelled.ownPair := by
  rw [hright last (by simp)]
  refine List.map_congr_left fun one hone => ?_
  have hmem : one ∈ init ++ [last] := by
    split at hone
    · exact List.mem_append_left _ (by simpa using hone)
    · exact hone
  rw [Labelled.takenPair, hright one hmem, Labelled.ownPair]

/-- The form shows for every value whether it is right, also where the last one is not counted for want of a key. -/
theorem taken_eq_own_of_getMany (hwrong : ∀ one ∈ init ++ [last], one.taken ≠ one.own → one.own = [])
    (hsame : ∀ key,
      (form.addAll ((init ++ if noValue ∧ last.taken = [] then [] else [last]).map Labelled.takenPair)).getMany key =
      (form.addAll ((init ++ if noValue ∧ last.own = [] then [] else [last]).map Labelled.ownPair)).getMany key) :
    ∀ one ∈ init ++ [last], one.taken = one.own := by
  have hcount : ∀ key,
      ((init ++ if noValue ∧ last.taken = [] then [] else [last]).countP fun one => one.taken = key) =
        (init ++ if noValue ∧ last.own = [] then [] else [last]).countP fun one => one.own = key := by
    intro key
    have hmany := countP_eq_of_getMany (hsame key)
    rw [List.countP_map, List.countP_map] at hmany
    exact hmany
  have hinit := fun one hone => hwrong one (List.mem_append_left [last] hone)
  have hempty := hcount []
  rw [List.countP_append, List.countP_append] at hempty
  by_cases hlast : last.taken = last.own
  · rw [hlast] at hempty
    have hright := taken_eq_own_of_countP hinit (by
      split at hempty <;> simp [hlast] at hempty <;> omega)
    simpa [or_imp, forall_and] using ⟨hright, hlast⟩
  · -- a value that is meant for the empty key and put under another is missed there, or is one too many
    exfalso
    have hown := hwrong last (by simp) hlast
    have htaken : last.taken ≠ [] := hown ▸ hlast
    rw [if_neg fun h => htaken h.2] at hempty
    have hnone : ([last].countP fun one => one.taken = []) = 0 := by simpa using htaken
    have hright := taken_eq_own_of_countP hinit (by omega)
    have hequal : ∀ key, (init.countP fun one => one.taken = key) = init.countP fun one => one.own = key :=
      fun key => List.countP_congr fun one hone => by rw [hright one hone]
    by_cases hvalue : noValue
    · have hmore := hcount last.taken
      rw [if_neg fun h => htaken h.2, if_pos ⟨hvalue, hown⟩, List.countP_append, hequal, List.append_nil] at hmore
      simp at hmore
    · rw [if_neg fun h => hvalue h.1, hequal, hnone] at hempty
      simp [hown] at hempty

end Last

theorem map_segmentPair_formSegments (known : SharedString → Bool) {body last : SharedString}
    {init : List SharedString} (hsplit : segments body = init ++ [last]) :
    (formSegments body).map segmentPair =
      (labels known [] init ++ if valueText last = [] ∧ (label known init.reverse last).own = [] then []
        else [label known init.reverse last]).map Labelled.ownPair := by
  have hlabels := labels_concat known [] init last
  rw [List.append_nil] at hlabels
  rw [formSegments, hsplit]
  simp only [List.getLastD_concat, List.dropLast_concat]
  change List.map segmentPair (if valueText last = [] ∧ (label known init.reverse last).own = [] then _ else _) = _
  split
  · rw [List.append_nil, map_ownPair_labels]
  · rw [← hlabels, map_ownPair_labels]

/-- A body whose segments leave no key to others adds them one by one. -/
theorem CarriesNoKey.parseUrlEncoded_eq {form : HttpForm} {body : SharedString} (hcarries : form.CarriesNoKey body) :
    form.parseUrlEncoded body = form.addAll ((formSegments body).map segmentPair) := by
  obtain ⟨init, last, hsplit⟩ := exists_segments body
  rw [carriesNoKey_iff, hsplit, labels_concat, List.append_nil] at hcarries
  rw [HttpForm.parseUrlEncoded_eq form hsplit, map_segmentPair_formSegments _ hsplit]
  exact congrArg form.addAll (map_takenPair_eq hcarries)

/-- A body adds its segments one by one exactly where no segment without a key takes over the one of a segment
    before it. -/
theorem parseUrlEncoded_independent_iff (form : HttpForm) (body : SharedString) :
    (∀ key, (form.parseUrlEncoded body).formParameters.lookup key =
        (form.addAll ((formSegments body).map segmentPair)).formParameters.lookup key) ↔ form.CarriesNoKey body := by
  constructor
  · intro hsame
    obtain ⟨init, last, hsplit⟩ := exists_segments body
    have hwrong : ∀ one ∈ labels (fun key => key ∈ form.formParameters) [] (init ++ [last]),
        one.taken ≠ one.own → one.own = [] := by
      intro one hone hne
      obtain ⟨before, segment, after, -, rfl⟩ := (mem_labels _).mp hone
      cases hown : ownKey segment with
      | none => simp [label, hown]
      | some key => simp [label, hown] at hne
    rw [labels_concat, List.append_nil] at hwrong
    rw [carriesNoKey_iff, hsplit, labels_concat, List.append_nil]
    rw [HttpForm.parseUrlEncoded_eq form hsplit, map_segmentPair_formSegments _ hsplit] at hsame
    exact taken_eq_own_of_getMany hwrong fun key => congrArg (·.getD []) (hsame key)
  · intro hcarries key
    rw [hcarries.parseUrlEncoded_eq]

/-- The key "a" of the second segment stays for the last one. -/
theorem not_parseUrlEncoded_independent_repeated :
    ¬ ∀ key, (({} : HttpForm).parseUrlEncoded (text "a=1&a=2&3")).formParameters.lookup key =
      (({} : HttpForm).addAll ((formSegments (text "a=1&a=2&3")).map segmentPair)).formParameters.lookup key := by
  intro hindependent
  exact absurd (hindependent (text "a")) (by decide +kernel)

end HttpForm

end cpv
