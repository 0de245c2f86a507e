import Cpv.Http.Form

namespace cpv

inductive HttpFormCall
  | add (key value : SharedString)
  | remove (key : SharedString)
  deriving DecidableEq

namespace HttpForm

def call (form : HttpForm) : HttpFormCall → HttpForm
  | .add key value => form.add key value
  | .remove key => form.remove key

/-- Keys are not empty, and every key that is there has a value. -/
def WellFormed (form : HttpForm) : Prop :=
  ∀ key values, form.formParameters.lookup key = some values → key ≠ [] ∧ values ≠ []

theorem WellFormed.call {form : HttpForm} (hform : form.WellFormed) {call : HttpFormCall}
    (hkey : ∀ key value, call = .add key value → key ≠ []) : (form.call call).WellFormed := by
  intro key values hlookup
  cases call with
  | add other value =>
    rw [HttpForm.call, add] at hlookup
    by_cases hother : key = other
    · subst hother
      rw [AList.lookup_insert, Option.some.injEq] at hlookup
      exact ⟨hkey key value rfl, by simp [← hlookup]⟩
    · rw [AList.lookup_insert_ne hother] at hlookup
      exact hform key values hlookup
  | remove other =>
    rw [HttpForm.call, remove] at hlookup
    by_cases hother : key = other
    · subst hother
      simp at hlookup
    · rw [AList.lookup_erase_ne hother] at hlookup
      exact hform key values hlookup

theorem wellFormed_calls {calls : List HttpFormCall}
    (hkeys : ∀ key value, .add key value ∈ calls → key ≠ []) : (calls.foldl call {}).WellFormed := by
  induction calls using List.reverseRecOn with
  | nil =>
    intro key values hlookup
    simp at hlookup
  | append_singleton calls call ih =>
    rw [List.foldl_append]
    refine (ih fun key value hmem => hkeys key value (List.mem_append_left _ hmem)).call fun key value hcall => ?_
    exact hkeys key value (by simp [hcall])

/-- The pairs of keys and values in the order they are written. -/
def pairs (form : HttpForm) : List (SharedString × SharedString) :=
  form.getAll.flatMap fun parameter => parameter.2.map fun value => (parameter.1, value)

/-- The text that is written for a pair. -/
def segmentText (pair : SharedString × SharedString) : SharedString :=
  urlEncode pair.1 ++ byte '=' :: urlEncode pair.2

/-- Nothing that is encoded separates keys, values or segments. -/
theorem not_mem_urlEncode (str : SharedString) : byte '=' ∉ urlEncode str ∧ byte '&' ∉ urlEncode str := by
  have hsafe : ∀ c : UInt8, isUrlSafe c ∨ c = byte '%' → c ≠ byte '=' ∧ c ≠ byte '&' := forall_byte (by decide +kernel)
  exact ⟨fun hmem => (hsafe _ (mem_urlEncode hmem)).1 rfl, fun hmem => (hsafe _ (mem_urlEncode hmem)).2 rfl⟩

theorem segmentPair_segmentText (pair : SharedString × SharedString) :
    ownKey (segmentText pair) = some pair.1 ∧ segmentPair (segmentText pair) = pair := by
  have hsplit : (segmentText pair).splitOn (byte '=') = [urlEncode pair.1, urlEncode pair.2] := by
    rw [segmentText, List.splitOn_append_cons_self, List.splitOn_eq_singleton (not_mem_urlEncode _).1,
      List.splitOn_eq_singleton (not_mem_urlEncode _).1]
    rfl
  have hown : ownKey (segmentText pair) = some pair.1 := by
    rw [ownKey, keyText, hsplit]
    exact congrArg some (urlDecode_urlEncode pair.1)
  refine ⟨hown, ?_⟩
  rw [segmentPair, hown, valueText, hsplit]
  exact congrArg (pair.1, ·) (urlDecode_urlEncode pair.2)

theorem buildUrlEncoded_eq (form : HttpForm) :
    form.buildUrlEncoded = (form.pairs.foldl (fun built pair => buildValue pair.1 built pair.2) ([], true)).1 := by
  rw [pairs, List.foldl_flatMap, buildUrlEncoded]
  simp only [List.foldl_map]

/-- What is written for pairs has one segment for each of them. -/
theorem segments_foldl_buildValue {pairs : List (SharedString × SharedString)} (hne : pairs ≠ []) :
    let built := pairs.foldl (fun built pair => buildValue pair.1 built pair.2) ([], true)
    built.2 = false ∧ segments built.1 = pairs.map segmentText := by
  induction pairs using List.reverseRecOn with
  | nil => exact absurd rfl hne
  | append_singleton pairs pair ih =>
    have hplain : byte '&' ∉ segmentText pair := by
      rw [segmentText, List.mem_append, List.mem_cons, not_or, not_or]
      exact ⟨(not_mem_urlEncode _).2, by decide, (not_mem_urlEncode _).2⟩
    have hlast : segments (segmentText pair) = [segmentText pair] := List.splitOn_eq_singleton hplain
    rw [List.foldl_append, List.foldl_cons, List.foldl_nil]
    by_cases hfirst : pairs = []
    · subst hfirst
      refine ⟨rfl, ?_⟩
      rw [List.nil_append, List.map_singleton, ← hlast]
      simp [buildValue, segmentText]
    · obtain ⟨hflag, hsegments⟩ := ih hfirst
      refine ⟨rfl, ?_⟩
      rw [buildValue, hflag, List.map_append, List.map_singleton, ← hsegments, ← hlast]
      simp only [Bool.false_eq_true, if_false, List.append_assoc, List.singleton_append]
      exact List.splitOn_append_cons_self _ _

theorem valuesOf_pairs {entries : List (Sigma fun _ : SharedString => List SharedString)} (hkeys : entries.NodupKeys)
    (key : SharedString) :
    valuesOf (entries.flatMap fun entry => entry.2.map fun value => (entry.1, value)) key =
      (entries.dlookup key).getD [] := by
  induction entries with
  | nil => rfl
  | cons entry entries ih =>
    obtain ⟨hnew, hrest⟩ := List.nodupKeys_cons.mp hkeys
    obtain ⟨first, values⟩ := entry
    have hfirst : valuesOf (values.map fun value => (first, value)) key = if first = key then values else [] := by
      rw [valuesOf, List.filter_map, List.map_map]
      split
      · rename_i heq
        simp [heq, Function.comp_def]
      · rename_i hne
        simp [hne, Function.comp_def]
    have happend : ∀ some others, valuesOf (some ++ others) key = valuesOf some key ++ valuesOf others key :=
      fun some others => by simp [valuesOf]
    rw [List.flatMap_cons, happend, hfirst, ih hrest]
    by_cases heq : first = key
    · subst heq
      rw [List.dlookup_cons_eq, List.dlookup_eq_none.mpr hnew]
      simp
    · rw [List.dlookup_cons_ne _ _ (Ne.symm heq), if_neg heq, List.nil_append]

/-- The values of a form are written in their order. -/
theorem valuesOf_pairs_eq (form : HttpForm) (key : SharedString) : valuesOf form.pairs key = form.getMany key := by
  have hperm : form.getAll.Perm form.formParameters.entries := List.perm_insertionSort _ _
  have hkeys : form.getAll.NodupKeys := (List.perm_nodupKeys hperm).mpr form.formParameters.nodupKeys
  rw [pairs, valuesOf_pairs hkeys, List.perm_dlookup key hkeys hperm]
  rfl

theorem WellFormed.lookup_eq {form : HttpForm} (hform : form.WellFormed) (key : SharedString) :
    form.formParameters.lookup key = if form.getMany key = [] then none else some (form.getMany key) := by
  cases hlookup : form.formParameters.lookup key with
  | none => simp [getMany, hlookup]
  | some values =>
    have hne := (hform key values hlookup).2
    simp [getMany, hlookup, hne]

/-- No pair of a form has the empty key. -/
theorem WellFormed.fst_ne_nil {form : HttpForm} (hform : form.WellFormed) {pair : SharedString × SharedString}
    (hpair : pair ∈ form.pairs) : pair.1 ≠ [] := by
  have hvalue : pair.2 ∈ valuesOf form.pairs pair.1 := by
    rw [valuesOf, List.mem_map]
    exact ⟨pair, List.mem_filter.mpr ⟨hpair, decide_eq_true rfl⟩, rfl⟩
  rw [valuesOf_pairs_eq, getMany] at hvalue
  cases hlookup : form.formParameters.lookup pair.1 with
  | none => simp [hlookup] at hvalue
  | some values => exact (hform _ values hlookup).1

/-- Every segment that is written has a key of its own, which the parser reads back. -/
theorem parseUrlEncoded_segmentText {pairs : List (SharedString × SharedString)} (hne : pairs ≠ [])
    (hkeys : ∀ pair ∈ pairs, pair.1 ≠ []) {body : SharedString} (hsegments : segments body = pairs.map segmentText) :
    ({} : HttpForm).parseUrlEncoded body = ({} : HttpForm).addAll pairs := by
  have hcarries : ({} : HttpForm).CarriesNoKey body := by
    intro before segment after hsplit hown
    have hmem : segment ∈ pairs.map segmentText := by
      rw [← hsegments, hsplit]
      exact List.mem_append_right _ List.mem_cons_self
    obtain ⟨pair, -, rfl⟩ := List.mem_map.mp hmem
    rw [(segmentPair_segmentText pair).1] at hown
    cases hown
  have hcounted : formSegments body = pairs.map segmentText := by
    obtain ⟨init, last, rfl⟩ := (List.eq_nil_or_concat pairs).resolve_left hne
    rw [formSegments, hsegments, List.concat_eq_append, List.map_append, List.map_singleton, List.getLastD_concat]
    simp only [(segmentPair_segmentText last).1, Option.getD_some]
    rw [if_neg fun h => hkeys last (by simp) h.2]
  have hpairs : (pairs.map segmentText).map segmentPair = pairs := by
    rw [List.map_map]
    exact (List.map_congr_left fun pair _ => (segmentPair_segmentText pair).2).trans (List.map_id pairs)
  rw [hcarries.parseUrlEncoded_eq, hcounted, hpairs]

/-- A form whose body is parsed again has the same values under the same keys. -/
theorem parseUrlEncoded_buildUrlEncoded {calls : List HttpFormCall}
    (hkeys : ∀ key value, .add key value ∈ calls → key ≠ []) (key : SharedString) :
    (({} : HttpForm).parseUrlEncoded (calls.foldl call {}).buildUrlEncoded).formParameters.lookup key =
      (calls.foldl call {}).formParameters.lookup key := by
  have hform := wellFormed_calls hkeys
  generalize calls.foldl call {} = form at *
  have hvalues : form.formParameters.lookup key = (({} : HttpForm).addAll form.pairs).formParameters.lookup key := by
    rw [lookup_addAll, valuesOf_pairs_eq, hform.lookup_eq]
    rfl
  rw [hvalues, buildUrlEncoded_eq]
  by_cases hne : form.pairs = []
  · rw [hne]
    rfl
  · rw [parseUrlEncoded_segmentText hne (fun _ => hform.fst_ne_nil) (segments_foldl_buildValue hne).2]

/-- The values "3" and "" of the repeated key come back in their order. -/
theorem parseUrlEncoded_buildUrlEncoded_repeated :
    let calls : List HttpFormCall :=
      [.add (text "a&b") (text "1"), .add (text "c") (text "3"), .remove (text "a&b"), .add (text "c") []]
    (({} : HttpForm).parseUrlEncoded (calls.foldl call {}).buildUrlEncoded).formParameters.lookup (text "c") =
      (calls.foldl call {}).formParameters.lookup (text "c") := by
  intro calls
  refine parseUrlEncoded_buildUrlEncoded (fun key value hmem => ?_) (text "c")
  rintro rfl
  revert hmem
  simp +decide [calls]

end HttpForm

end cpv
