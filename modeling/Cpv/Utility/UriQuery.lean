import Cpv.Utility.KeyValueText
import Cpv.Utility.UriMeaning

namespace cpv

namespace UriText

/-- The text behind the '?' that begins the query. -/
def queryText (t : UriText) : SharedString → Option SharedString
  | [] => none
  | c :: rest =>
    if (t.read c rest).1.state = .Query then some rest
    else queryText (t.read c rest).1 (rest.drop (t.read c rest).2)
termination_by rest => rest.length
decreasing_by simp only [List.length_drop, List.length_cons]; omega

/-- Nothing before the query gives a parameter. -/
theorem read_beforeQuery {t : UriText} (hstate : t.state ≠ .Query) (c : UInt8) (rest : SharedString) :
    (t.read c rest).1.uri.queryParameters = t.uri.queryParameters ∧ (t.read c rest).1.queryKey = t.queryKey ∧
      ((t.read c rest).1.state = .Query → (t.read c rest).1.pending = [] ∧ (t.read c rest).2 = 0) := by
  unfold read fragmentEnd pathEnd
  unfold fragmentEnd
  grind

/-- In the query the uri parser is a reader of keys and values, which assigns to the parameters. -/
theorem readQuery_reads {t : UriText} (hstate : t.state = .Query) (query : SharedString) :
    (t.readQuery query).state = .Query ∧
      ({ map := (t.readQuery query).uri.queryParameters
         pending := (t.readQuery query).pending
         key := (t.readQuery query).queryKey } : KeyValueReader SharedString) =
        KeyValueReader.readAll (fun map key value => map.insert key value)
          { map := t.uri.queryParameters, pending := t.pending, key := t.queryKey } query := by
  induction query using List.reverseRecOn with
  | nil => exact ⟨hstate, rfl⟩
  | append_singleton query c ih =>
    obtain ⟨hstate, hreader⟩ := ih
    rw [readQuery_append_singleton, KeyValueReader.readAll_concat, ← hreader]
    generalize t.readQuery query = t at *
    obtain ⟨uri, state, pending, path, queryKey⟩ := t
    simp only at hstate
    subst hstate
    by_cases hequals : c = byte '='
    · simp only [read, KeyValueReader.read, if_pos hequals]
      exact ⟨trivial, trivial⟩
    by_cases hand : c = byte '&'
    · simp only [read, KeyValueReader.read, if_neg hequals, if_pos hand]
      exact ⟨rfl, rfl⟩
    · simp only [read, KeyValueReader.read, if_neg hequals, if_neg hand]
      exact ⟨trivial, trivial⟩

end UriText

/-- The segments of a query that give a parameter: the last one does only with a text behind its last delimiter. -/
def countedSegments (query : SharedString) : List SharedString :=
  if valueText ((segments query).getLastD []) = [] then (segments query).dropLast else segments query

/-- The segments of a query with the keys they have themselves and those that their values are put under. -/
def queryLabels (query : SharedString) : List (Labelled SharedString SharedString) :=
  labels (fun _ => false) [] (countedSegments query)

/-- The query leaves the assignments of its values under the keys they are read with. -/
theorem UriText.queryParameters_readQuery {t : UriText} (hstate : t.state = .Query)
    (hparameters : t.uri.queryParameters = ∅) (hpending : t.pending = []) (hkey : t.queryKey = [])
    (query : SharedString) :
    (t.readQuery query).finish.queryParameters = assignAll ∅ ((queryLabels query).map Labelled.takenPair) := by
  obtain ⟨hstate, hreader⟩ := readQuery_reads hstate query
  obtain ⟨init, last, hsplit⟩ := exists_segments query
  have hput : ∀ (map : StringMap SharedString) (key value other : SharedString),
      other ∈ map.insert key value ↔ other = key ∨ other ∈ map := by simp
  have hunknown : (fun key => decide (key ∈ (∅ : StringMap SharedString))) = fun _ => false := by
    funext key
    simp
  rw [hparameters, hpending, hkey, readAll_eq hput hsplit] at hreader
  simp only [takenPairs, hunknown] at hreader
  obtain ⟨hmap, hvalue, hlast⟩ := KeyValueReader.mk.inj hreader
  rw [finish, hstate, queryLabels, countedSegments, hsplit, List.getLastD_concat, List.dropLast_concat]
  simp only [hvalue]
  split
  · exact hmap
  · simp only [valueEnd, hmap, hvalue, hlast]
    rw [labels_concat, List.append_nil, List.map_append, assignAll, List.foldl_append]
    rfl

/-- The parameters of a uri are those of its query. -/
theorem UriText.queryParameters_readAll {t : UriText} {source query : SharedString} (hstate : t.state ≠ .Query)
    (hparameters : t.uri.queryParameters = ∅) (hkey : t.queryKey = []) (hquery : t.queryText source = some query) :
    (t.readAll source).queryParameters = assignAll ∅ ((queryLabels query).map Labelled.takenPair) := by
  fun_induction queryText t source with
  | case1 => cases hquery
  | case2 t c rest hbegins =>
    obtain ⟨hsame, hkeySame, hbegin⟩ := read_beforeQuery hstate c rest
    obtain ⟨hpending, hnone⟩ := hbegin hbegins
    obtain rfl := Option.some.inj hquery
    rw [readAll_cons, hnone, List.drop_zero, readAll_eq_readQuery hbegins]
    exact queryParameters_readQuery hbegins (hsame.trans hparameters) hpending (hkeySame.trans hkey) rest
  | case3 t c rest hbefore ih =>
    obtain ⟨hsame, hkeySame, -⟩ := read_beforeQuery hstate c rest
    rw [readAll_cons]
    exact ih hbefore (hsame.trans hparameters) (hkeySame.trans hkey) hquery

/-- A query is read segment by segment exactly where each segment without a key of its own that takes over one does so
    in vain. -/
theorem queryParameters_independent_iff {source query : SharedString}
    (hquery : ({} : UriText).queryText source = some query) :
    (∀ key, (Uri.parse source).queryParameters.lookup key =
        (assignAll ∅ ((countedSegments query).map segmentPair)).lookup key) ↔
      ∀ key, HarmlessFor (queryLabels query) key := by
  refine forall_congr' fun key => ?_
  rw [Uri.parse_eq, UriText.queryParameters_readAll (by decide) rfl rfl hquery, lookup_assignAll, lookup_assignAll,
    AList.lookup_empty, Option.or_none, Option.or_none, ← lastValue_taken_eq_iff, queryLabels, map_ownPair_labels]

theorem queryParameters_independent_iff_path :
    (∀ key, (Uri.parse (text "/?a=1&b=2&a=3")).queryParameters.lookup key =
        (assignAll ∅ ((countedSegments (text "a=1&b=2&a=3")).map segmentPair)).lookup key) ↔
      ∀ key, HarmlessFor (queryLabels (text "a=1&b=2&a=3")) key :=
  queryParameters_independent_iff (by decide +kernel)

/-- The second "a" stays as the key of the last segment, so that the parameter "a" is "3" in the end. -/
theorem not_queryParameters_independent_repeated :
    ({} : UriText).queryText (text "/?a=1&a=2&3") = some (text "a=1&a=2&3") ∧
      ¬ ∀ key, (Uri.parse (text "/?a=1&a=2&3")).queryParameters.lookup key =
        (assignAll ∅ ((countedSegments (text "a=1&a=2&3")).map segmentPair)).lookup key := by
  refine ⟨by decide +kernel, fun hindependent => ?_⟩
  exact absurd (hindependent (text "a")) (by decide +kernel)

end cpv
