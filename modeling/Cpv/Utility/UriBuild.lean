import Cpv.Core.Split
import Cpv.Utility.UriMeaning

namespace cpv

namespace Uri

/-- The fragments if there are any, the path otherwise. -/
def buildPath (uri : Uri) : SharedString :=
  if uri.pathFragments ≠ [] then uri.pathFragments.flatMap fun fragment => byte '/' :: urlEncode fragment
  else if uri.path ≠ [] then urlEncode uri.path
  else []

/-- The loop over the query parameters. -/
def buildParameters (isFirst : Bool) :
    List (Sigma fun _ : SharedString => SharedString) → SharedString
  | [] => []
  | parameter :: parameters =>
    (if isFirst then [] else [byte '&']) ++ urlEncode parameter.1 ++ [byte '='] ++
      urlEncode parameter.2 ++ buildParameters false parameters

def buildAuthority (uri : Uri) : SharedString :=
  if uri.protocol ≠ [] then
    urlEncode uri.protocol ++ text "://" ++ urlEncode uri.hostname ++
      if uri.port ≠ [] then byte ':' :: uri.port else []
  else []

/-- Append uri string to packet -/
def build (uri : Uri) : SharedString :=
  uri.buildAuthority ++ uri.buildPath ++
    if uri.queryParameters.entries ≠ [] then
      byte '?' :: buildParameters true (StringMap.ordered uri.queryParameters)
    else []

end Uri

example : (Uri.parse (text "/a%20b/?b=2&a=1")).build = text "/a%20b?a=1&b=2" := by decide +kernel

/-- Nothing that is encoded ends a part of the uri but a '/'. -/
theorem urlEncode_freeOf {state : UriParserState} {str : SharedString}
    (hslash : byte '/' ∉ str ∨ byte '/' ∉ state.delimiters) : FreeOf state.delimiters (urlEncode str) := by
  have hsafe : ∀ c : UInt8, isUrlSafe c ∨ c = byte '%' → c ≠ byte '/' →
      c ∉ text "?:[]=&" := forall_byte (by decide +kernel)
  intro c hc hmem
  have hne : c ≠ byte '/' := by
    rintro rfl
    exact hslash.elim (fun h => h (slash_mem_urlEncode.mp hc)) fun h => h hmem
  have hdelimiter : c ∈ text "?:[]=&" := by
    have htext : text "?:[]=&" = [byte '?', byte ':', byte '[', byte ']', byte '=', byte '&'] := by
      decide +kernel
    rw [htext]
    cases state <;> simp only [UriParserState.delimiters, List.mem_cons, List.not_mem_nil, or_false] at hmem ⊢ <;>
      grind
  exact hsafe c (mem_urlEncode hc) hne hdelimiter

namespace UriText

@[simp] theorem readQuery_append (t : UriText) (str rest : SharedString) :
    t.readQuery (str ++ rest) = (t.readQuery str).readQuery rest := List.foldl_append

theorem readQuery_plain {t : UriText} (hstate : t.state = .Query) {str : SharedString}
    (hfree : FreeOf UriParserState.Query.delimiters str) :
    t.readQuery str = { t with pending := t.pending ++ str } := by
  obtain ⟨uri, state, pending, path, queryKey⟩ := t
  simp only at hstate
  subst hstate
  induction str generalizing pending with
  | nil => rw [List.append_nil]; rfl
  | cons c str ih =>
    have hread := read_plain (t := { uri, state := .Query, pending, path, queryKey }) []
      (hfree c List.mem_cons_self)
    rw [readQuery, List.foldl_cons, hread]
    exact (ih (fun d hd => hfree d (List.mem_cons_of_mem _ hd)) (pending ++ [c])).trans (by simp)

/-- One parameter of a query, up to the end of its value. -/
theorem readQuery_parameter {t : UriText} (hstate : t.state = .Query) (hpending : t.pending = [])
    (key value : SharedString) :
    t.readQuery (urlEncode key ++ [byte '='] ++ urlEncode value) =
      { t with queryKey := key, pending := urlEncode value } := by
  have hencoded (str : SharedString) : FreeOf UriParserState.Query.delimiters (urlEncode str) :=
    urlEncode_freeOf (Or.inr (by decide))
  obtain ⟨uri, state, pending, path, queryKey⟩ := t
  simp only at hstate hpending
  subst hstate hpending
  rw [readQuery_append, readQuery_append, readQuery_plain rfl (hencoded key), List.nil_append]
  have hequals (pending : SharedString) :
      ({ uri, state := .Query, pending, path, queryKey } : UriText).readQuery [byte '='] =
        { uri, state := .Query, path, queryKey := urlDecode pending } := rfl
  rw [hequals, readQuery_plain rfl (hencoded value), List.nil_append, urlDecode_urlEncode]

theorem readQuery_ampersand {t : UriText} (hstate : t.state = .Query) :
    t.readQuery [byte '&'] = t.valueEnd := by
  obtain ⟨uri, state, pending, path, queryKey⟩ := t
  simp only at hstate
  subst hstate
  rfl

end UriText

theorem Uri.buildParameters_concat (isFirst : Bool)
    (parameters : List (Sigma fun _ : SharedString => SharedString))
    (parameter : Sigma fun _ : SharedString => SharedString) :
    buildParameters isFirst (parameters ++ [parameter]) =
      buildParameters isFirst parameters ++
        ((if isFirst && parameters.isEmpty then [] else [byte '&']) ++
          (urlEncode parameter.1 ++ [byte '='] ++ urlEncode parameter.2)) := by
  induction parameters generalizing isFirst with
  | nil => cases isFirst <;> simp [buildParameters]
  | cons first parameters ih => simp [buildParameters, ih]

/-- All the parameters before the last are in the map when the last is read. -/
theorem UriText.readQuery_buildParameters
    (parameters : List (Sigma fun _ : SharedString => SharedString))
    (last : Sigma fun _ : SharedString => SharedString) :
    let t := ({ state := .Query } : UriText).readQuery (Uri.buildParameters true (parameters ++ [last]))
    t.state = .Query ∧ t.pending = urlEncode last.2 ∧ t.queryKey = last.1 ∧
      t.uri.queryParameters = parameters.foldl (fun map parameter => map.insert parameter.1 parameter.2) ∅ := by
  induction parameters using List.reverseRecOn generalizing last with
  | nil =>
    rw [Uri.buildParameters_concat]
    simp only [List.isEmpty_nil, Bool.and_self, if_true, Uri.buildParameters, List.nil_append]
    rw [readQuery_parameter rfl rfl]
    exact ⟨rfl, rfl, rfl, rfl⟩
  | append_singleton parameters parameter ih =>
    obtain ⟨hstate, hpending, hkey, hparameters⟩ := ih parameter
    rw [Uri.buildParameters_concat]
    generalize hread : ({ state := .Query } : UriText).readQuery
      (Uri.buildParameters true (parameters ++ [parameter])) = t at *
    have hand : (parameters ++ [parameter]).isEmpty = false := by simp
    simp only [hand, Bool.and_false, Bool.false_eq_true, if_false]
    rw [readQuery_append, hread, readQuery_append, readQuery_ampersand hstate,
      readQuery_parameter (by exact hstate) rfl]
    refine ⟨hstate, rfl, rfl, ?_⟩
    simp only [valueEnd]
    rw [hkey, hpending, hparameters, urlDecode_urlEncode, List.foldl_append]
    rfl

theorem lookup_foldl_insert {parameters : List (Sigma fun _ : SharedString => SharedString)}
    (hkeys : parameters.NodupKeys) (map : StringMap SharedString) (key : SharedString) :
    (parameters.foldl (fun map parameter => map.insert parameter.1 parameter.2) map).lookup key =
      (parameters.dlookup key).or (map.lookup key) := by
  induction parameters generalizing map with
  | nil => simp
  | cons parameter parameters ih =>
    obtain ⟨hnew, hkeys⟩ := List.nodupKeys_cons.mp hkeys
    rw [List.foldl_cons, ih hkeys]
    by_cases hkey : key = parameter.1
    · subst hkey
      rw [List.dlookup_eq_none.mpr hnew]
      obtain ⟨first, value⟩ := parameter
      simp
    · obtain ⟨first, value⟩ := parameter
      rw [AList.lookup_insert_ne hkey, List.dlookup_cons_ne _ _ hkey]

/-- The parameters of a written query: a value that ends the query is not there
    when it is empty. -/
theorem lookup_buildParameters {parameters : List (Sigma fun _ : SharedString => SharedString)}
    {last : Sigma fun _ : SharedString => SharedString} (hkeys : (parameters ++ [last]).NodupKeys)
    (key : SharedString) :
    (queryParametersOf (some (Uri.buildParameters true (parameters ++ [last])))).lookup key =
      if key = last.1 ∧ last.2 = [] then none else (parameters ++ [last]).dlookup key := by
  obtain ⟨hstate, hpending, hkey, hparameters⟩ := UriText.readQuery_buildParameters parameters last
  rw [queryParametersOf_eq]
  generalize ({ state := .Query } : UriText).readQuery
    (Uri.buildParameters true (parameters ++ [last])) = t at *
  obtain ⟨hnew, hbefore⟩ := List.nodupKeys_cons.mp (List.nodupKeys_middle.mp hkeys)
  rw [List.append_nil] at hnew hbefore
  have hmap : t.uri.queryParameters.lookup key = parameters.dlookup key := by
    rw [hparameters, lookup_foldl_insert hbefore]
    simp
  have hfinish : t.finish.queryParameters =
      if last.2 = [] then t.uri.queryParameters else t.uri.queryParameters.insert last.1 last.2 := by
    rw [UriText.finish, hstate]
    simp only [hpending, urlEncode_eq_nil]
    split
    · rfl
    · rw [UriText.valueEnd, hkey, hpending, urlDecode_urlEncode]
  rw [hfinish, List.dlookup_append]
  by_cases hkeyLast : key = last.1
  · subst hkeyLast
    rw [List.dlookup_eq_none.mpr hnew] at hmap ⊢
    obtain ⟨key, value⟩ := last
    by_cases hempty : value = []
    · simpa [hempty] using hmap
    · simp [hempty]
  · obtain ⟨lastKey, value⟩ := last
    have hother : ¬(key = lastKey ∧ value = []) := fun h => hkeyLast h.1
    rw [if_neg hother, List.dlookup_cons_ne _ _ hkeyLast, List.dlookup_nil, Option.or_none]
    split
    · exact hmap
    · rw [AList.lookup_insert_ne hkeyLast, hmap]

/-- What stands between the '/'s of the path that is written. -/
def Uri.pathPieces (uri : Uri) : List SharedString :=
  if uri.pathFragments ≠ [] then uri.pathFragments.flatMap (·.splitOn (byte '/'))
  else if uri.path ≠ [] then [[]]
  else []

theorem slashed_append (left right : List SharedString) : slashed (left ++ right) = slashed left ++ slashed right :=
  List.flatMap_append

theorem urlEncode_cons (c : UInt8) (str : SharedString) :
    urlEncode (c :: str) = UrlEncodeMapping c ++ urlEncode str := by
  rw [urlEncode_eq, urlEncode_eq, List.flatMap_cons]

/-- An encoded fragment is written with every '/' that it has. -/
theorem slashed_splitOn (str : SharedString) :
    slashed ((str.splitOn (byte '/')).map urlEncode) = byte '/' :: urlEncode str := by
  induction str with
  | nil => rfl
  | cons c str ih =>
    rw [List.splitOn_cons_eq_if_modifyHead, urlEncode_cons]
    split
    · rename_i hc
      obtain rfl := beq_iff_eq.mp hc
      have hslash : UrlEncodeMapping (byte '/') = [byte '/'] := by decide +kernel
      rw [hslash, List.map_cons, slashed, List.flatMap_cons, ← slashed, ih]
      rfl
    · obtain ⟨piece, pieces, hpieces⟩ := List.exists_cons_of_ne_nil (List.splitOn_ne_nil (byte '/') str)
      rw [hpieces, List.map_cons, slashed, List.flatMap_cons, ← slashed, List.cons_append] at ih
      rw [hpieces, List.modifyHead_cons, List.map_cons, slashed, List.flatMap_cons, ← slashed, urlEncode_cons,
        List.cons_append, List.append_assoc, (List.cons.inj ih).2]

/-- The path is written as the pieces between its '/'s. -/
theorem Uri.buildPath_eq {uri : Uri}
    (hpath : uri.pathFragments = [] → uri.path = [] ∨ uri.path = [byte '/']) :
    uri.buildPath = slashed (uri.pathPieces.map urlEncode) := by
  have hpieces : ∀ fragments : List SharedString,
      fragments.flatMap (fun fragment => byte '/' :: urlEncode fragment) =
        slashed ((fragments.flatMap (·.splitOn (byte '/'))).map urlEncode) := by
    intro fragments
    induction fragments with
    | nil => rfl
    | cons fragment fragments ih =>
      rw [List.flatMap_cons, List.flatMap_cons, List.map_append, slashed_append, slashed_splitOn, ih]
  unfold buildPath pathPieces
  split
  · exact hpieces uri.pathFragments
  · rename_i hnone
    rcases hpath (not_not.mp hnone) with hempty | hslash
    · rw [hempty]
      rfl
    · rw [hslash]
      decide +kernel

theorem withoutTrailingEmpty_eq_self_iff (fragments : List SharedString) :
    withoutTrailingEmpty fragments = fragments ↔ fragments.getLast? ≠ some [] := by
  fun_induction withoutTrailingEmpty fragments with
  | case1 => simp
  | case2 => simp
  | case3 fragment hne => simpa using hne
  | case4 fragment next fragments ih => simpa using ih

theorem withoutTrailingEmpty_subset (fragments : List SharedString) :
    withoutTrailingEmpty fragments ⊆ fragments := by
  fun_induction withoutTrailingEmpty fragments with
  | case1 => exact List.Subset.refl _
  | case2 => exact List.nil_subset _
  | case3 fragment hne => exact List.Subset.refl _
  | case4 fragment next fragments ih => exact List.cons_subset_cons fragment ih

/-- The pieces of a path give its fragments back where no fragment has a '/'
    and the last one is not empty. -/
theorem withoutTrailingEmpty_splitOn (fragments : List SharedString) :
    withoutTrailingEmpty (fragments.flatMap (·.splitOn (byte '/'))) = fragments ↔
      (∀ fragment ∈ fragments, byte '/' ∉ fragment) ∧ fragments.getLast? ≠ some [] := by
  have hsame : (∀ fragment ∈ fragments, byte '/' ∉ fragment) →
      fragments.flatMap (·.splitOn (byte '/')) = fragments := by
    intro hplain
    induction fragments with
    | nil => rfl
    | cons fragment fragments ih =>
      rw [List.flatMap_cons, List.splitOn_eq_singleton (hplain fragment List.mem_cons_self),
        ih fun other hother => hplain other (List.mem_cons_of_mem _ hother)]
      rfl
  constructor
  · intro heq
    have hplain : ∀ fragment ∈ fragments, byte '/' ∉ fragment := by
      intro fragment hfragment
      rw [← heq] at hfragment
      obtain ⟨whole, -, hpiece⟩ := List.mem_flatMap.mp (withoutTrailingEmpty_subset _ hfragment)
      exact List.not_mem_of_mem_splitOn hpiece
    rw [hsame hplain] at heq
    exact ⟨hplain, (withoutTrailingEmpty_eq_self_iff fragments).mp heq⟩
  · rintro ⟨hplain, hlast⟩
    rw [hsame hplain]
    exact (withoutTrailingEmpty_eq_self_iff fragments).mpr hlast

theorem map_withoutTrailingEmpty (fragments : List SharedString) :
    (withoutTrailingEmpty (fragments.map urlEncode)).map urlDecode = withoutTrailingEmpty fragments := by
  fun_induction withoutTrailingEmpty fragments with
  | case1 => rfl
  | case2 => rfl
  | case3 fragment hne => simp [withoutTrailingEmpty, urlEncode_eq_nil, hne]
  | case4 fragment next fragments ih =>
    rw [List.map_cons, List.map_cons, withoutTrailingEmpty, List.map_cons, urlDecode_urlEncode]
    exact congrArg (fragment :: ·) ih

theorem Uri.withoutTrailingEmpty_pathPieces (uri : Uri) :
    withoutTrailingEmpty uri.pathPieces = uri.pathFragments ↔
      (∀ fragment ∈ uri.pathFragments, byte '/' ∉ fragment) ∧ uri.pathFragments.getLast? ≠ some [] := by
  unfold pathPieces
  split
  · exact withoutTrailingEmpty_splitOn uri.pathFragments
  · rename_i hnone
    rw [not_not.mp hnone]
    split <;> simp [withoutTrailingEmpty]

theorem Uri.pathPieces_eq_nil {uri : Uri} : uri.pathPieces = [] ↔ uri.pathFragments = [] ∧ uri.path = [] := by
  unfold pathPieces
  split
  · rename_i hsome
    obtain ⟨fragment, fragments, hfragments⟩ := List.exists_cons_of_ne_nil hsome
    simp [hfragments, List.splitOn_ne_nil]
  · rename_i hnone
    split <;> simp_all

/-- The query that is written. -/
def Uri.buildQuery (uri : Uri) : Option SharedString :=
  if uri.queryParameters.entries ≠ [] then
    some (buildParameters true (StringMap.ordered uri.queryParameters))
  else none

theorem Uri.build_eq (uri : Uri) :
    uri.build = uri.buildAuthority ++ uri.buildPath ++ queryText uri.buildQuery := by
  unfold build buildQuery
  split <;> rfl

/-- The written query gives the parameters back unless the last value is empty. -/
theorem Uri.lookup_buildQuery (uri : Uri) :
    (∀ key, (queryParametersOf uri.buildQuery).lookup key = uri.queryParameters.lookup key) ↔
      ∀ last ∈ (StringMap.ordered uri.queryParameters).getLast?, last.2 ≠ [] := by
  have hperm := StringMap.ordered_perm uri.queryParameters
  have hkeys : (StringMap.ordered uri.queryParameters).NodupKeys :=
    (List.perm_nodupKeys hperm).mpr uri.queryParameters.nodupKeys
  have hlookup (key : SharedString) : uri.queryParameters.lookup key =
      (StringMap.ordered uri.queryParameters).dlookup key :=
    (List.perm_dlookup key hkeys hperm).symm
  have hempty : uri.queryParameters.entries = [] ↔ StringMap.ordered uri.queryParameters = [] := by
    constructor
    · intro hnil
      exact List.Perm.eq_nil (hnil ▸ hperm)
    · intro hnil
      exact List.Perm.eq_nil (hnil ▸ hperm).symm
  unfold buildQuery
  simp only [hlookup, ne_eq, hempty]
  generalize StringMap.ordered uri.queryParameters = parameters at *
  cases parameters using List.reverseRecOn with
  | nil => simp [queryParametersOf]
  | append_singleton parameters last =>
    rw [if_pos (by simp)]
    simp only [lookup_buildParameters hkeys, List.getLast?_concat, Option.mem_def, Option.some.injEq, forall_eq']
    constructor
    · intro hsame hvalue
      have hlast := hsame last.1
      rw [if_pos ⟨rfl, hvalue⟩] at hlast
      exact List.dlookup_eq_none.mp hlast.symm (by simp [List.keys])
    · intro hvalue key
      exact if_neg fun h => hvalue h.2

end cpv
