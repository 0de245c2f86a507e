import Mathlib.Data.List.Induction
import Cpv.Utility.UriSyntax

namespace cpv

namespace UriText

/-- The state after a text of the query, of which no character looks ahead. -/
def readQuery (t : UriText) (query : SharedString) : UriText :=
  query.foldl (fun t c => (t.read c []).1) t

theorem readAll_eq_readQuery {t : UriText} (hstate : t.state = .Query) (query : SharedString) :
    t.readAll query = (t.readQuery query).finish := by
  induction query generalizing t with
  | nil => exact readAll_nil t
  | cons c query ih =>
    have hread : t.read c query = ((t.read c []).1, 0) ∧ (t.read c []).1.state = .Query := by
      unfold read valueEnd
      grind
    rw [readAll_cons, hread.1]
    exact ih hread.2

@[simp] theorem readQuery_append_singleton (t : UriText) (query : SharedString) (c : UInt8) :
    t.readQuery (query ++ [c]) = ((t.readQuery query).read c []).1 := by
  rw [readQuery, List.foldl_append]
  rfl

theorem insert_ne_empty (parameters : StringMap SharedString) (key value : SharedString) :
    parameters.insert key value ≠ ∅ := by
  intro hempty
  have hmem : key ∈ parameters.insert key value := by simp
  rw [hempty] at hmem
  exact AList.notMem_empty key hmem

/-- What is known of the state after a text of the query. -/
structure QueryRead (query : SharedString) (t : UriText) : Prop where
  state : t.state = .Query
  ampersand : byte '&' ∈ query → t.uri.queryParameters ≠ ∅
  parameter : byte '&' ∉ query → t.uri.queryParameters = ∅
  pending : byte '&' ∉ query → (t.pending = [] ↔ query = [] ∨ query.getLast? = some (byte '='))

theorem readQuery_queryRead (query : SharedString) :
    QueryRead query (({ state := .Query } : UriText).readQuery query) := by
  induction query using List.reverseRecOn with
  | nil => exact ⟨rfl, by simp, fun _ => rfl, by simp [readQuery]⟩
  | append_singleton query c ih =>
    rw [readQuery_append_singleton]
    obtain ⟨hstate, hampersand, hparameter, hpending⟩ := ih
    generalize ({ state := .Query } : UriText).readQuery query = t at *
    obtain ⟨uri, state, pending, path, queryKey⟩ := t
    simp only at hstate hampersand hparameter hpending
    subst hstate
    unfold read
    by_cases hequals : c = byte '='
    · subst hequals
      simp +decide only [if_true]
      exact ⟨rfl, by simpa using hampersand, by simpa using hparameter, by simp⟩
    by_cases hand : c = byte '&'
    · subst hand
      simp +decide only [if_true, if_false]
      exact ⟨rfl, fun _ => insert_ne_empty _ _ _, by simp, by simp⟩
    · simp only [hequals, hand, if_false]
      exact ⟨rfl, by grind, by grind, by grind⟩

end UriText

theorem queryParametersOf_eq (query : SharedString) :
    queryParametersOf (some query) =
      (({ state := .Query } : UriText).readQuery query).finish.queryParameters := by
  have hread : ({} : UriText).read (byte '?') query = ({ state := .Query }, 0) := rfl
  rw [queryParametersOf, Uri.parse_eq, UriText.readAll_cons, hread, List.drop_zero,
    UriText.readAll_eq_readQuery rfl]

/-- A query gives no parameter only where it has one key and no value at most. -/
theorem queryParametersOf_eq_empty_iff (query : SharedString) :
    queryParametersOf (some query) = ∅ ↔
      byte '&' ∉ query ∧ (query = [] ∨ query.getLast? = some (byte '=')) := by
  rw [queryParametersOf_eq]
  obtain ⟨hstate, hampersand, hparameter, hpending⟩ := UriText.readQuery_queryRead query
  generalize ({ state := .Query } : UriText).readQuery query = t at *
  have hfinish : t.finish = if t.pending = [] then t.uri else t.valueEnd.uri := by
    rw [UriText.finish, hstate]
  rw [hfinish]
  constructor
  · intro hempty
    split at hempty
    · rename_i hnil
      have hplain : byte '&' ∉ query := fun hmem => hampersand hmem hempty
      exact ⟨hplain, (hpending hplain).mp hnil⟩
    · exact absurd hempty (UriText.insert_ne_empty _ _ _)
  · rintro ⟨hplain, hlast⟩
    rw [if_pos ((hpending hplain).mpr hlast)]
    exact hparameter hplain

/-- A query behind a hostname is read as a part of the hostname. Nothing shows
    it where the query gives no parameter and the hostname decodes to the same
    all the same: its '?' is the end of an escape that is cut off, or a '[' that
    nothing closes loses a hostname that is empty. -/
def QueryUnseen (name query : SharedString) : Prop :=
  (query = [] ∧ urlDecode (name ++ [byte '?']) = urlDecode name) ∨
    (urlDecode name = [] ∧
      ∃ before inner, query = before ++ byte '[' :: (inner ++ [byte '=']) ∧
        FreeOf UriParserState.Hostname.delimiters before ∧
        FreeOf UriParserState.HostnameV6.delimiters inner ∧ byte '&' ∉ before ++ inner)

/-- The first delimiter of the hostname decides how such a query is read. -/
theorem QueryUnseen.first {name before rest : SharedString} {c : UInt8}
    (h : QueryUnseen name (before ++ c :: rest))
    (hbefore : FreeOf UriParserState.Hostname.delimiters before)
    (hc : c ∈ UriParserState.Hostname.delimiters) :
    c = byte '[' ∧ urlDecode name = [] ∧ FreeOf UriParserState.HostnameV6.delimiters rest ∧
      byte '&' ∉ before ++ c :: rest ∧ rest.getLast? = some (byte '=') := by
  rcases h with ⟨hnil, -⟩ | ⟨hname, before', inner, heq, hbefore', hinner, hand⟩
  · simp at hnil
  · obtain ⟨rfl, rfl, rfl⟩ := first_unique heq hbefore hbefore' hc (by decide)
    refine ⟨rfl, hname, ?_, ?_, by simp⟩
    · simp only [FreeOf, List.mem_append, List.mem_singleton]
      rintro c (hmem | rfl)
      · exact hinner c hmem
      · decide
    · simpa +decide [or_assoc] using hand

namespace UriText

/-- A query without a delimiter of the hostname is lost in it. -/
theorem readAll_name_query_plain (protocol name : SharedString) {query : SharedString}
    (hfree : FreeOf UriParserState.Hostname.delimiters query) :
    ({ uri := { protocol }, state := .Hostname, pending := name ++ [byte '?'] } : UriText).readAll query =
        { protocol, hostname := urlDecode name, queryParameters := queryParametersOf (some query) } ↔
      QueryUnseen name query := by
  rw [← List.append_nil query, readAll_append _ hfree, readAll_nil, List.append_nil]
  have hne : name ++ [byte '?'] ++ query ≠ [] := by simp
  simp only [finish, hne, if_false]
  constructor
  · intro heq
    left
    have hhost : urlDecode (name ++ byte '?' :: query) = urlDecode name := by
      simpa using congrArg Uri.hostname heq
    have hquery : query = [] := by
      by_contra hquery
      exact urlDecode_append_ne name hquery hhost
    subst hquery
    exact ⟨rfl, hhost⟩
  · rintro (⟨rfl, hhost⟩ | ⟨-, before, inner, rfl, -⟩)
    · rw [List.append_nil, hhost, (queryParametersOf_eq_empty_iff []).mpr (by simp)]
    · exact absurd (by decide) (hfree (byte '[') (by simp))

/-- A '/' in it begins a path. -/
theorem readAll_name_query_slash (protocol pending rest hostname : SharedString)
    (queryParameters : StringMap SharedString) :
    ({ uri := { protocol }, state := .Hostname, pending } : UriText).readAll (byte '/' :: rest) ≠
      { protocol, hostname, queryParameters } := by
  intro heq
  rw [readAll_cons] at heq
  have hpath := PathKept.readAll
    (t := (({ uri := { protocol }, state := .Hostname, pending } : UriText).read (byte '/') rest).1)
    (Or.inl ⟨rfl, rfl⟩) rest
  exact absurd (congrArg Uri.path heq) hpath

/-- A ':' in it begins a port, or the query ends with it. -/
theorem readAll_name_query_colon (protocol pending before rest hostname : SharedString) :
    ({ uri := { protocol }, state := .Hostname, pending } : UriText).readAll (byte ':' :: rest) ≠
      { protocol, hostname, queryParameters := queryParametersOf (some (before ++ byte ':' :: rest)) } := by
  have hread : ({ uri := { protocol }, state := .Hostname, pending } : UriText).read (byte ':') rest =
      ({ uri := { protocol, hostname := urlDecode pending }, state := .Port }, 0) := rfl
  rw [readAll_cons, hread, List.drop_zero]
  intro heq
  by_cases hrest : rest = []
  · subst hrest
    rw [readAll_nil, finish, if_pos rfl] at heq
    have hempty := (congrArg Uri.queryParameters heq).symm
    simp +decide [queryParametersOf_eq_empty_iff] at hempty
  · obtain ⟨taken, after, hsplit, hport, hpath⟩ := port_readAll
      { protocol, hostname := urlDecode pending } rfl [] rest
    have hafter : after = [] := by
      by_contra hne
      exact hpath hne (congrArg Uri.path heq)
    have htaken : [] ++ taken = [] := hport.symm.trans (congrArg Uri.port heq)
    rw [List.nil_append] at htaken
    exact hrest (by rw [hsplit, htaken, hafter, List.append_nil])

/-- A '[' in it that nothing closes loses the hostname. -/
theorem readAll_name_query_open (protocol name : SharedString) {before rest : SharedString}
    (hbefore : FreeOf UriParserState.Hostname.delimiters before)
    (hinner : FreeOf UriParserState.HostnameV6.delimiters rest) (pending : SharedString) :
    ({ uri := { protocol }, state := .HostnameV6, pending } : UriText).readAll rest =
        { protocol, hostname := urlDecode name
          queryParameters := queryParametersOf (some (before ++ byte '[' :: rest)) } ↔
      QueryUnseen name (before ++ byte '[' :: rest) := by
  rw [← List.append_nil rest, readAll_append _ hinner, readAll_nil, List.append_nil]
  simp only [finish]
  constructor
  · intro heq
    obtain ⟨hand, hlast⟩ := (queryParametersOf_eq_empty_iff _).mp (congrArg Uri.queryParameters heq).symm
    have hclosed : ∃ inner, rest = inner ++ [byte '='] := by
      cases rest using List.reverseRecOn with
      | nil => simp +decide at hlast
      | append_singleton inner c =>
        rw [← List.cons_append, ← List.append_assoc, List.getLast?_concat, Option.some.injEq] at hlast
        exact ⟨inner, by rw [hlast.resolve_left (by simp)]⟩
    obtain ⟨inner, rfl⟩ := hclosed
    right
    refine ⟨(congrArg Uri.hostname heq).symm, before, inner, rfl, hbefore, ?_, ?_⟩
    · exact fun c hc => hinner c (by simp [hc])
    · simp at hand ⊢
      grind
  · intro h
    obtain ⟨-, hname, -, hand, hlast⟩ := h.first hbefore (by decide)
    rw [hname, (queryParametersOf_eq_empty_iff _).mpr ⟨hand, Or.inr ?_⟩]
    cases rest with
    | nil => simp at hlast
    | cons c rest => simpa using hlast

/-- A '[' in it that is closed makes an IPv6 literal out of it. -/
theorem readAll_name_query_closed (protocol name before : SharedString) {inner : SharedString}
    (hinner : FreeOf UriParserState.HostnameV6.delimiters inner) (after : SharedString)
    (queryParameters : StringMap SharedString) :
    ({ uri := { protocol }, state := .HostnameV6
       pending := name ++ [byte '?'] ++ before ++ [byte '['] } : UriText).readAll (inner ++ byte ']' :: after) ≠
      { protocol, hostname := urlDecode name, queryParameters } := by
  intro heq
  have hhost : ∀ t : UriText, t.state = .HostnameV6 →
      ((t.readAll (inner ++ byte ']' :: after)).hostname = urlDecode (t.pending ++ inner ++ [byte ']'])) := by
    rintro ⟨uri, state, pending, path, queryKey⟩ hstate
    simp only at hstate
    subst hstate
    rw [readAll_append _ hinner, readAll_cons, hostname_readAll]
    all_goals
      unfold read
      grind
  have hlost := (hhost _ rfl).symm.trans (congrArg Uri.hostname heq)
  refine absurd ?_ (urlDecode_append_ne name (List.append_ne_nil_of_right_ne_nil
    (before ++ byte '[' :: inner) (List.cons_ne_nil (byte ']') [])))
  simpa using hlost

/-- A query behind a bare hostname is lost in the hostname. -/
theorem readAll_name_query (protocol name query : SharedString) :
    ({ uri := { protocol }, state := .Hostname, pending := name } : UriText).readAll (byte '?' :: query) =
        { protocol, hostname := urlDecode name, queryParameters := queryParametersOf (some query) } ↔
      QueryUnseen name query := by
  have hplain : byte '?' ∉ UriParserState.Hostname.delimiters := by decide
  rw [readAll_cons, read_plain _ hplain, List.drop_zero]
  -- the first delimiter of the hostname decides
  rcases exists_first UriParserState.Hostname.delimiters query with hfree | ⟨before, c, rest, rfl, hbefore, hc⟩
  · exact readAll_name_query_plain protocol name hfree
  rw [readAll_append _ hbefore]
  simp only [UriParserState.delimiters, List.mem_cons, List.not_mem_nil, or_false] at hc
  rcases hc with rfl | rfl | rfl
  · refine iff_of_false (readAll_name_query_slash _ _ _ _ _) fun h => ?_
    exact absurd (h.first hbefore (by decide)).1 (by decide)
  · refine iff_of_false (readAll_name_query_colon _ _ _ _ _) fun h => ?_
    exact absurd (h.first hbefore (by decide)).1 (by decide)
  · have hread : ({ uri := { protocol }, state := .Hostname
                    pending := name ++ [byte '?'] ++ before } : UriText).read (byte '[') rest =
        ({ uri := { protocol }, state := .HostnameV6
           pending := name ++ [byte '?'] ++ before ++ [byte '['] }, 0) :=
      rfl
    simp only [reduceCtorEq, if_false]
    rw [readAll_cons, hread, List.drop_zero]
    rcases exists_first UriParserState.HostnameV6.delimiters rest with hinner | ⟨inner, c, after, rfl, hinner, hc⟩
    · exact readAll_name_query_open protocol name hbefore hinner _
    · rw [UriParserState.delimiters, List.mem_singleton] at hc
      subst hc
      refine iff_of_false (readAll_name_query_closed protocol name before hinner after _) fun h => ?_
      obtain ⟨-, -, hclosed, -⟩ := h.first hbefore (by decide)
      exact absurd (by decide) (hclosed (byte ']') (by simp))

/-- A path behind an authority, from the uri and the text before it. -/
theorem readAll_authorityPath {t : UriText} (uri : Uri) (huri : uri.queryParameters = ∅)
    (hread : ∀ rest, t.read (byte '/') rest = ({ uri, state := .Path, path := [byte '/'] }, 0))
    (fragment : SharedString) (fragments : List SharedString)
    (hfree : ∀ other ∈ fragment :: fragments, FreeOf (text "/?") other) (query : Option SharedString) :
    t.readAll (slashed (fragment :: fragments) ++ queryText query) =
      { uri with
        path := urlDecode (slashed (fragment :: fragments))
        pathFragments := uri.pathFragments ++ (withoutTrailingEmpty (fragment :: fragments)).map urlDecode
        queryParameters := queryParametersOf query } := by
  have hslashed : slashed (fragment :: fragments) ++ queryText query =
      byte '/' :: (fragment ++ (slashed fragments ++ queryText query)) := by
    simp [slashed]
  rw [hslashed, readAll_cons, hread, List.drop_zero]
  exact readAll_absolute fragment fragments hfree uri huri query

/-- A port ends at a path or at the end of the uri only. -/
theorem readAll_port (protocol hostname : SharedString) {port : SharedString}
    (hport : FreeOf UriParserState.Port.delimiters port) {fragments : List SharedString}
    (hfree : ∀ fragment ∈ fragments, FreeOf (text "/?") fragment) (query : Option SharedString) :
    ({ uri := { protocol, hostname }, state := .Port } : UriText).readAll
        (port ++ (slashed fragments ++ queryText query)) =
      { protocol, hostname, port
        path := urlDecode (slashed fragments)
        pathFragments := (withoutTrailingEmpty fragments).map urlDecode
        queryParameters := queryParametersOf query } ↔
      (fragments = [] → query = none) := by
  rw [readAll_append _ hport]
  simp only [reduceCtorEq, if_false, List.nil_append]
  cases fragments with
  | cons fragment fragments =>
    rw [readAll_authorityPath { protocol, hostname, port } rfl (fun _ => rfl) _ _ hfree]
    simp
  | nil =>
    cases query with
    | none =>
      simp only [slashed, queryText, List.flatMap_nil, List.append_nil, readAll_nil, finish]
      split
      · rename_i hempty
        simp [hempty, queryParametersOf, withoutTrailingEmpty, urlDecode]
      · simp [queryParametersOf, withoutTrailingEmpty, urlDecode]
    | some query =>
      simp only [slashed, queryText, List.flatMap_nil, List.nil_append, forall_true_left, reduceCtorEq,
        iff_false]
      intro heq
      obtain ⟨taken, after, hsplit, hport, hpath⟩ :=
        port_readAll { protocol, hostname } rfl port (byte '?' :: query)
      have hafter : after = [] := by
        by_contra hne
        exact hpath hne (congrArg Uri.path heq)
      have htaken : port ++ taken = port := hport.symm.trans (congrArg Uri.port heq)
      rw [List.append_right_eq_self] at htaken
      simp [htaken, hafter] at hsplit

/-- A hostname ends at a path or at the end of the uri only. -/
theorem readAll_name (protocol : SharedString) {name : SharedString}
    (hname : FreeOf UriParserState.Hostname.delimiters name) {fragments : List SharedString}
    (hfree : ∀ fragment ∈ fragments, FreeOf (text "/?") fragment) (query : Option SharedString) :
    ({ uri := { protocol }, state := .Hostname } : UriText).readAll
        (name ++ (slashed fragments ++ queryText query)) =
      { protocol
        hostname := urlDecode name
        path := urlDecode (slashed fragments)
        pathFragments := (withoutTrailingEmpty fragments).map urlDecode
        queryParameters := queryParametersOf query } ↔
      (fragments = [] → ∀ str ∈ query, QueryUnseen name str) := by
  rw [readAll_append _ hname]
  simp only [reduceCtorEq, if_false, List.nil_append]
  cases fragments with
  | cons fragment fragments =>
    rw [readAll_authorityPath { protocol, hostname := urlDecode name } rfl (fun _ => rfl) _ _ hfree]
    simp
  | nil =>
    cases query with
    | none =>
      simp only [slashed, queryText, List.flatMap_nil, List.append_nil, readAll_nil, finish]
      split
      · rename_i hempty
        simp [hempty, queryParametersOf, withoutTrailingEmpty, urlDecode]
      · simp [queryParametersOf, withoutTrailingEmpty, urlDecode]
    | some query =>
      rw [slashed, List.flatMap_nil, List.nil_append]
      simp only [forall_true_left, Option.mem_def, Option.some.injEq, forall_eq']
      exact readAll_name_query protocol name query

/-- An IPv6 literal, up to the character behind it. -/
theorem readAll_v6 (protocol : SharedString) {inner : SharedString}
    (hinner : FreeOf (text "/?[]") inner) (rest : SharedString) :
    ({ uri := { protocol }, state := .Hostname } : UriText).readAll (byte '[' :: inner ++ [byte ']'] ++ rest) =
      if rest.head? = some (byte ':') then
        ({ uri := { protocol, hostname := urlDecode (byte '[' :: inner ++ [byte ']']) }
           state := .Port } : UriText).readAll (rest.drop 1)
      else
        ({ uri := { protocol, hostname := urlDecode (byte '[' :: inner ++ [byte ']']) }
           state := .Path } : UriText).readAll rest := by
  have hplain : FreeOf UriParserState.HostnameV6.delimiters inner := hinner.mono (by decide +kernel)
  have hopen (rest : SharedString) :
      ({ uri := { protocol }, state := .Hostname } : UriText).read (byte '[') rest =
        ({ uri := { protocol }, state := .HostnameV6, pending := [byte '['] }, 0) := rfl
  rw [List.append_assoc, List.cons_append, List.singleton_append, readAll_cons, hopen, List.drop_zero,
    readAll_append _ hplain, readAll_cons]
  simp only [reduceCtorEq, if_false, read, if_true]
  split <;> rfl

/-- Behind an IPv6 literal the first '/' is taken for the end of an empty fragment. -/
theorem readAll_v6Path (protocol hostname : SharedString) {fragments : List SharedString}
    (hfree : ∀ fragment ∈ fragments, FreeOf (text "/?") fragment) (query : Option SharedString) :
    ({ uri := { protocol, hostname }, state := .Path } : UriText).readAll
        (slashed fragments ++ queryText query) =
      { protocol, hostname
        path := urlDecode (slashed fragments)
        pathFragments := (withoutTrailingEmpty fragments).map urlDecode
        queryParameters := queryParametersOf query } ↔
      fragments = [] := by
  rw [readAll_slashed fragments hfree { protocol, hostname } rfl]
  cases fragments with
  | nil => simp [withoutTrailingEmpty]
  | cons fragment fragments => simp [withoutTrailingEmpty]

/-- Without an authority only a path of one fragment without any '/' is lost. -/
theorem readAll_relative {leading : SharedString} (hleading : FreeOf (text "/?:") leading)
    {fragments : List SharedString} (hfree : ∀ fragment ∈ fragments, FreeOf (text "/?") fragment)
    (query : Option SharedString) :
    ({} : UriText).readAll (leading ++ slashed fragments ++ queryText query) =
      { path := urlDecode (leading ++ slashed fragments)
        pathFragments := (withoutTrailingEmpty
          (if leading = [] then fragments else leading :: fragments)).map urlDecode
        queryParameters := queryParametersOf query } ↔
      (leading ≠ [] → fragments ≠ []) := by
  by_cases hempty : leading = []
  · subst hempty
    rw [if_pos rfl]
    cases fragments with
    | cons fragment fragments =>
      rw [List.nil_append, readAll_authorityPath {} rfl (fun _ => rfl) _ _ hfree]
      simp
    | nil =>
      cases query with
      | none => simp [slashed, queryText, finish, queryParametersOf, withoutTrailingEmpty, urlDecode]
      | some query =>
        rw [slashed, List.flatMap_nil, List.append_nil, List.nil_append, queryText, readAll_cons]
        simp only [ne_eq, not_true_eq_false, false_imp_iff, iff_true]
        exact readAll_queryPart rfl query
  rw [if_neg hempty, List.append_assoc,
    readAll_append _ (hleading.mono (show UriParserState.Protocol.delimiters ⊆ _ by decide +kernel))]
  simp only [reduceCtorEq, if_false, List.nil_append]
  cases fragments with
  | nil =>
    have hlost : (({ pending := leading } : UriText).readAll (queryText query)).pathFragments = [] := by
      cases query with
      | none => rw [queryText, readAll_nil, finish]
      | some query =>
        rw [queryText, readAll_cons]
        exact congrArg Uri.pathFragments (readAll_queryPart rfl query)
    constructor
    · intro heq
      have hfragments := hlost.symm.trans (congrArg Uri.pathFragments heq)
      simp [withoutTrailingEmpty, hempty] at hfragments
    · intro h
      exact absurd rfl (h hempty)
  | cons fragment fragments =>
    have hread (rest : SharedString) :
        ({ pending := leading } : UriText).read (byte '/') rest =
          ({ uri := { pathFragments := [urlDecode leading] }, state := .Path
             path := leading ++ [byte '/'] }, 0) := by
      simp [read, fragmentEnd, hempty]
    have hplain : FreeOf UriParserState.Path.delimiters fragment :=
      (hfree fragment List.mem_cons_self).mono (by decide +kernel)
    have hslashed : slashed (fragment :: fragments) ++ queryText query =
        byte '/' :: (fragment ++ (slashed fragments ++ queryText query)) := by
      simp [slashed]
    rw [hslashed, readAll_cons, hread, List.drop_zero, readAll_append _ hplain]
    simp only [if_true, List.nil_append]
    rw [readAll_slashed _ (fun other hother => hfree other (List.mem_cons_of_mem _ hother))
      { pathFragments := [urlDecode leading] } rfl]
    simp [slashed, withoutTrailingEmpty]

/-- The protocol ends at the "://". -/
theorem readAll_scheme {scheme : SharedString} (hscheme : FreeOf (text "/?:") scheme)
    (rest : SharedString) :
    ({} : UriText).readAll (scheme ++ text "://" ++ rest) =
      ({ uri := { protocol := urlDecode scheme }, state := .Hostname } : UriText).readAll rest := by
  have hplain : FreeOf UriParserState.Protocol.delimiters scheme := hscheme.mono (by decide +kernel)
  have hcolon : text "://" = [byte ':', byte '/', byte '/'] := by decide +kernel
  rw [hcolon, List.append_assoc, readAll_append _ hplain]
  simp only [reduceCtorEq, if_false, List.nil_append, List.cons_append]
  rw [readAll_cons]
  rfl

end UriText

/-- The strings of the syntax that the parser reads as documented. -/
def UriReference.ReadAsDocumented (r : UriReference) : Prop :=
  match r.authority with
  | none => r.leading ≠ [] → r.fragments ≠ []
  | some authority =>
    match authority.port, authority.host with
    | some _, _ => r.fragments = [] → r.query = none
    | none, .v6 _ _ => r.fragments = []
    | none, .name name _ => r.fragments = [] → ∀ query ∈ r.query, QueryUnseen name query

/-- A string of the generic syntax is parsed into its decoded parts exactly
    where its query does not come right behind the authority, a path does not
    come right behind an IPv6 literal, and a path without any '/' is not all
    there is. -/
theorem parse_eq_meaning_iff (r : UriReference) :
    Uri.parse r.write = r.meaning ↔ r.ReadAsDocumented := by
  obtain ⟨authority, leading, fragments, query, hleading, hfree, hnone⟩ := r
  rw [Uri.parse_eq]
  cases authority with
  | none => exact UriText.readAll_relative hleading hfree query
  | some authority =>
    obtain ⟨scheme, host, port, hscheme, hport⟩ := authority
    obtain rfl : leading = [] := hnone (by simp)
    have hwrite : UriReference.write ⟨some ⟨scheme, host, port, hscheme, hport⟩, [], fragments, query,
        hleading, hfree, hnone⟩ =
        scheme ++ text "://" ++
          (host.write ++ (port.elim [] (byte ':' :: ·) ++ (slashed fragments ++ queryText query))) := by
      simp [UriReference.write, UriReference.path, UriAuthority.write]
    rw [hwrite, UriText.readAll_scheme hscheme]
    unfold UriReference.meaning UriReference.path UriReference.pathFragments
    simp only [Option.elim_some, List.nil_append, if_true]
    have hportPlain : ∀ str ∈ port, FreeOf UriParserState.Port.delimiters str :=
      fun str hstr => (hport str hstr).mono (by decide +kernel)
    cases host with
    | name name hname =>
      have hplain : FreeOf UriParserState.Hostname.delimiters name := hname.mono (by decide +kernel)
      cases port with
      | none => exact UriText.readAll_name (urlDecode scheme) hplain hfree query
      | some port =>
        rw [UriHost.write, UriText.readAll_append _ hplain, Option.elim_some, List.cons_append,
          UriText.readAll_cons]
        exact UriText.readAll_port (urlDecode scheme) (urlDecode name) (hportPlain port rfl) hfree query
    | v6 inner hinner =>
      rw [UriHost.write, UriText.readAll_v6 (urlDecode scheme) hinner]
      cases port with
      | none =>
        have hnoPort : (slashed fragments ++ queryText query).head? ≠ some (byte ':') := by
          cases fragments <;> cases query <;> simp +decide [slashed, queryText]
        rw [Option.elim_none, List.nil_append, if_neg hnoPort]
        exact UriText.readAll_v6Path (urlDecode scheme) _ hfree query
      | some port =>
        rw [Option.elim_some, List.cons_append, if_pos List.head?_cons, List.drop_one, List.tail_cons]
        exact UriText.readAll_port (urlDecode scheme) _ (hportPlain port rfl) hfree query

/-- `http://example.com?sort=comments` -/
def sortedHomepage : UriReference where
  authority := some {
    scheme := text "http"
    host := .name (text "example.com") (by decide +kernel)
    port := none
    scheme_free := by decide +kernel
    port_free := by simp
  }
  leading := []
  fragments := []
  query := some (text "sort=comments")
  leading_free := by decide +kernel
  fragments_free := by simp
  leading_eq_nil := fun _ => rfl

/-- A query right behind the hostname becomes a part of the hostname. -/
theorem sortedHomepage_not_meaning :
    sortedHomepage.write = text "http://example.com?sort=comments" ∧
      (Uri.parse sortedHomepage.write).hostname = text "example.com?sort=comments" ∧
      Uri.parse sortedHomepage.write ≠ sortedHomepage.meaning := by
  refine ⟨by decide +kernel, by decide +kernel, fun heq => ?_⟩
  have hhost : (Uri.parse sortedHomepage.write).hostname ≠ sortedHomepage.meaning.hostname := by
    decide +kernel
  exact hhost (congrArg Uri.hostname heq)

end cpv
