import Cpv.Utility.UriBuild

namespace cpv

namespace UriText

/-- What the parser keeps of the port and of a path without fragments. -/
structure Parsed (t : UriText) : Prop where
  port : byte '/' ∉ t.uri.port
  pendingPort : t.state = .Port → byte '/' ∉ t.pending
  emptyPath : t.uri.pathFragments = [] → t.uri.path = [] ∨ t.uri.path = [byte '/']
  pendingPath : t.state = .Path → t.uri.pathFragments = [] → t.path = t.pending ∨ t.path = byte '/' :: t.pending

theorem Parsed.pathEnd {t : UriText} (ht : t.Parsed) (hstate : t.state = .Path)
    (hnone : t.pathEnd.pathFragments = []) : t.pathEnd.path = [] ∨ t.pathEnd.path = [byte '/'] := by
  unfold UriText.pathEnd fragmentEnd at hnone ⊢
  by_cases hpending : t.pending = []
  · simp only [hpending, if_true] at hnone ⊢
    rcases ht.pendingPath hstate hnone with hpath | hpath
    · left
      rw [hpath, hpending]
      rfl
    · right
      rw [hpath, hpending]
      decide +kernel
  · simp [hpending] at hnone

theorem Parsed.read {t : UriText} (ht : t.Parsed) (c : UInt8) (rest : SharedString) :
    (t.read c rest).1.Parsed := by
  have hend := ht.pathEnd
  obtain ⟨hport, hpendingPort, hempty, hpendingPath⟩ := ht
  have hpathPort : t.pathEnd.port = t.uri.port := by
    unfold UriText.pathEnd fragmentEnd
    split <;> rfl
  obtain ⟨uri, state, pending, path, queryKey⟩ := t
  simp only at hport hpendingPort hempty hpendingPath hend hpathPort
  cases state with
  | Path =>
    unfold UriText.read
    simp only
    split
    · exact ⟨hport, by simp, by simp [fragmentEnd], by simp [fragmentEnd]⟩
    · split
      · exact ⟨hpathPort ▸ hport, by simp, hend rfl, by simp⟩
      · refine ⟨hport, by simp, hempty, fun _ hnone => ?_⟩
        exact (hpendingPath rfl hnone).imp (fun h => by simp [h]) fun h => by simp [h]
  | Port =>
    unfold UriText.read
    dsimp only
    split
    · exact ⟨hpendingPort rfl, by simp, hempty, fun _ _ => Or.inr (by simp_all)⟩
    · rename_i hc
      refine ⟨hport, fun _ hmem => ?_, hempty, by simp⟩
      rcases List.mem_append.mp hmem with hmem | hmem
      · exact hpendingPort rfl hmem
      · exact hc (List.mem_singleton.mp hmem).symm
  | _ =>
    clear hend hpathPort
    unfold UriText.read valueEnd fragmentEnd
    dsimp only
    split_ifs <;> constructor <;> simp_all

end UriText

/-- A parsed uri has no '/' in its port, and no other path than "/" without fragments. -/
theorem parse_parsed (s : SharedString) :
    byte '/' ∉ (Uri.parse s).port ∧
      ((Uri.parse s).pathFragments = [] → (Uri.parse s).path = [] ∨ (Uri.parse s).path = [byte '/']) := by
  have hinitial : ({} : UriText).Parsed := ⟨by simp, by simp, by simp, by simp⟩
  obtain ⟨t, ht, heq⟩ := UriText.readAll_preserves (fun _ c rest ht => ht.read c rest) hinitial s
  rw [Uri.parse_eq, heq]
  have hend := ht.pathEnd
  obtain ⟨hport, hpendingPort, hempty, hpendingPath⟩ := ht
  unfold UriText.finish UriText.valueEnd
  split
  · rename_i hstate
    refine ⟨?_, hend hstate⟩
    unfold UriText.pathEnd UriText.fragmentEnd
    split <;> exact hport
  all_goals grind

/-- Two uris with the same parts, wherever their paths end. -/
structure Uri.SameMeaning (a b : Uri) : Prop where
  protocol : a.protocol = b.protocol
  hostname : a.hostname = b.hostname
  port : a.port = b.port
  pathFragments : a.pathFragments = b.pathFragments
  queryParameters : ∀ key, a.queryParameters.lookup key = b.queryParameters.lookup key

/-- The uris that writing and parsing gives back. -/
structure Uri.Rebuildable (uri : Uri) : Prop where
  protocol : byte '/' ∉ uri.protocol
  hostname : byte '/' ∉ uri.hostname
  authority : uri.protocol = [] → uri.hostname = [] ∧ uri.port = []
  fragments : ∀ fragment ∈ uri.pathFragments, byte '/' ∉ fragment
  lastFragment : uri.pathFragments.getLast? ≠ some []
  query : uri.protocol ≠ [] → uri.pathFragments = [] → uri.path = [] → uri.queryParameters.entries = []
  lastParameter : ∀ last ∈ (StringMap.ordered uri.queryParameters).getLast?, last.2 ≠ []

/-- What is left to compare once the written text is read up to its end. -/
theorem Uri.SameMeaning.of_read {read uri : Uri}
    (hfragments : read.pathFragments =
      (withoutTrailingEmpty (uri.pathPieces.map urlEncode)).map urlDecode)
    (hquery : read.queryParameters = queryParametersOf uri.buildQuery) :
    read.SameMeaning uri ↔
      (read.protocol = uri.protocol ∧ read.hostname = uri.hostname ∧ read.port = uri.port) ∧
        ((∀ fragment ∈ uri.pathFragments, byte '/' ∉ fragment) ∧ uri.pathFragments.getLast? ≠ some []) ∧
        ∀ last ∈ (StringMap.ordered uri.queryParameters).getLast?, last.2 ≠ [] := by
  rw [map_withoutTrailingEmpty] at hfragments
  rw [← uri.withoutTrailingEmpty_pathPieces, ← uri.lookup_buildQuery, ← hfragments, ← hquery]
  constructor
  · rintro ⟨hprotocol, hhost, hport, hpath, hparameters⟩
    exact ⟨⟨hprotocol, hhost, hport⟩, hpath, hparameters⟩
  · rintro ⟨⟨hprotocol, hhost, hport⟩, hpath, hparameters⟩
    exact ⟨hprotocol, hhost, hport, hpath, hparameters⟩

theorem Uri.pathPieces_freeOf (uri : Uri) :
    ∀ fragment ∈ uri.pathPieces.map urlEncode, FreeOf (text "/?") fragment := by
  have hpieces : ∀ piece ∈ uri.pathPieces, byte '/' ∉ piece := by
    unfold pathPieces
    intro piece hpiece
    split at hpiece
    · obtain ⟨fragment, -, hmem⟩ := List.mem_flatMap.mp hpiece
      exact List.not_mem_of_mem_splitOn hmem
    · split at hpiece <;> simp_all
  have htext : text "/?" = UriParserState.Path.delimiters := by decide +kernel
  intro fragment hfragment
  obtain ⟨piece, hpiece, rfl⟩ := List.mem_map.mp hfragment
  rw [htext]
  exact urlEncode_freeOf (Or.inl (hpieces piece hpiece))

theorem urlEncode_slash (before after : SharedString) :
    urlEncode (before ++ byte '/' :: after) = urlEncode before ++ byte '/' :: urlEncode after := by
  have hslash : UrlEncodeMapping (byte '/') = [byte '/'] := by decide +kernel
  rw [urlEncode_eq, urlEncode_eq, urlEncode_eq, List.flatMap_append, List.flatMap_cons, hslash]
  rfl

/-- A '/' in the protocol begins a path. -/
theorem protocol_parse_slash {protocol : SharedString} (hslash : byte '/' ∈ protocol)
    (rest : SharedString) : (Uri.parse (urlEncode protocol ++ rest)).protocol = [] := by
  obtain ⟨before, after, rfl, hbefore⟩ := List.eq_append_cons_of_mem hslash
  have hfree : FreeOf UriParserState.Protocol.delimiters (urlEncode before) :=
    urlEncode_freeOf (Or.inl hbefore)
  rw [Uri.parse_eq, urlEncode_slash, List.append_assoc, UriText.readAll_append _ hfree, List.cons_append,
    UriText.readAll_cons, (UriText.protocol_port_readAll _ (Or.inl rfl)).1]
  simp only [UriText.read, if_true, UriText.fragmentEnd]
  split <;> rfl

/-- A '/' in the hostname begins a path. -/
theorem hostname_read_slash {hostname : SharedString} (hslash : byte '/' ∈ hostname)
    (uri : Uri) (rest : SharedString) :
    (({ uri, state := .Hostname } : UriText).readAll (urlEncode hostname ++ rest)).hostname ≠ hostname := by
  obtain ⟨before, after, rfl, hbefore⟩ := List.eq_append_cons_of_mem hslash
  have hfree : FreeOf UriParserState.Hostname.delimiters (urlEncode before) :=
    urlEncode_freeOf (Or.inl hbefore)
  rw [urlEncode_slash, List.append_assoc, UriText.readAll_append _ hfree, List.cons_append,
    UriText.readAll_cons, UriText.hostname_readAll _ (Or.inr (Or.inl rfl))]
  simp [UriText.read]

/-- A written query has no character that ends a hostname but '/'. -/
theorem buildParameters_freeOf (isFirst : Bool)
    (parameters : List (Sigma fun _ : SharedString => SharedString)) :
    FreeOf [byte ':', byte '['] (Uri.buildParameters isFirst parameters) := by
  have hsafe : ∀ c : UInt8, isUrlSafe c ∨ c = byte '%' → c ∉ [byte ':', byte '['] :=
    forall_byte (by decide +kernel)
  have hencoded (str : SharedString) : FreeOf [byte ':', byte '['] (urlEncode str) :=
    fun c hc => hsafe c (mem_urlEncode hc)
  induction parameters generalizing isFirst with
  | nil => simp [FreeOf, Uri.buildParameters]
  | cons parameter parameters ih =>
    rw [Uri.buildParameters]
    simp only [FreeOf, List.mem_append]
    rintro c ((((hc | hc) | hc) | hc) | hc)
    · cases isFirst <;> simp at hc
      subst hc
      decide
    · exact hencoded _ c hc
    · rw [List.mem_singleton.mp hc]
      decide
    · exact hencoded _ c hc
    · exact ih false c hc

/-- A query right behind the hostname is read as a part of it. -/
theorem hostname_read_query (uri : Uri) (hostname : SharedString) {query : SharedString}
    (hplain : byte '/' ∉ hostname) (hquery : FreeOf [byte ':', byte '['] query) :
    (({ uri, state := .Hostname } : UriText).readAll
      (urlEncode hostname ++ byte '?' :: query)).hostname ≠ hostname := by
  have hlonger (taken : SharedString) : urlDecode (urlEncode hostname ++ byte '?' :: taken) ≠ hostname := by
    obtain ⟨last, hlast⟩ := urlDecodeLoop_urlEncode hostname (byte '?' :: taken) 0
    rw [urlDecode_eq_loop, hlast, urlDecodeLoop_plain (by decide)]
    simp
  have hfree : FreeOf UriParserState.Hostname.delimiters (urlEncode hostname) :=
    urlEncode_freeOf (Or.inl hplain)
  have hquestion : byte '?' ∉ UriParserState.Hostname.delimiters := by decide
  rw [UriText.readAll_append _ hfree, UriText.readAll_cons, UriText.read_plain _ hquestion, List.drop_zero]
  rcases exists_first UriParserState.Hostname.delimiters query with hall | ⟨before, c, rest, rfl, hbefore, hc⟩
  · rw [← List.append_nil query, UriText.readAll_append _ hall, UriText.readAll_nil]
    have hne : [] ++ urlEncode hostname ++ [byte '?'] ++ query ≠ [] := by simp
    simp only [UriText.finish, hne, if_false]
    simpa using hlonger query
  · have hslash : c = byte '/' := by
      have hcolon := hquery c (by simp)
      simp only [UriParserState.delimiters, List.mem_cons, List.not_mem_nil, or_false] at hc hcolon
      exact hc.resolve_right hcolon
    subst hslash
    rw [UriText.readAll_append _ hbefore, UriText.readAll_cons,
      UriText.hostname_readAll _ (Or.inr (Or.inl rfl))]
    simpa [UriText.read] using hlonger before

/-- A query right behind the port is read as a part of it. -/
theorem port_read_query (uri : Uri) (huri : uri.port = []) {port : SharedString} (hplain : byte '/' ∉ port)
    (query : SharedString) :
    (({ uri, state := .Port } : UriText).readAll (port ++ byte '?' :: query)).port ≠ port := by
  have hfree : FreeOf UriParserState.Port.delimiters (port ++ [byte '?']) := by
    intro c hc hmem
    rw [UriParserState.delimiters, List.mem_singleton] at hmem
    subst hmem
    rcases List.mem_append.mp hc with hc | hc
    · exact hplain hc
    · exact absurd (List.mem_singleton.mp hc) (by decide)
  obtain ⟨taken, after, -, hport, -⟩ := UriText.port_readAll uri huri (port ++ [byte '?']) query
  have hsplit : port ++ byte '?' :: query = (port ++ [byte '?']) ++ query := by simp
  rw [hsplit, UriText.readAll_append _ hfree]
  simp only [reduceCtorEq, if_false, List.nil_append]
  rw [hport]
  simp

section rebuild

variable {uri : Uri} (hpath : uri.pathFragments = [] → uri.path = [] ∨ uri.path = [byte '/'])
include hpath

/-- Without a protocol only a path and a query are written. -/
theorem Uri.rebuild_path (hnone : uri.protocol = []) :
    (Uri.parse uri.build).SameMeaning uri ↔ uri.Rebuildable := by
  have hread := (@UriText.readAll_relative [] (by simp [FreeOf]) _ uri.pathPieces_freeOf
    uri.buildQuery).mpr (fun hne => absurd rfl hne)
  rw [List.nil_append] at hread
  rw [Uri.build_eq, Uri.buildPath_eq hpath, Uri.buildAuthority, if_neg (not_not.mpr hnone), List.nil_append,
    Uri.parse_eq, Uri.SameMeaning.of_read (by rw [hread, if_pos rfl]) (by rw [hread]), hread]
  constructor
  · rintro ⟨⟨-, hhost, hport⟩, ⟨hfragments, hlast⟩, hparameters⟩
    exact ⟨by simp [hnone], by simp [← hhost], fun _ => ⟨hhost.symm, hport.symm⟩, hfragments, hlast,
      fun hne => absurd hnone hne, hparameters⟩
  · rintro ⟨-, -, hauthority, hfragments, hlast, -, hparameters⟩
    obtain ⟨hhost, hport⟩ := hauthority hnone
    exact ⟨⟨hnone.symm, hhost.symm, hport.symm⟩, ⟨hfragments, hlast⟩, hparameters⟩

/-- With a protocol the authority is written before the path. -/
theorem Uri.rebuild_authority (hport : byte '/' ∉ uri.port) (hsome : uri.protocol ≠ []) :
    (Uri.parse uri.build).SameMeaning uri ↔ uri.Rebuildable := by
  have hbuild : uri.build = urlEncode uri.protocol ++ (text "://" ++ (urlEncode uri.hostname ++
      ((if uri.port ≠ [] then byte ':' :: uri.port else []) ++
        (slashed (uri.pathPieces.map urlEncode) ++ queryText uri.buildQuery)))) := by
    rw [Uri.build_eq, Uri.buildPath_eq hpath, Uri.buildAuthority, if_pos hsome]
    simp only [List.append_assoc]
  by_cases hprotocol : byte '/' ∈ uri.protocol
  · constructor
    · intro hsame
      have hlost := protocol_parse_slash hprotocol (text "://" ++ (urlEncode uri.hostname ++
        ((if uri.port ≠ [] then byte ':' :: uri.port else []) ++
          (slashed (uri.pathPieces.map urlEncode) ++ queryText uri.buildQuery))))
      rw [← hbuild, hsame.protocol] at hlost
      exact absurd hlost hsome
    · exact fun h => absurd hprotocol h.protocol
  have hscheme : FreeOf (text "/?:") (urlEncode uri.protocol) := by
    have htext : text "/?:" = UriParserState.Protocol.delimiters := by decide +kernel
    exact htext ▸ urlEncode_freeOf (Or.inl hprotocol)
  rw [← List.append_assoc] at hbuild
  rw [Uri.parse_eq, hbuild, UriText.readAll_scheme hscheme, urlDecode_urlEncode]
  by_cases hhost : byte '/' ∈ uri.hostname
  · constructor
    · exact fun hsame => absurd hsame.hostname (hostname_read_slash hhost _ _)
    · exact fun h => absurd hhost h.hostname
  have hname : FreeOf UriParserState.Hostname.delimiters (urlEncode uri.hostname) :=
    urlEncode_freeOf (Or.inl hhost)
  by_cases hwhole : uri.pathPieces.map urlEncode = [] → uri.buildQuery = none
  · -- the authority ends with a path, or everything ends with the authority
    have hread : ({ uri := { protocol := uri.protocol }, state := .Hostname } : UriText).readAll
        (urlEncode uri.hostname ++ ((if uri.port ≠ [] then byte ':' :: uri.port else []) ++
          (slashed (uri.pathPieces.map urlEncode) ++ queryText uri.buildQuery))) =
        { protocol := uri.protocol, hostname := uri.hostname, port := uri.port
          path := urlDecode (slashed (uri.pathPieces.map urlEncode))
          pathFragments := (withoutTrailingEmpty (uri.pathPieces.map urlEncode)).map urlDecode
          queryParameters := queryParametersOf uri.buildQuery } := by
      split
      · rw [UriText.readAll_append _ hname, List.cons_append, UriText.readAll_cons]
        have hplain : FreeOf UriParserState.Port.delimiters uri.port := by
          intro c hc hmem
          rw [UriParserState.delimiters, List.mem_singleton] at hmem
          exact hport (hmem ▸ hc)
        have hrest := (UriText.readAll_port uri.protocol uri.hostname hplain uri.pathPieces_freeOf
          uri.buildQuery).mpr hwhole
        rw [← hrest, ← urlDecode_urlEncode uri.hostname]
        simp [UriText.read]
      · rename_i hnone
        have hrest := (UriText.readAll_name uri.protocol hname uri.pathPieces_freeOf uri.buildQuery).mpr
          fun hnil query hquery => by rw [hwhole hnil] at hquery; cases hquery
        rw [List.nil_append, hrest, urlDecode_urlEncode, not_not.mp hnone]
    rw [hread, Uri.SameMeaning.of_read rfl rfl]
    constructor
    · rintro ⟨-, ⟨hfragments, hlast⟩, hparameters⟩
      refine ⟨hprotocol, hhost, fun hnone => absurd hnone hsome, hfragments, hlast, fun _ hnil hempty => ?_,
        hparameters⟩
      have hquery := hwhole (by rw [Uri.pathPieces_eq_nil.mpr ⟨hnil, hempty⟩]; rfl)
      by_contra hentries
      rw [Uri.buildQuery, if_pos hentries] at hquery
      cases hquery
    · rintro ⟨-, -, -, hfragments, hlast, -, hparameters⟩
      exact ⟨⟨rfl, rfl, rfl⟩, ⟨hfragments, hlast⟩, hparameters⟩
  · -- the query stands right behind the authority
    obtain ⟨hpieces, hquery⟩ := Classical.not_imp.mp hwhole
    obtain ⟨hnil, hempty⟩ := Uri.pathPieces_eq_nil.mp (List.map_eq_nil_iff.mp hpieces)
    have hentries : uri.queryParameters.entries ≠ [] := fun hentries => hquery (by simp [Uri.buildQuery, hentries])
    rw [hpieces, Uri.buildQuery, if_pos hentries, slashed, List.flatMap_nil, List.nil_append, queryText]
    constructor
    · intro hsame
      exfalso
      split at hsame
      · have hsamePort := hsame.port
        rw [UriText.readAll_append _ hname, List.cons_append, UriText.readAll_cons] at hsamePort
        refine port_read_query { protocol := uri.protocol, hostname := uri.hostname } rfl hport
          (Uri.buildParameters true (StringMap.ordered uri.queryParameters)) ?_
        simpa [UriText.read] using hsamePort
      · exact hostname_read_query _ _ hhost (buildParameters_freeOf _ _) hsame.hostname
    · exact fun h => absurd (h.query hsome hnil hempty) hentries

end rebuild

/-- Writing a parsed uri and parsing the text gives its parts back exactly for
    the uris without '/' in a decoded part, without an empty fragment or value
    at the end, and without a query right behind the authority. -/
theorem rebuild_sameMeaning_iff (s : SharedString) :
    (Uri.parse (Uri.parse s).build).SameMeaning (Uri.parse s) ↔ (Uri.parse s).Rebuildable := by
  obtain ⟨hport, hpath⟩ := parse_parsed s
  by_cases hnone : (Uri.parse s).protocol = []
  · exact Uri.rebuild_path hpath hnone
  · exact Uri.rebuild_authority hpath hport hnone

/-- A '/' in a fragment is written as it is, which makes two fragments of it. -/
theorem escapedSlash_not_rebuilt :
    (Uri.parse (text "/a%2Fb")).pathFragments = [text "a/b"] ∧
      (Uri.parse (text "/a%2Fb")).build = text "/a/b" ∧
      ¬(Uri.parse (Uri.parse (text "/a%2Fb")).build).SameMeaning (Uri.parse (text "/a%2Fb")) := by
  refine ⟨by decide +kernel, by decide +kernel, fun hsame => ?_⟩
  have hfragments : (Uri.parse (Uri.parse (text "/a%2Fb")).build).pathFragments ≠
      (Uri.parse (text "/a%2Fb")).pathFragments := by
    decide +kernel
  exact hfragments hsame.pathFragments

end cpv
