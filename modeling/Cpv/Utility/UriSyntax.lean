import Cpv.Utility.UriText

namespace cpv

/-- None of the characters of a text is one of the delimiters. -/
def FreeOf (delimiters str : SharedString) : Prop := ∀ c ∈ str, c ∉ delimiters

instance (delimiters str : SharedString) : Decidable (FreeOf delimiters str) :=
  inferInstanceAs (Decidable (∀ c ∈ str, c ∉ delimiters))

/-- A name, or an IPv6 literal without its brackets. -/
inductive UriHost
  | name (str : SharedString) (hfree : FreeOf (text "/?:[]") str)
  | v6 (str : SharedString) (hfree : FreeOf (text "/?[]") str)

/-- `scheme://host[:port]` -/
structure UriAuthority where
  scheme : SharedString
  host : UriHost
  port : Option SharedString
  scheme_free : FreeOf (text "/?:") scheme
  port_free : ∀ str ∈ port, FreeOf (text "/?:[]") str

/-- A string of the generic uri syntax by its parts. A path with a leading '/'
    has no `leading` fragment, and no path at all is no fragment at all. Behind
    an authority a path begins with '/'. -/
structure UriReference where
  authority : Option UriAuthority
  leading : SharedString
  fragments : List SharedString
  query : Option SharedString
  leading_free : FreeOf (text "/?:") leading
  fragments_free : ∀ fragment ∈ fragments, FreeOf (text "/?") fragment
  leading_eq_nil : authority ≠ none → leading = []

/-- Every fragment behind its '/'. -/
def slashed (fragments : List SharedString) : SharedString := fragments.flatMap (byte '/' :: ·)

/-- The query behind its '?'. -/
def queryText : Option SharedString → SharedString
  | none => []
  | some query => byte '?' :: query

def UriHost.write : UriHost → SharedString
  | .name str _ => str
  | .v6 str _ => byte '[' :: str ++ [byte ']']

def UriAuthority.write (authority : UriAuthority) : SharedString :=
  authority.scheme ++ text "://" ++ authority.host.write ++ authority.port.elim [] (byte ':' :: ·)

namespace UriReference

def path (r : UriReference) : SharedString := r.leading ++ slashed r.fragments

def write (r : UriReference) : SharedString :=
  r.authority.elim [] UriAuthority.write ++ r.path ++ queryText r.query

/-- The fragments of the path from the first to the last. -/
def pathFragments (r : UriReference) : List SharedString :=
  if r.leading = [] then r.fragments else r.leading :: r.fragments

end UriReference

/-- A '/' at the end of a path begins no fragment. -/
def withoutTrailingEmpty : List SharedString → List SharedString
  | [] => []
  | [fragment] => if fragment = [] then [] else [fragment]
  | fragment :: next :: fragments => fragment :: withoutTrailingEmpty (next :: fragments)

/-- The parameters that a query gives when it stands alone. -/
def queryParametersOf : Option SharedString → StringMap SharedString
  | none => ∅
  | some query => (Uri.parse (byte '?' :: query)).queryParameters

/-- What the documentation of the class promises for the parts of a uri: all of
    them are decoded, and the query becomes the parameters only. -/
def UriReference.meaning (r : UriReference) : Uri where
  protocol := r.authority.elim [] fun authority => urlDecode authority.scheme
  hostname := r.authority.elim [] fun authority => urlDecode authority.host.write
  port := r.authority.elim [] fun authority => authority.port.getD []
  path := urlDecode r.path
  pathFragments := (withoutTrailingEmpty r.pathFragments).map urlDecode
  queryParameters := queryParametersOf r.query

theorem FreeOf.mono {delimiters more str : SharedString} (hfree : FreeOf more str)
    (hsub : delimiters ⊆ more) : FreeOf delimiters str :=
  fun c hc hmem => hfree c hc (hsub hmem)

namespace UriText

/-- A text without delimiters of the state is put behind the pending text. -/
theorem readAll_append {t : UriText} {str : SharedString} (rest : SharedString)
    (hfree : FreeOf t.state.delimiters str) :
    t.readAll (str ++ rest) =
      { t with
        pending := t.pending ++ str
        path := if t.state = UriParserState.Path then t.path ++ str else t.path }.readAll rest := by
  induction str generalizing t with
  | nil => simp
  | cons c str ih =>
    rw [List.cons_append, readAll_cons, read_plain _ (hfree c List.mem_cons_self), List.drop_zero, ih]
    · simp only [List.append_assoc, List.singleton_append]
      split <;> simp
    · exact fun c hc => hfree c (List.mem_cons_of_mem _ hc)

/-- What one character of the query does depends on the query alone. -/
theorem read_query {t : UriText} (hstate : t.state = .Query) (c : UInt8) (rest : SharedString)
    (uri : Uri) :
    ({ t with uri := { uri with queryParameters := t.uri.queryParameters } } : UriText).read c rest =
      ({ (t.read c rest).1 with
        uri := { uri with queryParameters := (t.read c rest).1.uri.queryParameters } }, 0) ∧
      (t.read c rest).1.state = .Query ∧ (t.read c rest).2 = 0 := by
  obtain ⟨_, state, pending, path, queryKey⟩ := t
  simp only at hstate
  subst hstate
  unfold read valueEnd
  grind

theorem readAll_query {t : UriText} (hstate : t.state = .Query) (query : SharedString) (uri : Uri) :
    ({ t with uri := { uri with queryParameters := t.uri.queryParameters } } : UriText).readAll query =
      { uri with queryParameters := (t.readAll query).queryParameters } := by
  induction query generalizing t with
  | nil =>
    rw [readAll_nil, readAll_nil]
    unfold finish valueEnd
    grind
  | cons c query ih =>
    obtain ⟨hread, hnext, hzero⟩ := read_query hstate c query uri
    rw [readAll_cons, readAll_cons, hread, hzero]
    exact ih hnext

/-- The query goes to the parameters and leaves the rest of the uri. -/
theorem readAll_queryPart {uri : Uri} (huri : uri.queryParameters = ∅) (query : SharedString) :
    ({ uri, state := .Query } : UriText).readAll query =
      { uri with queryParameters := queryParametersOf (some query) } := by
  obtain ⟨protocol, hostname, port, path, pathFragments, queryParameters⟩ := uri
  simp only at huri
  subst huri
  have hread : ({} : UriText).read (byte '?') query = ({ state := .Query }, 0) := rfl
  have hframe := readAll_query (t := { state := .Query }) rfl query
    { protocol, hostname, port, path, pathFragments }
  rw [queryParametersOf, Uri.parse_eq, readAll_cons, hread]
  exact hframe

/-- The end of the path, and the query behind it. -/
theorem readAll_queryText {uri : Uri} (huri : uri.queryParameters = ∅) (pending path : SharedString)
    (query : Option SharedString) :
    ({ uri, state := .Path, pending, path } : UriText).readAll (queryText query) =
      { ({ uri, state := .Path, pending, path } : UriText).pathEnd with
        queryParameters := queryParametersOf query } := by
  have hempty : ({ uri, state := .Path, pending, path } : UriText).pathEnd.queryParameters = ∅ := by
    unfold pathEnd fragmentEnd
    split <;> exact huri
  cases query with
  | none =>
    rw [queryText, readAll_nil, queryParametersOf, ← hempty]
    rfl
  | some query =>
    rw [queryText, readAll_cons]
    exact readAll_queryPart hempty query

/-- The fragments from the pending one to the end of the path. -/
theorem readAll_slashed (fragments : List SharedString)
    (hfree : ∀ fragment ∈ fragments, FreeOf (text "/?") fragment) (uri : Uri)
    (huri : uri.queryParameters = ∅) (pending path : SharedString) (query : Option SharedString) :
    ({ uri, state := .Path, pending, path } : UriText).readAll (slashed fragments ++ queryText query) =
      { uri with
        path := urlDecode (path ++ slashed fragments)
        pathFragments := uri.pathFragments ++ (withoutTrailingEmpty (pending :: fragments)).map urlDecode
        queryParameters := queryParametersOf query } := by
  induction fragments generalizing uri pending path with
  | nil =>
    rw [slashed, List.flatMap_nil, List.nil_append, readAll_queryText huri, List.append_nil]
    unfold pathEnd fragmentEnd withoutTrailingEmpty
    split <;> simp
  | cons fragment fragments ih =>
    have hread (rest : SharedString) :
        ({ uri, state := .Path, pending, path } : UriText).read (byte '/') rest =
          ({ uri := { uri with pathFragments := uri.pathFragments ++ [urlDecode pending] }
             state := .Path, path := path ++ [byte '/'] }, 0) := rfl
    have hslashed : slashed (fragment :: fragments) ++ queryText query =
        byte '/' :: (fragment ++ (slashed fragments ++ queryText query)) := by
      simp [slashed]
    have hplain : FreeOf UriParserState.Path.delimiters fragment :=
      (hfree fragment List.mem_cons_self).mono (by decide +kernel)
    rw [hslashed, readAll_cons, hread, List.drop_zero, readAll_append _ hplain]
    simp only [if_true, List.nil_append]
    rw [ih (fun other hother => hfree other (List.mem_cons_of_mem _ hother)) { uri with
      pathFragments := uri.pathFragments ++ [urlDecode pending] } huri]
    simp [slashed, withoutTrailingEmpty]

/-- A path from its leading '/' on. -/
theorem readAll_absolute (fragment : SharedString) (fragments : List SharedString)
    (hfree : ∀ other ∈ fragment :: fragments, FreeOf (text "/?") other) (uri : Uri)
    (huri : uri.queryParameters = ∅) (query : Option SharedString) :
    ({ uri, state := .Path, path := [byte '/'] } : UriText).readAll
        (fragment ++ (slashed fragments ++ queryText query)) =
      { uri with
        path := urlDecode (slashed (fragment :: fragments))
        pathFragments := uri.pathFragments ++ (withoutTrailingEmpty (fragment :: fragments)).map urlDecode
        queryParameters := queryParametersOf query } := by
  have hplain : FreeOf UriParserState.Path.delimiters fragment :=
    (hfree fragment List.mem_cons_self).mono (by decide +kernel)
  rw [readAll_append _ hplain]
  simp only [if_true, List.nil_append]
  rw [readAll_slashed _ (fun other hother => hfree other (List.mem_cons_of_mem _ hother)) uri huri]
  simp [slashed]

/-- A property that every character keeps holds where the text ends. -/
theorem readAll_preserves {P : UriText → Prop} (hread : ∀ t c rest, P t → P (t.read c rest).1)
    {t : UriText} (ht : P t) (str : SharedString) : ∃ final, P final ∧ t.readAll str = final.finish := by
  induction hlength : str.length using Nat.strongRecOn generalizing t str with
  | ind length ih =>
    cases str with
    | nil => exact ⟨t, ht, readAll_nil t⟩
    | cons c rest =>
      rw [readAll_cons]
      refine ih _ ?_ (hread t c rest ht) _ rfl
      simp only [List.length_drop, ← hlength, List.length_cons]
      omega

/-- The path read so far begins with '/', or the path is read and not empty. -/
def PathKept (t : UriText) : Prop :=
  (t.state = .Path ∧ t.path.head? = some (byte '/')) ∨ (t.state = .Query ∧ t.uri.path ≠ [])

theorem urlDecode_ne_nil {str : SharedString} (hstr : str.head? = some (byte '/')) : urlDecode str ≠ [] := by
  obtain ⟨rest, rfl⟩ := List.head?_eq_some_iff.mp hstr
  rw [urlDecode_eq_loop, urlDecodeLoop_plain (by decide)]
  exact List.cons_ne_nil _ _

/-- A path that begins with '/' is not lost again. -/
theorem PathKept.readAll {t : UriText} (ht : t.PathKept) (str : SharedString) :
    (t.readAll str).path ≠ [] := by
  have hread : ∀ (t : UriText) (c : UInt8) (rest : SharedString), t.PathKept → (t.read c rest).1.PathKept := by
    rintro ⟨uri, state, pending, path, queryKey⟩ c rest (⟨hstate, hpath⟩ | ⟨hstate, hpath⟩) <;>
      simp only at hstate hpath <;> subst hstate
    · have := urlDecode_ne_nil hpath
      unfold UriText.read pathEnd fragmentEnd PathKept
      grind
    · unfold UriText.read valueEnd PathKept
      grind
  obtain ⟨final, hfinal, heq⟩ := readAll_preserves hread ht str
  rw [heq]
  unfold finish pathEnd fragmentEnd valueEnd
  rcases hfinal with ⟨hstate, hpath⟩ | ⟨hstate, hpath⟩
  · have := urlDecode_ne_nil hpath
    grind
  · grind

/-- Behind the hostname nothing changes it. -/
theorem hostname_readAll {t : UriText} (str : SharedString)
    (ht : t.state = .Port ∨ t.state = .Path ∨ t.state = .Query) :
    (t.readAll str).hostname = t.uri.hostname := by
  have hread : ∀ (next : UriText) (c : UInt8) (rest : SharedString),
      ((next.state = .Port ∨ next.state = .Path ∨ next.state = .Query) ∧
        next.uri.hostname = t.uri.hostname) →
      (((next.read c rest).1.state = .Port ∨ (next.read c rest).1.state = .Path ∨
        (next.read c rest).1.state = .Query) ∧ (next.read c rest).1.uri.hostname = t.uri.hostname) := by
    rintro next c rest ⟨hstate, hhost⟩
    unfold read pathEnd fragmentEnd valueEnd
    grind
  obtain ⟨final, ⟨hstate, hhost⟩, heq⟩ := readAll_preserves hread ⟨ht, rfl⟩ str
  rw [heq, ← hhost]
  unfold finish pathEnd fragmentEnd valueEnd
  grind

/-- From the path on nothing changes the protocol and the port. -/
theorem protocol_port_readAll {t : UriText} (str : SharedString)
    (ht : t.state = .Path ∨ t.state = .Query) :
    (t.readAll str).protocol = t.uri.protocol ∧ (t.readAll str).port = t.uri.port := by
  have hread : ∀ (next : UriText) (c : UInt8) (rest : SharedString),
      ((next.state = .Path ∨ next.state = .Query) ∧
        next.uri.protocol = t.uri.protocol ∧ next.uri.port = t.uri.port) →
      (((next.read c rest).1.state = .Path ∨ (next.read c rest).1.state = .Query) ∧
        (next.read c rest).1.uri.protocol = t.uri.protocol ∧
        (next.read c rest).1.uri.port = t.uri.port) := by
    rintro next c rest ⟨hstate, hprotocol, hport⟩
    unfold read pathEnd fragmentEnd valueEnd
    grind
  obtain ⟨final, ⟨hstate, hprotocol, hport⟩, heq⟩ := readAll_preserves hread ⟨ht, rfl, rfl⟩ str
  rw [heq, ← hprotocol, ← hport]
  unfold finish pathEnd fragmentEnd valueEnd
  grind

/-- A port takes everything before the next '/'. -/
theorem port_readAll (uri : Uri) (huri : uri.port = []) (pending str : SharedString) :
    ∃ before after, str = before ++ after ∧
      (({ uri, state := .Port, pending } : UriText).readAll str).port = pending ++ before ∧
      (after ≠ [] → (({ uri, state := .Port, pending } : UriText).readAll str).path ≠ []) := by
  by_cases hslash : byte '/' ∈ str
  · obtain ⟨before, after, rfl, hbefore⟩ := List.eq_append_cons_of_mem hslash
    have hfree : FreeOf UriParserState.Port.delimiters before := by
      rintro c hc hmem
      rw [UriParserState.delimiters, List.mem_singleton] at hmem
      exact hbefore (hmem ▸ hc)
    refine ⟨before, byte '/' :: after, rfl, ?_⟩
    rw [readAll_append _ hfree, readAll_cons]
    exact ⟨(protocol_port_readAll _ (Or.inl rfl)).2, fun _ => PathKept.readAll (Or.inl ⟨rfl, rfl⟩) _⟩
  · have hfree : FreeOf UriParserState.Port.delimiters str := by
      rintro c hc hmem
      rw [UriParserState.delimiters, List.mem_singleton] at hmem
      exact hslash (hmem ▸ hc)
    refine ⟨str, [], (List.append_nil str).symm, ?_, fun hne => absurd rfl hne⟩
    rw [← List.append_nil str, readAll_append _ hfree, readAll_nil, List.append_nil]
    simp only [finish, reduceCtorEq, if_false]
    split
    · rename_i hempty
      rw [hempty]
      exact huri
    · rfl

end UriText

/-- A text up to the first of some delimiters. -/
theorem exists_first (delimiters str : SharedString) :
    FreeOf delimiters str ∨
      ∃ before c rest, str = before ++ c :: rest ∧ FreeOf delimiters before ∧ c ∈ delimiters := by
  induction str with
  | nil => exact Or.inl (by simp [FreeOf])
  | cons c str ih =>
    by_cases hc : c ∈ delimiters
    · exact Or.inr ⟨[], c, str, rfl, by simp [FreeOf], hc⟩
    rcases ih with hfree | ⟨before, other, rest, rfl, hbefore, hother⟩
    · exact Or.inl (by simpa [FreeOf, hc] using hfree)
    · exact Or.inr ⟨c :: before, other, rest, rfl, by simpa [FreeOf, hc] using hbefore, hother⟩

theorem first_unique {delimiters before before' : SharedString} {c c' : UInt8} {rest rest' : SharedString}
    (heq : before ++ c :: rest = before' ++ c' :: rest') (hbefore : FreeOf delimiters before)
    (hbefore' : FreeOf delimiters before') (hc : c ∈ delimiters) (hc' : c' ∈ delimiters) :
    before = before' ∧ c = c' ∧ rest = rest' := by
  induction before generalizing before' with
  | nil =>
    cases before' with
    | nil => simpa using heq
    | cons d before' => simp [FreeOf] at *; grind
  | cons d before ih =>
    cases before' with
    | nil => simp [FreeOf] at *; grind
    | cons d' before' => simp [FreeOf] at *; grind

/-- Text behind '?' is never lost in decoding, unless '?' is the end of an escape that is cut off. -/
theorem urlDecode_append_ne (str : SharedString) {rest : SharedString} (hrest : rest ≠ []) :
    urlDecode (str ++ byte '?' :: rest) ≠ urlDecode str := by
  have hlonger : ∀ (length : Nat) (str : SharedString) (k : UInt8), str.length = length →
      (urlDecodeLoop str k).length < (urlDecodeLoop (str ++ byte '?' :: rest) k).length := by
    intro length
    induction length using Nat.strongRecOn with
    | ind length ih =>
      intro str k hlength
      obtain ⟨next, after, rfl⟩ := List.exists_cons_of_ne_nil hrest
      match str with
      | [] =>
        rw [List.nil_append, urlDecodeLoop_plain (by decide)]
        exact Nat.zero_lt_succ _
      | c :: str =>
        by_cases hc : c = byte '%'
        · subst hc
          match str with
          | [] =>
            rw [urlDecodeLoop_tail (by simp), List.singleton_append, urlDecodeLoop_percent]
            exact Nat.zero_lt_succ _
          | [a] =>
            rw [urlDecodeLoop_tail (by simp), List.cons_append, List.singleton_append,
              urlDecodeLoop_percent]
            exact Nat.zero_lt_succ _
          | a :: b :: str =>
            simp only [List.cons_append]
            rw [urlDecodeLoop_percent, urlDecodeLoop_percent]
            exact Nat.succ_lt_succ (ih _ (by simp at hlength; omega) str _ rfl)
        · rw [List.cons_append, urlDecodeLoop_plain hc, urlDecodeLoop_plain hc]
          exact Nat.succ_lt_succ (ih _ (by simp at hlength; omega) str _ rfl)
  intro heq
  rw [urlDecode_eq_loop, urlDecode_eq_loop] at heq
  exact absurd (congrArg List.length heq) (Nat.ne_of_gt (hlonger _ str 0 rfl))

end cpv
