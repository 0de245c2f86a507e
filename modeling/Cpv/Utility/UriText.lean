import Cpv.Utility.Uri

namespace cpv

/-- The characters that end a part of the uri in a state. -/
def UriParserState.delimiters : UriParserState → SharedString
  | .Protocol => [byte '/', byte '?', byte ':']
  | .Hostname => [byte '/', byte ':', byte '[']
  | .HostnameV6 => [byte ']']
  | .Port => [byte '/']
  | .Path => [byte '/', byte '?']
  | .Query => [byte '=', byte '&']

/-- Every other character leaves the parser as it is. -/
theorem UriParser.parseChar_plain (source : SharedString) {parser : UriParser} {c : UInt8}
    (hc : c ∉ parser.state.delimiters) : parser.parseChar source c = parser := by
  obtain ⟨uri, state, mark, pathMark, ptr, queryKey⟩ := parser
  unfold parseChar
  cases state <;>
    simp only [UriParserState.delimiters, List.mem_cons, List.not_mem_nil, or_false, not_or] at hc <;>
    simp only [hc, if_false] <;> grind

/-- The uri parser over the text still to read: the texts behind `mark` and
    `pathMark` take the place of the pointers into the source. -/
structure UriText where
  uri : Uri := {}
  state : UriParserState := .Protocol
  /-- The text from `mark` to `ptr` -/
  pending : SharedString := []
  /-- The text from `pathMark` to `ptr`, while the path is read -/
  path : SharedString := []
  queryKey : SharedString := []

namespace UriText

/-- Put the decoded pending text behind the path fragments. -/
def fragmentEnd (t : UriText) : Uri :=
  { t.uri with pathFragments := t.uri.pathFragments ++ [urlDecode t.pending] }

/-- The uri at the end of its path. -/
def pathEnd (t : UriText) : Uri :=
  let uri := if t.pending = [] then t.uri else t.fragmentEnd
  { uri with path := urlDecode t.path }

/-- The uri and the key after the end of a query value. -/
def valueEnd (t : UriText) : UriText :=
  { t with
    pending := []
    queryKey := if t.queryKey ∈ t.uri.queryParameters then t.queryKey else []
    uri := { t.uri with
      queryParameters := t.uri.queryParameters.insert t.queryKey (urlDecode t.pending) } }

/-- Read the character `c` before `rest`, and return how much of `rest` is
    read with it. -/
def read (t : UriText) (c : UInt8) (rest : SharedString) : UriText × Nat :=
  match t.state with
  | .Protocol =>
    if c = byte '/' then
      ({ t with
        uri := if t.pending = [] then t.uri else t.fragmentEnd
        path := t.pending ++ [c], pending := [], state := .Path }, 0)
    else if c = byte '?' then ({ t with pending := [], state := .Query }, 0)
    else if c = byte ':' then
      ({ t with uri := { t.uri with protocol := urlDecode t.pending }, pending := [], state := .Hostname }, 2)
    else ({ t with pending := t.pending ++ [c] }, 0)
  | .Hostname =>
    if c = byte '/' then
      ({ t with
        uri := { t.uri with hostname := urlDecode t.pending }, pending := [], path := [c], state := .Path }, 0)
    else if c = byte ':' then
      ({ t with uri := { t.uri with hostname := urlDecode t.pending }, pending := [], state := .Port }, 0)
    else if c = byte '[' then ({ t with pending := t.pending ++ [c], state := .HostnameV6 }, 0)
    else ({ t with pending := t.pending ++ [c] }, 0)
  | .HostnameV6 =>
    if c = byte ']' then
      let t := { t with uri := { t.uri with hostname := urlDecode (t.pending ++ [c]) }, pending := [] }
      if rest.head? = some (byte ':') then ({ t with state := .Port }, 1)
      else ({ t with path := [], state := .Path }, 0)
    else ({ t with pending := t.pending ++ [c] }, 0)
  | .Port =>
    if c = byte '/' then
      ({ t with uri := { t.uri with port := t.pending }, pending := [], path := [c], state := .Path }, 0)
    else ({ t with pending := t.pending ++ [c] }, 0)
  | .Path =>
    if c = byte '/' then ({ t with uri := t.fragmentEnd, pending := [], path := t.path ++ [c] }, 0)
    else if c = byte '?' then
      ({ t with uri := t.pathEnd, pending := [], path := [], state := .Query }, 0)
    else ({ t with pending := t.pending ++ [c], path := t.path ++ [c] }, 0)
  | .Query =>
    if c = byte '=' then ({ t with queryKey := urlDecode t.pending, pending := [] }, 0)
    else if c = byte '&' then (t.valueEnd, 0)
    else ({ t with pending := t.pending ++ [c] }, 0)

/-- A character that ends nothing is put behind the pending text. -/
theorem read_plain {t : UriText} {c : UInt8} (rest : SharedString) (hc : c ∉ t.state.delimiters) :
    t.read c rest =
      ({ t with
        pending := t.pending ++ [c]
        path := if t.state = .Path then t.path ++ [c] else t.path }, 0) := by
  obtain ⟨uri, state, pending, path, queryKey⟩ := t
  cases state <;>
    simp only [UriParserState.delimiters, List.mem_cons, List.not_mem_nil, or_false, not_or] at hc <;>
    simp only [read, hc, if_false, reduceCtorEq, if_true]

/-- Parse final parts -/
def finish (t : UriText) : Uri :=
  match t.state with
  | .Path => t.pathEnd
  | .Hostname => if t.pending = [] then t.uri else { t.uri with hostname := urlDecode t.pending }
  | .Port => if t.pending = [] then t.uri else { t.uri with port := t.pending }
  | .Query => if t.pending = [] then t.uri else t.valueEnd.uri
  | _ => t.uri

def readAll (t : UriText) : SharedString → Uri
  | [] => t.finish
  | c :: rest => readAll (t.read c rest).1 (rest.drop (t.read c rest).2)
termination_by rest => rest.length
decreasing_by simp only [List.length_drop, List.length_cons]; omega

@[simp] theorem readAll_nil (t : UriText) : t.readAll [] = t.finish := by rw [readAll]

theorem readAll_cons (t : UriText) (c : UInt8) (rest : SharedString) :
    t.readAll (c :: rest) = (t.read c rest).1.readAll (rest.drop (t.read c rest).2) := by
  rw [readAll]

/-- The texts of `t` are those behind the pointers of the parser. -/
structure Shows (source : SharedString) (parser : UriParser) (t : UriText) : Prop where
  uri : t.uri = parser.uri
  state : t.state = parser.state
  queryKey : t.queryKey = parser.queryKey
  pending : t.pending = (source.drop parser.mark).take (parser.ptr - parser.mark)
  mark_le : parser.mark ≤ parser.ptr
  inside : parser.ptr ≤ source.length ∨ parser.mark = parser.ptr
  path : t.state = .Path →
    parser.pathMark ≤ parser.ptr ∧
      t.path = (source.drop parser.pathMark).take (parser.ptr - parser.pathMark)
  pathMark : t.state = .Protocol → parser.pathMark = parser.mark

/-- A text that ends at a character becomes one character longer with it. -/
theorem take_drop_succ {source : SharedString} {start stop : Nat} {c : UInt8}
    (hc : source[stop]? = some c) (hle : start ≤ stop) :
    (source.drop start).take (stop + 1 - start) = (source.drop start).take (stop - start) ++ [c] := by
  obtain ⟨length, rfl⟩ := Nat.exists_eq_add_of_le hle
  have hget : (source.drop start)[length]? = some c := by simpa using hc
  rw [show start + length + 1 - start = length + 1 by omega, Nat.add_sub_cancel_left,
    List.take_add_one, hget]
  rfl

theorem Shows.pending_eq_nil_iff {source : SharedString} {parser : UriParser} {t : UriText}
    (h : Shows source parser t) : t.pending = [] ↔ ¬parser.mark < parser.ptr := by
  rw [h.pending, List.take_eq_nil_iff, List.drop_eq_nil_iff]
  have := h.mark_le
  rcases h.inside with hinside | hinside <;> omega

/-- A character that ends nothing moves `ptr` only. -/
theorem Shows.read_plain {source : SharedString} {parser : UriParser} {t : UriText} {c : UInt8}
    (h : Shows source parser t) (hc : source[parser.ptr]? = some c) (hplain : c ∉ t.state.delimiters) :
    Shows source { parser with ptr := parser.ptr + 1 }
      { t with
        pending := t.pending ++ [c]
        path := if t.state = .Path then t.path ++ [c] else t.path } := by
  obtain ⟨huri, hstate, hkey, hpending, hle, -, hpath, hmark⟩ := h
  have hinside : parser.ptr < source.length := (List.getElem?_eq_some_iff.mp hc).1
  refine ⟨huri, hstate, hkey, ?_, Nat.le_succ_of_le hle, Or.inl hinside, ?_, hmark⟩
  · rw [take_drop_succ hc hle, ← hpending]
  · intro hin
    obtain ⟨hmarkle, hpathText⟩ := hpath hin
    refine ⟨Nat.le_succ_of_le hmarkle, ?_⟩
    rw [take_drop_succ hc hmarkle, ← hpathText]
    exact if_pos hin

/-- One character read from the text is one round of the loop. -/
theorem Shows.read {source : SharedString} {parser : UriParser} {t : UriText} {c : UInt8}
    (h : Shows source parser t) (hc : source[parser.ptr]? = some c) :
    Shows source
        { parser.parseChar source c with ptr := (parser.parseChar source c).ptr + 1 }
        (t.read c (source.drop (parser.ptr + 1))).1 ∧
      (source.drop (parser.ptr + 1)).drop (t.read c (source.drop (parser.ptr + 1))).2 =
        source.drop ((parser.parseChar source c).ptr + 1) := by
  by_cases hplain : c ∉ t.state.delimiters
  · rw [UriText.read_plain _ hplain, UriParser.parseChar_plain source (h.state ▸ hplain)]
    exact ⟨h.read_plain hc hplain, rfl⟩
  have hnil := h.pending_eq_nil_iff
  obtain ⟨huri, hstate, hkey, hpending, hle, -, hpath, hmark⟩ := h
  obtain ⟨uri, state, mark, pathMark, ptr, queryKey⟩ := parser
  obtain ⟨uri, state, pending, path, queryKey⟩ := t
  simp only at huri hstate hkey hpending hle hpath hmark hc hnil hplain
  subst huri hstate hkey
  have hinside : ptr < source.length := (List.getElem?_eq_some_iff.mp hc).1
  have hlonger := take_drop_succ hc hle
  have hempty : (source.drop (ptr + 1)).take (ptr + 1 - (ptr + 1)) = [] := by simp
  have hhead : (source.drop (ptr + 1)).head? = source[ptr + 1]? := by simp
  have hone : (source.drop ptr).take (ptr + 1 - ptr) = [c] := by
    simpa using take_drop_succ hc (le_refl ptr)
  rw [not_not, UriParserState.delimiters.eq_def] at hplain
  unfold UriText.read UriParser.parseChar
  cases state with
  | Protocol =>
    simp only [List.mem_cons, List.not_mem_nil, or_false] at hplain
    rcases hplain with rfl | rfl | rfl <;> simp +decide only [if_true, if_false]
    · refine ⟨⟨?_, rfl, rfl, hempty.symm, le_refl _, Or.inr rfl, ?_, by simp⟩, rfl⟩
      · grind [UriText.fragmentEnd, UriParser.pushFragment, UriParser.slice]
      · grind
    · exact ⟨⟨rfl, rfl, rfl, hempty.symm, le_refl _, Or.inr rfl, by simp, by simp⟩, rfl⟩
    · refine ⟨⟨?_, rfl, rfl, by simp, by simp, Or.inr rfl, by simp, by simp⟩, by rw [List.drop_drop]⟩
      rw [UriParser.slice, ← hpending]
  | Hostname =>
    simp only [List.mem_cons, List.not_mem_nil, or_false] at hplain
    rcases hplain with rfl | rfl | rfl <;> simp +decide only [if_true, if_false]
    · refine ⟨⟨?_, rfl, rfl, hempty.symm, le_refl _, Or.inr rfl, ?_, by simp⟩, rfl⟩
      · rw [UriParser.slice, ← hpending]
      · exact fun _ => ⟨Nat.le_succ _, hone.symm⟩
    · refine ⟨⟨?_, rfl, rfl, hempty.symm, le_refl _, Or.inr rfl, by simp, by simp⟩, rfl⟩
      rw [UriParser.slice, ← hpending]
    · refine ⟨⟨rfl, rfl, rfl, ?_, Nat.le_succ_of_le hle, Or.inl hinside, by simp, by simp⟩, rfl⟩
      rw [hlonger, ← hpending]
  | HostnameV6 =>
    simp only [List.mem_cons, List.not_mem_nil, or_false] at hplain
    subst hplain
    simp +decide only [if_true, if_false]
    rw [hhead]
    split
    · refine ⟨⟨?_, rfl, rfl, by simp, by simp, Or.inr rfl, by simp, by simp⟩, by rw [List.drop_drop]⟩
      rw [UriParser.slice, hlonger, ← hpending]
    · refine ⟨⟨?_, rfl, rfl, by simp, by simp, Or.inr rfl, by simp, by simp⟩, rfl⟩
      rw [UriParser.slice, hlonger, ← hpending]
  | Port =>
    simp only [List.mem_cons, List.not_mem_nil, or_false] at hplain
    subst hplain
    simp +decide only [if_true, if_false]
    refine ⟨⟨?_, rfl, rfl, hempty.symm, le_refl _, Or.inr rfl, ?_, by simp⟩, rfl⟩
    · rw [hpending]
    · exact fun _ => ⟨Nat.le_succ _, hone.symm⟩
  | Path =>
    obtain ⟨hmarkle, hpathText⟩ := hpath rfl
    have hpathLonger := take_drop_succ hc hmarkle
    simp only [List.mem_cons, List.not_mem_nil, or_false] at hplain
    rcases hplain with rfl | rfl <;> simp +decide only [if_true, if_false]
    · refine ⟨⟨?_, rfl, rfl, hempty.symm, le_refl _, Or.inr rfl, ?_, by simp⟩, rfl⟩
      · rw [UriText.fragmentEnd, UriParser.pushFragment, UriParser.slice, ← hpending]
      · exact fun _ => ⟨Nat.le_succ_of_le hmarkle, by rw [hpathLonger, ← hpathText]⟩
    · refine ⟨⟨?_, rfl, rfl, hempty.symm, le_refl _, Or.inr rfl, by simp, by simp⟩, rfl⟩
      grind [UriText.pathEnd, UriText.fragmentEnd, UriParser.pushFragment, UriParser.slice]
  | Query =>
    simp only [List.mem_cons, List.not_mem_nil, or_false] at hplain
    rcases hplain with rfl | rfl <;> simp +decide only [if_true, if_false]
    · refine ⟨⟨rfl, rfl, ?_, hempty.symm, le_refl _, Or.inr rfl, by simp, by simp⟩, rfl⟩
      rw [UriParser.slice, ← hpending]
    · refine ⟨⟨?_, rfl, rfl, hempty.symm, le_refl _, Or.inr rfl, by simp [valueEnd], by simp [valueEnd]⟩, rfl⟩
      rw [UriText.valueEnd, UriParser.assignQueryParameter, UriParser.slice, ← hpending]

/-- The final parts are those of the text. -/
theorem Shows.finish {source : SharedString} {parser : UriParser} {t : UriText}
    (h : Shows source parser t) : t.finish = parser.finish source := by
  have hnil := h.pending_eq_nil_iff
  obtain ⟨huri, hstate, hkey, hpending, -, -, hpath, -⟩ := h
  obtain ⟨uri, state, mark, pathMark, ptr, queryKey⟩ := parser
  obtain ⟨uri, state, pending, path, queryKey⟩ := t
  simp only at huri hstate hkey hpending hpath hnil
  subst huri hstate hkey
  cases state with
  | Path =>
    obtain ⟨-, hpathText⟩ := hpath rfl
    grind [UriText.finish, UriParser.finish, UriText.pathEnd, UriText.fragmentEnd,
      UriParser.pushFragment, UriParser.slice]
  | Query =>
    grind [UriText.finish, UriParser.finish, UriText.valueEnd, UriParser.assignQueryParameter,
      UriParser.slice]
  | _ => grind [UriText.finish, UriParser.finish, UriParser.slice]

/-- Enough rounds of the loop are the reading of the text before it. -/
theorem Shows.readAll {source : SharedString} (rounds : Nat) {parser : UriParser} {t : UriText}
    (h : Shows source parser t) (hrounds : source.length ≤ parser.ptr + rounds) :
    t.readAll (source.drop parser.ptr) = (UriParser.parseLoop source rounds parser).finish source := by
  induction rounds generalizing parser t with
  | zero =>
    rw [List.drop_eq_nil_of_le (by simpa using hrounds), readAll_nil, UriParser.parseLoop]
    exact h.finish
  | succ rounds ih =>
    rw [UriParser.parseLoop]
    cases hc : source[parser.ptr]? with
    | none =>
      rw [List.drop_eq_nil_of_le (List.getElem?_eq_none_iff.mp hc), readAll_nil]
      exact h.finish
    | some c =>
      obtain ⟨hshows, hrest⟩ := h.read hc
      have hforward := UriParser.ptr_le_parseChar source parser c
      have hdrop : source.drop parser.ptr = c :: source.drop (parser.ptr + 1) := by
        obtain ⟨hlt, rfl⟩ := List.getElem?_eq_some_iff.mp hc
        exact List.drop_eq_getElem_cons hlt
      rw [hdrop, readAll_cons, hrest]
      exact ih hshows (by simp only; omega)

end UriText

/-- `Uri::parse` reads its text from left to right. -/
theorem Uri.parse_eq (source : SharedString) : Uri.parse source = UriText.readAll {} source := by
  have hshows : UriText.Shows source {} {} := by
    constructor <;> simp
  simpa [Uri.parse, Uri.parseInto] using (hshows.readAll source.length (by simp)).symm

end cpv
