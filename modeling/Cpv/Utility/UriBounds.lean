import Cpv.Utility.Uri
import Cpv.Utility.UrlDecodeBounds

namespace cpv

namespace UriParser

/-- The decoded text of the source between two offsets, with every access to memory checked. -/
def slice? (source : SharedString) (start stop : Nat) : Option SharedString := do
  let part ← source.slice? start stop
  UrlDecoder.decode part

/-- `pushFragment` with every access to memory checked. -/
def pushFragment? (source : SharedString) (stop : Nat) (uri : Uri) (mark : Nat) : Option Uri := do
  let fragment ← slice? source mark stop
  return { uri with pathFragments := uri.pathFragments ++ [fragment] }

/-- The body of the loop for the character `c` at `ptr`, with every access to memory checked. -/
def parseChar? (source : SharedString) (parser : UriParser) (c : UInt8) : Option UriParser := do
  let { uri, state, mark, pathMark, ptr, queryKey := _ } := parser
  if c = byte '/' then
    match state with
    | .Protocol =>
      let uri ← (if ptr ≠ mark then pushFragment? source ptr uri mark else some uri : Option Uri)
      return { parser with uri, mark := ptr + 1, state := .Path }
    | .Path =>
      let uri ← pushFragment? source ptr uri mark
      return { parser with uri, mark := ptr + 1 }
    | .Hostname =>
      let hostname ← slice? source mark ptr
      return { parser with uri := { uri with hostname }, mark := ptr + 1, pathMark := ptr, state := .Path }
    | .Port =>
      let port ← source.slice? mark ptr
      return { parser with uri := { uri with port }, mark := ptr + 1, pathMark := ptr, state := .Path }
    | _ => return parser
  else if c = byte '?' then
    match state with
    | .Path =>
      let uri ← (if mark < ptr then pushFragment? source ptr uri mark else some uri : Option Uri)
      let path ← slice? source pathMark ptr
      return { parser with uri := { uri with path }, mark := ptr + 1, state := .Query }
    | .Protocol => return { parser with mark := ptr + 1, state := .Query }
    | _ => return parser
  else if c = byte '=' then
    match state with
    | .Query =>
      let queryKey ← slice? source mark ptr
      return { parser with queryKey, mark := ptr + 1 }
    | _ => return parser
  else if c = byte '&' then
    match state with
    | .Query =>
      let value ← slice? source mark ptr
      return { parser.assignQueryParameter value with mark := ptr + 1 }
    | _ => return parser
  else if c = byte ':' then
    match state with
    | .Protocol =>
      let protocol ← slice? source mark ptr
      return { parser with uri := { uri with protocol }, ptr := ptr + 2, mark := ptr + 3, state := .Hostname }
    | .Hostname =>
      let hostname ← slice? source mark ptr
      return { parser with uri := { uri with hostname }, mark := ptr + 1, state := .Port }
    | _ => return parser
  else if c = byte '[' then
    match state with
    | .Hostname => return { parser with state := .HostnameV6 }
    | _ => return parser
  else if c = byte ']' then
    match state with
    | .HostnameV6 =>
      -- hostname v6 will include [ and ]
      let hostname ← slice? source mark (ptr + 1)
      let parser := { parser with uri := { uri with hostname }, mark := ptr + 1 }
      let next ← (if ptr + 1 < source.length then source[ptr + 1]?.map some else some none : Option (Option UInt8))
      if next = some (byte ':') then return { parser with ptr := ptr + 1, mark := ptr + 2, state := .Port }
      else return { parser with pathMark := ptr + 1, state := .Path }
    | _ => return parser
  else return parser

/-- A round of the loop of `Uri::parse`. It has no result where a byte outside of the source would be read, or a slice
    taken that is not inside of it. -/
def parseRound (source : SharedString) (parser : UriParser) : Option (ForInStep UriParser) :=
  if parser.ptr < source.length then do
    let c ← source[parser.ptr]?
    let parser ← parser.parseChar? source c
    return .yield { parser with ptr := parser.ptr + 1 }
  else some (.done parser)

/-- Parse final parts, with every access to memory checked. -/
def finish? (source : SharedString) (parser : UriParser) : Option Uri := do
  let { uri, state, mark, pathMark, ptr, queryKey := _ } := parser
  match state with
  | .Path =>
    let uri ← (if mark < ptr then pushFragment? source ptr uri mark else some uri : Option Uri)
    let path ← slice? source pathMark ptr
    return { uri with path }
  | .Hostname =>
    if mark < ptr then
      let hostname ← slice? source mark ptr
      return { uri with hostname }
    else return uri
  | .Port =>
    if mark < ptr then
      let port ← source.slice? mark ptr
      return { uri with port }
    else return uri
  | .Query =>
    if mark < ptr then
      let value ← slice? source mark ptr
      return (parser.assignQueryParameter value).uri
    else return uri
  | _ => return uri

/-- Where the pointers are: only "scheme:" moves them behind the end of the source, and leaves nothing between them. -/
structure Inside (source : SharedString) (parser : UriParser) : Prop where
  mark_le : parser.mark ≤ parser.ptr
  pathMark_le : parser.pathMark ≤ parser.ptr
  ptr_le : parser.ptr ≤ source.length ∨ parser.state = .Hostname ∧ parser.mark = parser.ptr

variable {source : SharedString} {parser : UriParser}

theorem inside_start (uri : Uri) : Inside source { uri } := ⟨Nat.le_refl 0, Nat.le_refl 0, .inl (Nat.zero_le _)⟩

theorem slice?_eq {start stop : Nat} (hstart : start ≤ stop) (hstop : stop ≤ source.length) :
    slice? source start stop = some (slice source start stop) := by
  rw [slice?, List.slice?_eq hstart hstop]
  exact UrlDecoder.decode_eq _

theorem pushFragment?_eq {stop mark : Nat} (hmark : mark ≤ stop) (hstop : stop ≤ source.length) (uri : Uri) :
    pushFragment? source stop uri mark = some (pushFragment source stop uri mark) := by
  rw [pushFragment?, slice?_eq hmark hstop]
  rfl

/-- For a character inside of the source the checks succeed. -/
theorem Inside.parseChar?_eq (hinside : Inside source parser) {c : UInt8} (hc : source[parser.ptr]? = some c) :
    parser.parseChar? source c = some (parser.parseChar source c) := by
  obtain ⟨uri, state, mark, pathMark, ptr, queryKey⟩ := parser
  obtain ⟨hmark, hpathMark, -⟩ := hinside
  simp only at hmark hpathMark hc
  have hlt : ptr < source.length := (List.getElem?_eq_some_iff.mp hc).1
  have hslice := slice?_eq hmark hlt.le
  have hpath := slice?_eq hpathMark hlt.le
  have hlonger := slice?_eq (Nat.le_succ_of_le hmark) hlt
  have hfragment := pushFragment?_eq hmark hlt.le
  have hport := List.slice?_eq hmark hlt.le
  have hnext : (if ptr + 1 < source.length then source[ptr + 1]?.map some else some none) = some source[ptr + 1]? := by
    split
    · rename_i hmore
      rw [List.getElem?_eq_getElem hmore]
      rfl
    · rename_i hend
      rw [List.getElem?_eq_none (by omega)]
  have hbefore : (if ptr ≠ mark then pushFragment? source ptr uri mark else some uri) =
      some (if ptr ≠ mark then pushFragment source ptr uri mark else uri) := by
    rw [hfragment]
    exact (apply_ite some _ _ _).symm
  have hbehind : (if mark < ptr then pushFragment? source ptr uri mark else some uri) =
      some (if mark < ptr then pushFragment source ptr uri mark else uri) := by
    rw [hfragment]
    exact (apply_ite some _ _ _).symm
  unfold parseChar? parseChar
  dsimp only
  rw [hbefore, hbehind, hslice, hpath, hlonger, hfragment, hport, hnext]
  split
  · cases state <;> rfl
  split
  · cases state <;> rfl
  split
  · cases state <;> rfl
  split
  · cases state <;> rfl
  split
  · cases state <;> rfl
  split
  · cases state <;> rfl
  split
  · cases state with
    | HostnameV6 => exact (apply_ite some _ _ _).symm
    | _ => rfl
  · rfl

/-- A round leaves the pointers where they may be. -/
theorem Inside.parseChar (hinside : Inside source parser) {c : UInt8} (hc : source[parser.ptr]? = some c) :
    Inside source { parser.parseChar source c with ptr := (parser.parseChar source c).ptr + 1 } := by
  obtain ⟨uri, state, mark, pathMark, ptr, queryKey⟩ := parser
  obtain ⟨hmark, hpathMark, -⟩ := hinside
  simp only at hmark hpathMark hc
  have hlt : ptr < source.length := (List.getElem?_eq_some_iff.mp hc).1
  have hnext : source[ptr + 1]? = some (byte ':') → ptr + 1 < source.length :=
    fun h => (List.getElem?_eq_some_iff.mp h).1
  unfold UriParser.parseChar assignQueryParameter
  constructor
  · grind
  · grind
  · grind

/-- The final parts are inside of the source: where the end is passed, nothing is left. -/
theorem Inside.finish?_eq (hinside : Inside source parser) : parser.finish? source = some (parser.finish source) := by
  obtain ⟨uri, state, mark, pathMark, ptr, queryKey⟩ := parser
  obtain ⟨hmark, hpathMark, hptr⟩ := hinside
  simp only at hmark hpathMark hptr
  unfold finish? finish
  dsimp only
  cases state with
  | Path =>
    have hle : ptr ≤ source.length := hptr.resolve_right (by simp)
    rw [slice?_eq hpathMark hle]
    by_cases hpending : mark < ptr
    · simp [hpending, pushFragment?_eq hmark hle]
    · simp [hpending]
  | Hostname =>
    by_cases hpending : mark < ptr
    · have hle : ptr ≤ source.length := hptr.resolve_right (by omega)
      simp [hpending, slice?_eq hmark hle]
    · simp [hpending]
  | Port =>
    have hle : ptr ≤ source.length := hptr.resolve_right (by simp)
    by_cases hpending : mark < ptr
    · simp [hpending, List.slice?_eq hmark hle]
    · simp [hpending]
  | Query =>
    have hle : ptr ≤ source.length := hptr.resolve_right (by simp)
    by_cases hpending : mark < ptr
    · simp [hpending, slice?_eq hmark hle]
    · simp [hpending]
  | _ => rfl

/-- The checked loop goes where the loop goes. -/
theorem Inside.run_eq (rounds : Nat) (hinside : Inside source parser) (hrounds : source.length ≤ parser.ptr + rounds) :
    Loop.run (parseRound source) (rounds + 1) parser = some (parseLoop source rounds parser) ∧
      Inside source (parseLoop source rounds parser) := by
  induction rounds generalizing parser with
  | zero =>
    refine ⟨Loop.run_done ?_, hinside⟩
    exact if_neg (by omega)
  | succ rounds ih =>
    rw [parseLoop]
    cases hc : source[parser.ptr]? with
    | none =>
      have hend := List.getElem?_eq_none_iff.mp hc
      exact ⟨Loop.run_done (if_neg (by omega)), hinside⟩
    | some c =>
      have hlt := (List.getElem?_eq_some_iff.mp hc).1
      have hmoved := ptr_le_parseChar source parser c
      have hround : parseRound source parser =
          some (.yield { parser.parseChar source c with ptr := (parser.parseChar source c).ptr + 1 }) := by
        rw [parseRound, if_pos hlt, hc]
        simp only [Option.bind_eq_bind, Option.bind_some, hinside.parseChar?_eq hc]
        rfl
      rw [Loop.run_yield hround]
      exact ih (hinside.parseChar hc) (by simp only; omega)

end UriParser

/-- Parse given uri into what the members already hold, with every access to memory checked. -/
def Uri.parseInto? (uri : Uri) (source : SharedString) : Option Uri := do
  let parser ← Loop.run (UriParser.parseRound source) (source.length + 1) { uri }
  parser.finish? source

/-- No access of `Uri::parse` to memory is outside of the source. -/
theorem Uri.parseInto?_eq (uri : Uri) (source : SharedString) : uri.parseInto? source = some (uri.parseInto source) := by
  obtain ⟨hrun, hinside⟩ := (@UriParser.inside_start source uri).run_eq source.length (by simp)
  rw [parseInto?, hrun]
  exact hinside.finish?_eq

end cpv
