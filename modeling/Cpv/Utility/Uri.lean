import Mathlib.Data.List.AList
import Cpv.Utility.HttpUtils
import Cpv.Http.Headers

namespace cpv

/-- Class used to parse and build uri -/
structure Uri where
  protocol : SharedString := []
  hostname : SharedString := []
  port : SharedString := []
  path : SharedString := []
  pathFragments : List SharedString := []
  queryParameters : StringMap SharedString := ∅

inductive UriParserState
  | Protocol
  | Hostname
  | HostnameV6
  | Port
  | Path
  | Query
  deriving DecidableEq, Repr

/-- The local variables of `Uri::parse` and the members it writes. Pointers are
    offsets from the beginning of the text. -/
structure UriParser where
  uri : Uri := {}
  state : UriParserState := .Protocol
  mark : Nat := 0
  pathMark : Nat := 0
  ptr : Nat := 0
  queryKey : SharedString := []

namespace UriParser

/-- The decoded text of the source between two offsets. -/
def slice (source : SharedString) (start stop : Nat) : SharedString :=
  urlDecode ((source.drop start).take (stop - start))

/-- Put the decoded text from `mark` before `stop` behind the path fragments. -/
def pushFragment (source : SharedString) (stop : Nat) (uri : Uri) (mark : Nat) : Uri :=
  { uri with pathFragments := uri.pathFragments ++ [slice source mark stop] }

/-- Associate the key read last with a value. The key is moved into the map
    only when the map does not have it yet. -/
def assignQueryParameter (parser : UriParser) (value : SharedString) : UriParser :=
  { parser with
    queryKey := if parser.queryKey ∈ parser.uri.queryParameters then parser.queryKey else []
    uri := { parser.uri with
      queryParameters := parser.uri.queryParameters.insert parser.queryKey value } }

/-- The body of the loop for the character `c` at `ptr`. -/
def parseChar (source : SharedString) (parser : UriParser) (c : UInt8) : UriParser :=
  let { uri, state, mark, pathMark, ptr, queryKey := _ } := parser
  if c = byte '/' then
    match state with
    | .Protocol =>
      -- path only without leading /, e.g. articles/today
      { parser with
        uri := if ptr ≠ mark then pushFragment source ptr uri mark else uri
        mark := ptr + 1, state := .Path }
    | .Path => { parser with uri := pushFragment source ptr uri mark, mark := ptr + 1 }
    | .Hostname =>
      { parser with
        uri := { uri with hostname := slice source mark ptr }
        mark := ptr + 1, pathMark := ptr, state := .Path }
    | .Port =>
      -- port should be numeric, thus no url decode is required
      { parser with
        uri := { uri with port := (source.drop mark).take (ptr - mark) }
        mark := ptr + 1, pathMark := ptr, state := .Path }
    | _ => parser
  else if c = byte '?' then
    match state with
    | .Path =>
      let uri := if mark < ptr then pushFragment source ptr uri mark else uri
      { parser with
        uri := { uri with path := slice source pathMark ptr }
        mark := ptr + 1, state := .Query }
    | .Protocol => { parser with mark := ptr + 1, state := .Query }
    | _ => parser
  else if c = byte '=' then
    match state with
    | .Query => { parser with queryKey := slice source mark ptr, mark := ptr + 1 }
    | _ => parser
  else if c = byte '&' then
    match state with
    | .Query => { parser.assignQueryParameter (slice source mark ptr) with mark := ptr + 1 }
    | _ => parser
  else if c = byte ':' then
    match state with
    | .Protocol =>
      { parser with
        uri := { uri with protocol := slice source mark ptr }
        ptr := ptr + 2, mark := ptr + 3, state := .Hostname }
    | .Hostname =>
      { parser with
        uri := { uri with hostname := slice source mark ptr }
        mark := ptr + 1, state := .Port }
    | _ => parser
  else if c = byte '[' then
    match state with
    | .Hostname => { parser with state := .HostnameV6 }
    | _ => parser
  else if c = byte ']' then
    match state with
    | .HostnameV6 =>
      -- hostname v6 will include [ and ]
      let parser := { parser with
        uri := { uri with hostname := slice source mark (ptr + 1) }, mark := ptr + 1 }
      if source[ptr + 1]? = some (byte ':') then
        { parser with ptr := ptr + 1, mark := ptr + 2, state := .Port }
      else { parser with pathMark := ptr + 1, state := .Path }
    | _ => parser
  else parser

/-- The loop over the characters. Each round moves `ptr` by one at least, so
    that as many rounds as there are characters are enough. -/
def parseLoop (source : SharedString) : Nat → UriParser → UriParser
  | 0, parser => parser
  | rounds + 1, parser =>
    match source[parser.ptr]? with
    | none => parser
    | some c =>
      let parser := parser.parseChar source c
      parseLoop source rounds { parser with ptr := parser.ptr + 1 }

/-- Parse final parts -/
def finish (source : SharedString) (parser : UriParser) : Uri :=
  let { uri, state, mark, pathMark, ptr, queryKey := _ } := parser
  match state with
  | .Path =>
    let uri := if mark < ptr then pushFragment source ptr uri mark else uri
    { uri with path := slice source pathMark ptr }
  | .Hostname => if mark < ptr then { uri with hostname := slice source mark ptr } else uri
  | .Port => if mark < ptr then { uri with port := (source.drop mark).take (ptr - mark) } else uri
  | .Query =>
    if mark < ptr then (parser.assignQueryParameter (slice source mark ptr)).uri else uri
  | _ => uri

/-- No round moves `ptr` back. -/
theorem ptr_le_parseChar (source : SharedString) (parser : UriParser) (c : UInt8) :
    parser.ptr ≤ (parser.parseChar source c).ptr := by
  unfold parseChar assignQueryParameter
  grind

/-- The loop ends because the text does: its rounds are enough. -/
theorem parseLoop_stops (source : SharedString) (rounds : Nat) (parser : UriParser)
    (hrounds : source.length ≤ parser.ptr + rounds) :
    source.length ≤ (parseLoop source rounds parser).ptr := by
  induction rounds generalizing parser with
  | zero => simpa [parseLoop] using hrounds
  | succ rounds ih =>
    rw [parseLoop]
    split
    · rename_i hend
      exact List.getElem?_eq_none_iff.mp hend
    · rename_i c _
      have hmoved := ptr_le_parseChar source parser c
      exact ih _ (by simp only; omega)

end UriParser

/-- Parse given uri into what the members already hold. -/
def Uri.parseInto (uri : Uri) (source : SharedString) : Uri :=
  (UriParser.parseLoop source source.length { uri }).finish source

/-- Construct with uri string -/
def Uri.parse (source : SharedString) : Uri := Uri.parseInto {} source

example : (Uri.parse (text "http://[::1]:8000/a%20b/c?k=v")).pathFragments = [text "a b", text "c"] := by
  decide +kernel

end cpv
