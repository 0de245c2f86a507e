import Cpv.Core.Scanner
import Cpv.Http.Form
import Cpv.Http.Request
import Cpv.Utility.UriBounds

namespace cpv

section Trim

/-- A round of the loop of `trimString` from the beginning. -/
def trimPrefixRound (source : SharedString) (ptrEnd ptr : Nat) : Option (ForInStep Nat) :=
  if ptr < ptrEnd then do
    let c ← source[ptr]?
    if isTrimmed c then return .yield (ptr + 1) else return .done ptr
  else some (.done ptr)

/-- A round of the loop of `trimString` from the end. -/
def trimSuffixRound (source : SharedString) (ptr ptrEnd : Nat) : Option (ForInStep Nat) :=
  if ptr < ptrEnd then do
    let c ← source[ptrEnd - 1]?
    if isTrimmed c then return .yield (ptrEnd - 1) else return .done ptrEnd
  else some (.done ptrEnd)

/-- The part of a string that `trimString` leaves of the text between two pointers, with every access to memory
    checked. -/
def trimSlice? (source : SharedString) (start stop : Nat) : Option SharedString := do
  let ptr ← Loop.run (trimPrefixRound source stop) (stop - start + 1) start
  let ptrEnd ← Loop.run (trimSuffixRound source ptr) (stop - ptr + 1) stop
  source.slice? ptr ptrEnd

variable {source : SharedString}

theorem trimPrefix_spec {start stop : Nat} (hstart : start ≤ stop) (hstop : stop ≤ source.length) :
    ∃ ptr, Loop.run (trimPrefixRound source stop) (stop - start + 1) start = some ptr ∧ ptr ≤ stop ∧
      ((source.drop start).take (stop - start)).dropWhile isTrimmed = (source.drop ptr).take (stop - ptr) := by
  refine Loop.run_spec
    (fun ptr => ptr ≤ stop ∧ ((source.drop start).take (stop - start)).dropWhile isTrimmed =
      ((source.drop ptr).take (stop - ptr)).dropWhile isTrimmed)
    (fun ptr => stop - ptr) ?_ ⟨hstart, rfl⟩ (Nat.lt_succ_self _)
  rintro ptr ⟨hle, hsame⟩
  unfold trimPrefixRound
  by_cases hend : ptr < stop
  · obtain ⟨c, hc⟩ : ∃ c, source[ptr]? = some c := ⟨_, List.getElem?_eq_getElem (by omega)⟩
    rw [List.drop_eq_cons hc, show stop - ptr = stop - (ptr + 1) + 1 by omega, List.take_succ_cons,
      List.dropWhile_cons] at hsame
    rw [if_pos hend, hc]
    by_cases hspace : isTrimmed c
    · rw [if_pos hspace] at hsame
      exact .inr ⟨ptr + 1, by simp [hspace], ⟨hend, hsame⟩, by omega⟩
    · rw [if_neg hspace] at hsame
      refine .inl ⟨ptr, by simp [hspace], hle, ?_⟩
      rw [hsame, List.drop_eq_cons hc, show stop - ptr = stop - (ptr + 1) + 1 by omega, List.take_succ_cons]
  · refine .inl ⟨ptr, if_neg hend, hle, ?_⟩
    rw [hsame, show stop - ptr = 0 by omega]
    rfl

theorem trimSuffix_spec {ptr stop : Nat} (hptr : ptr ≤ stop) (hstop : stop ≤ source.length) :
    ∃ ptrEnd, Loop.run (trimSuffixRound source ptr) (stop - ptr + 1) stop = some ptrEnd ∧ ptr ≤ ptrEnd ∧
      ptrEnd ≤ source.length ∧
      (((source.drop ptr).take (stop - ptr)).reverse.dropWhile isTrimmed).reverse =
        (source.drop ptr).take (ptrEnd - ptr) := by
  refine Loop.run_spec
    (fun ptrEnd => ptr ≤ ptrEnd ∧ ptrEnd ≤ source.length ∧
      (((source.drop ptr).take (stop - ptr)).reverse.dropWhile isTrimmed).reverse =
        (((source.drop ptr).take (ptrEnd - ptr)).reverse.dropWhile isTrimmed).reverse)
    (fun ptrEnd => ptrEnd - ptr) ?_ ⟨hptr, hstop, rfl⟩ (Nat.lt_succ_self _)
  rintro ptrEnd ⟨hle, hinside, hsame⟩
  unfold trimSuffixRound
  by_cases hend : ptr < ptrEnd
  · obtain ⟨last, rfl⟩ : ∃ last, ptrEnd = last + 1 := ⟨ptrEnd - 1, by omega⟩
    obtain ⟨c, hc⟩ : ∃ c, source[last]? = some c := ⟨_, List.getElem?_eq_getElem (by omega)⟩
    rw [List.take_drop_concat hc (by omega), List.reverse_append, List.reverse_singleton, List.singleton_append,
      List.dropWhile_cons] at hsame
    rw [if_pos hend, Nat.add_sub_cancel, hc]
    by_cases hspace : isTrimmed c
    · rw [if_pos hspace] at hsame
      exact .inr ⟨last, by simp [hspace], ⟨by omega, by omega, hsame⟩, by omega⟩
    · rw [if_neg hspace, List.reverse_cons, List.reverse_reverse, ← List.take_drop_concat hc (by omega)] at hsame
      exact .inl ⟨last + 1, by simp [hspace], hle, hinside, hsame⟩
  · refine .inl ⟨ptrEnd, if_neg hend, hle, hinside, ?_⟩
    rw [hsame, show ptrEnd - ptr = 0 by omega]
    rfl

/-- Trimming a slice touches nothing but the slice. -/
theorem trimSlice?_eq {start stop : Nat} (hstart : start ≤ stop) (hstop : stop ≤ source.length) :
    trimSlice? source start stop = some (trimString ((source.drop start).take (stop - start))) := by
  obtain ⟨ptr, hprefix, hptr, hfront⟩ := trimPrefix_spec hstart hstop
  obtain ⟨ptrEnd, hsuffix, hle, hinside, hback⟩ := trimSuffix_spec hptr hstop
  simp only [trimSlice?, hprefix, hsuffix, Option.bind_eq_bind, Option.bind_some]
  rw [List.slice?_eq hle hinside, ← hback, ← hfront]
  rfl

end Trim

namespace HttpRequestCookies

/-- What `=` or `;` does to the cookies and the key with the text in front of it. -/
def parseStep (state : HttpRequestCookies × SharedString) (c : UInt8) (part : SharedString) :
    HttpRequestCookies × SharedString :=
  if c = byte '=' then (state.1, part) else (state.1.assign state.2 part, [])

def isDelimiter (c : UInt8) : Bool := c == byte '=' || c == byte ';'

theorem isDelimiter_iff {c : UInt8} : isDelimiter c ↔ c = byte '=' ∨ c = byte ';' := by
  rw [isDelimiter, Bool.or_eq_true, beq_iff_eq, beq_iff_eq]

/-- Parse the value from Cookie header, with every access to memory checked. -/
def parseInto? (cookies : HttpRequestCookies) (source : SharedString) : Option HttpRequestCookies := do
  let scanner ← Loop.run (MarkScanner.round isDelimiter parseStep source (trimSlice? source)) (source.length + 1)
    { state := (cookies, []) }
  if scanner.mark < scanner.ptr then
    let value ← trimSlice? source scanner.mark scanner.ptr
    return scanner.state.1.assign scanner.state.2 value
  else return scanner.state.1

theorem read_eq (cookies : HttpRequestCookies) (key pending source : SharedString) :
    cookies.parseLoop pending key source =
      match MarkScanner.read isDelimiter parseStep trimString (cookies, key) pending source with
      | ((cookies, _), []) => cookies
      | ((cookies, key), pending) => cookies.assign key (trimString pending) := by
  induction source generalizing cookies key pending with
  | nil => cases pending <;> rfl
  | cons c rest ih =>
    rw [parseLoop, MarkScanner.read]
    by_cases hkey : c = byte '='
    · rw [if_pos hkey, ih, if_pos (isDelimiter_iff.mpr (.inl hkey)), parseStep, if_pos hkey]
    · by_cases hvalue : c = byte ';'
      · rw [if_neg hkey, if_pos hvalue, ih, if_pos (isDelimiter_iff.mpr (.inr hvalue)), parseStep, if_neg hkey]
      · rw [if_neg hkey, if_neg hvalue, ih, if_neg fun h => (isDelimiter_iff.mp h).elim hkey hvalue]

/-- No access of `HttpRequestCookies::parse` to memory is outside of the header. -/
theorem parseInto?_eq (cookies : HttpRequestCookies) (source : SharedString) :
    cookies.parseInto? source = some (cookies.parseInto source) := by
  obtain ⟨final, hrun, hmark, hptr, hread⟩ := MarkScanner.run_round isDelimiter parseStep trimString
    (fun _ _ hstart hstop => trimSlice?_eq hstart hstop) (cookies, [])
  rw [parseInto?, hrun, parseInto, read_eq, ← hread]
  simp only [Option.bind_eq_bind, Option.bind_some]
  by_cases hpending : final.mark < final.ptr
  · obtain ⟨c, rest, hrest⟩ : ∃ c rest, (source.drop final.mark).take (final.ptr - final.mark) = c :: rest := by
      refine List.exists_cons_of_length_pos ?_
      rw [List.length_take, List.length_drop]
      omega
    rw [if_pos hpending, trimSlice?_eq hmark (Nat.le_of_eq hptr), hrest]
    rfl
  · rw [if_neg hpending, show final.ptr - final.mark = 0 by omega]
    rfl

end HttpRequestCookies

namespace HttpForm

/-- What `=` or `&` does to the form and the key with the text in front of it. -/
def parseStep (state : HttpForm × SharedString) (c : UInt8) (part : SharedString) : HttpForm × SharedString :=
  if c = byte '=' then (state.1, part) else (state.1.add state.2 part, state.1.keyLeft state.2)

def isDelimiter (c : UInt8) : Bool := c == byte '=' || c == byte '&'

theorem isDelimiter_iff {c : UInt8} : isDelimiter c ↔ c = byte '=' ∨ c = byte '&' := by
  rw [isDelimiter, Bool.or_eq_true, beq_iff_eq, beq_iff_eq]

/-- Parse url encoded form body, with every access to memory checked. -/
def parseUrlEncoded? (form : HttpForm) (body : SharedString) : Option HttpForm := do
  let scanner ← Loop.run (MarkScanner.round isDelimiter parseStep body (UriParser.slice? body)) (body.length + 1)
    { state := (form, []) }
  if scanner.mark < scanner.ptr ∨ scanner.state.2 ≠ [] then
    let value ← UriParser.slice? body scanner.mark scanner.ptr
    return scanner.state.1.add scanner.state.2 value
  else return scanner.state.1

theorem read_eq (form : HttpForm) (formKey pending body : SharedString) :
    form.parseLoop pending formKey body =
      let ((form, formKey), pending) := MarkScanner.read isDelimiter parseStep urlDecode (form, formKey) pending body
      if pending ≠ [] ∨ formKey ≠ [] then form.add formKey (urlDecode pending) else form := by
  induction body generalizing form formKey pending with
  | nil => rfl
  | cons c rest ih =>
    rw [parseLoop, MarkScanner.read]
    by_cases hkey : c = byte '='
    · rw [if_pos hkey, ih, if_pos (isDelimiter_iff.mpr (.inl hkey)), parseStep, if_pos hkey]
    · by_cases hvalue : c = byte '&'
      · rw [if_neg hkey, if_pos hvalue, ih, if_pos (isDelimiter_iff.mpr (.inr hvalue)), parseStep, if_neg hkey]
      · rw [if_neg hkey, if_neg hvalue, ih, if_neg fun h => (isDelimiter_iff.mp h).elim hkey hvalue]

/-- No access of `HttpForm::parseUrlEncoded` to memory is outside of the body. -/
theorem parseUrlEncoded?_eq (form : HttpForm) (body : SharedString) :
    form.parseUrlEncoded? body = some (form.parseUrlEncoded body) := by
  obtain ⟨final, hrun, hmark, hptr, hread⟩ := MarkScanner.run_round isDelimiter parseStep urlDecode
    (fun _ _ hstart hstop => UriParser.slice?_eq hstart hstop) (form, [])
  rw [parseUrlEncoded?, hrun, parseUrlEncoded, read_eq, ← hread]
  simp only [Option.bind_eq_bind, Option.bind_some]
  have hpending : (body.drop final.mark).take (final.ptr - final.mark) ≠ [] ↔ final.mark < final.ptr := by
    rw [← List.length_pos_iff, List.length_take, List.length_drop]
    omega
  simp only [hpending, UriParser.slice?_eq hmark (Nat.le_of_eq hptr)]
  exact (apply_ite some _ _ _).symm

end HttpForm

/-- The scanners of a request stay inside of their text, with every part they take of it, and `urlDecode` is never
    ahead of what it reads with what it writes. -/
theorem scanners_stayInside (s : SharedString) :
    (∀ uri : Uri, uri.parseInto? s = some (uri.parseInto s)) ∧
      (∀ cookies : HttpRequestCookies, cookies.parseInto? s = some (cookies.parseInto s)) ∧
      (∀ form : HttpForm, form.parseUrlEncoded? s = some (form.parseUrlEncoded s)) ∧
      UrlDecoder.decode s = some (urlDecode s) ∧
      ∀ decoder, Loop.Reached (UrlDecoder.decodeRound s) {} decoder →
        decoder.dst.written.length ≤ min decoder.src s.length ∧ (UrlDecoder.decodeRound s decoder).isSome :=
  ⟨fun uri => uri.parseInto?_eq s, fun cookies => cookies.parseInto?_eq s, fun form => form.parseUrlEncoded?_eq s,
    UrlDecoder.decode_eq s, fun _ => UrlDecoder.reached_spec⟩

end cpv
