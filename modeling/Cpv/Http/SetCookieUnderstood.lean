import Cpv.Http.SetCookie

namespace cpv

open ClientCookie

section fields

/-- A text without a line break -/
def OneLine (str : SharedString) : Prop := ∀ c ∈ str, c ≠ byte '\r' ∧ c ≠ byte '\n'

theorem OneLine.not_mem {str : SharedString} (hstr : OneLine str) : byte '\n' ∉ str := fun hmem => (hstr _ hmem).2 rfl

theorem headerField_concat (line : SharedString) : headerField (line ++ [byte '\r']) = headerField line := by
  rw [headerField, headerField, List.rdropWhile_concat_pos (· == byte '\r') line (byte '\r') (by decide)]

theorem oneLine_line {name value : SharedString} (hname : OneLine name) (hvalue : OneLine value) :
    OneLine (name ++ constants.ColonSpace ++ value) :=
  List.forall_mem_append.mpr ⟨List.forall_mem_append.mpr ⟨hname, by decide +kernel⟩, hvalue⟩

theorem headerField_line {name value : SharedString} (hcolon : byte ':' ∉ name) (hname : OneLine name)
    (hvalue : OneLine value) : headerField (name ++ constants.ColonSpace ++ value) = some (name, strip value) := by
  have hchomp : (name ++ constants.ColonSpace ++ value).rdropWhile (· == byte '\r') = name ++ constants.ColonSpace ++ value :=
    List.rdropWhile_eq_self_iff.mpr fun hne =>
      mt beq_iff_eq.mp (oneLine_line hname hvalue _ (List.getLast_mem hne)).1
  have hline : name ++ constants.ColonSpace ++ value = name ++ byte ':' :: (byte ' ' :: value) := by
    rw [List.append_assoc]
    rfl
  have hspace : strip (byte ' ' :: value) = strip value := by
    rw [strip, List.dropWhile_cons_of_pos (by decide), strip]
  rw [headerField, hchomp, hline, splitFirst_append hcolon, Option.map_some, hspace]

/-- The fields of a header block are those that were written. -/
theorem filterMap_headerField {pairs : List (SharedString × SharedString)}
    (hpairs : ∀ pair ∈ pairs, byte ':' ∉ pair.1 ∧ OneLine pair.1 ∧ OneLine pair.2) {before : SharedString}
    (hbefore : byte '\n' ∉ before) :
    ((before ++ pairs.flatMap pairLine).splitOn (byte '\n')).filterMap headerField =
      (headerField before).toList ++ pairs.map fun pair => (pair.1, strip pair.2) := by
  induction pairs generalizing before with
  | nil =>
    rw [List.flatMap_nil, List.append_nil, List.splitOn_eq_singleton hbefore]
    cases hfield : headerField before <;> simp [hfield]
  | cons pair pairs ih =>
    obtain ⟨hcolon, hname, hvalue⟩ := hpairs pair List.mem_cons_self
    have hbreak : before ++ (pair :: pairs).flatMap pairLine = (before ++ [byte '\r']) ++ byte '\n' ::
        ((pair.1 ++ constants.ColonSpace ++ pair.2) ++ pairs.flatMap pairLine) := by
      simp [pairLine, constants.CRLF]
    have hfirst : byte '\n' ∉ before ++ [byte '\r'] := by simpa using hbefore
    rw [hbreak, List.splitOn_append_cons_self_of_not_mem hfirst, List.filterMap_cons, headerField_concat,
      ih (fun other hother => hpairs other (List.mem_cons_of_mem _ hother)) (oneLine_line hname hvalue).not_mem,
      headerField_line hcolon hname hvalue]
    cases headerField before <;> rfl

end fields

section understood

/-- All headers of a response as they are written -/
def headerBlock (response : HttpResponse) : SharedString := (response.headers.appendToHttp1Packet []).flatten

/-- Calls of `setCookie` on a response, one after another -/
def setCookies (response : HttpResponse) (calls : List SetCookieCall) : HttpResponse :=
  calls.foldl (fun response call => call.apply response) response

/-- The fields of a name that calls add to the header block are one for each call, in order, and the client understands
    each as the cookie of its call. -/
def Understood (name : SharedString) (response : HttpResponse) (calls : List SetCookieCall) : Prop :=
  ∃ added, headerBlock (setCookies response calls) = headerBlock response ++ added ∧
    (fieldsNamed name added).map parse = calls.map fun call => some call.cookie

/-- What calls add to the header block -/
def cookieLines (calls : List SetCookieCall) : SharedString :=
  (calls.map fun call => (constants.SetCookie, call.fieldText)).flatMap pairLine

theorem headerBlock_addAdditionHeader (response : HttpResponse) (key value : SharedString) :
    headerBlock { response with headers := response.headers.addAdditionHeader key value } =
      headerBlock response ++ pairLine (key, value) := by
  have hforeach : (response.headers.addAdditionHeader key value).foreach = response.headers.foreach ++ [(key, value)] := by
    rw [HttpResponseHeaders.foreach_eq, HttpResponseHeaders.foreach_eq, List.append_assoc]
    rfl
  show ((response.headers.addAdditionHeader key value).appendToHttp1Packet []).flatten =
    (response.headers.appendToHttp1Packet []).flatten ++ pairLine (key, value)
  rw [HttpResponseHeaders.flatten_appendToHttp1Packet, HttpResponseHeaders.flatten_appendToHttp1Packet, hforeach,
    List.flatMap_append, List.flatMap_singleton, List.append_assoc]

theorem headerBlock_setCookies (response : HttpResponse) (calls : List SetCookieCall) :
    headerBlock (setCookies response calls) = headerBlock response ++ cookieLines calls := by
  induction calls generalizing response with
  | nil => exact (List.append_nil _).symm
  | cons call calls ih =>
    have hcall : headerBlock (call.apply response) = headerBlock response ++ pairLine (constants.SetCookie, call.fieldText) := by
      rw [← headerBlock_addAdditionHeader, ← call.apply_headers]
      rfl
    show headerBlock (setCookies (call.apply response) calls) = _
    rw [ih, hcall, List.append_assoc]
    rfl

theorem understood_iff {name : SharedString} {response : HttpResponse} {calls : List SetCookieCall} :
    Understood name response calls ↔
      (fieldsNamed name (cookieLines calls)).map parse = calls.map fun call => some call.cookie := by
  rw [Understood, headerBlock_setCookies]
  constructor
  · rintro ⟨added, hadded, hparse⟩
    rwa [List.append_cancel_left hadded]
  · exact fun hparse => ⟨_, rfl, hparse⟩

/-- Whatever a client reads, it understands dates of these years only. -/
theorem inYears_of_parse {str : SharedString} {cookie : ClientCookie} (hparse : parse str = some cookie) {time : Int}
    (htime : .expires time ∈ cookie.attributes) : InYears time := by
  unfold parse at hparse
  simp only [Option.bind_eq_bind, Option.bind_eq_some_iff] at hparse
  obtain ⟨⟨name, value⟩, -, hparse⟩ := hparse
  dsimp only at hparse
  split at hparse
  · cases hparse
  obtain rfl := Option.some.inj hparse
  obtain ⟨av, -, hav⟩ := List.mem_filterMap.mp htime
  unfold parseAttribute namedAttribute at hav
  dsimp only at hav
  split at hav
  · obtain ⟨found, hfound, heq⟩ := Option.map_eq_some_iff.mp hav
    obtain rfl : found = time := CookieAttribute.expires.inj heq
    exact inYears_of_parseDate hfound
  split at hav
  · obtain ⟨seconds, -, heq⟩ := Option.map_eq_some_iff.mp hav
    cases heq
  repeat' split at hav
  all_goals cases hav

/-- A cookie with a date of another year is not understood, whatever the buffer for times has. -/
theorem Understood.inYears {name : SharedString} {response : HttpResponse} {calls : List SetCookieCall}
    (hunderstood : Understood name response calls) : ∀ call ∈ calls, ∀ time ∈ call.expires, InYears time := by
  intro call hcall time htime
  have hmem : some call.cookie ∈ calls.map fun call => some call.cookie := List.mem_map.mpr ⟨call, hcall, rfl⟩
  rw [← understood_iff.mp hunderstood] at hmem
  obtain ⟨str, -, hparse⟩ := List.mem_map.mp hmem
  refine inYears_of_parse hparse ?_
  have hexpires : call.expires = some time := htime
  simp [SetCookieCall.cookie, hexpires]

/-- What is written has no line breaks, where all dates fit. -/
theorem SetCookieCall.oneLine_fieldText (call : SetCookieCall) (hexpires : ∀ time ∈ call.expires, InYears time) :
    OneLine call.fieldText := by
  have hav : ∀ c, isAvChar c → c ≠ byte '\r' ∧ c ≠ byte '\n' := forall_byte (by decide +kernel)
  intro c hc
  rcases List.mem_append.mp hc with hc | hc
  · exact hav c (call.isAvChar_pairText c hc)
  · obtain ⟨part, hpart, hc⟩ := List.mem_flatMap.mp hc
    rcases List.mem_cons.mp hc with rfl | hc
    · decide
    · exact hav c (call.isAvChar_attributeTexts hexpires part hpart c hc)

theorem setCookie_oneLine : byte ':' ∉ constants.SetCookie ∧ OneLine constants.SetCookie := by
  unfold OneLine
  decide +kernel

/-- Every field has the name of the constant. -/
theorem fieldsNamed_cookieLines (name : SharedString) {calls : List SetCookieCall}
    (hexpires : ∀ call ∈ calls, ∀ time ∈ call.expires, InYears time) :
    fieldsNamed name (cookieLines calls) =
      if constants.SetCookie.map toLower = name.map toLower then calls.map fun call => strip call.fieldText else [] := by
  have hpairs : ∀ pair ∈ calls.map fun call => (constants.SetCookie, call.fieldText),
      byte ':' ∉ pair.1 ∧ OneLine pair.1 ∧ OneLine pair.2 := by
    intro pair hpair
    obtain ⟨call, hcall, rfl⟩ := List.mem_map.mp hpair
    exact ⟨setCookie_oneLine.1, setCookie_oneLine.2, call.oneLine_fieldText (hexpires call hcall)⟩
  have hnothing : headerField [] = none := by decide +kernel
  have hfields := filterMap_headerField hpairs (List.not_mem_nil (a := byte '\n'))
  rw [List.nil_append, hnothing, Option.toList_none, List.nil_append, List.map_map] at hfields
  rw [fieldsNamed, cookieLines, hfields, List.filterMap_map]
  by_cases hname : constants.SetCookie.map toLower = name.map toLower
  · rw [if_pos hname]
    calc
      _ = calls.filterMap fun call => some (strip call.fieldText) := List.filterMap_congr fun call _ => if_pos hname
      _ = calls.map fun call => strip call.fieldText := congrFun List.filterMap_eq_map calls
  · rw [if_neg hname, List.filterMap_eq_nil_iff]
    exact fun call _ => if_neg hname

/-- The end of a field does not matter. -/
theorem SetCookieCall.parse_strip_fieldText (call : SetCookieCall) : parse (strip call.fieldText) = parse call.fieldText := by
  obtain ⟨c, key, hkey⟩ := List.exists_cons_of_ne_nil call.key_ne_nil
  have hhead : call.fieldText.dropWhile isWsp = call.fieldText := by
    rw [fieldText, pairText, hkey]
    exact List.dropWhile_cons_of_neg (call.key_free (hkey ▸ List.mem_cons_self)).2.2
  rw [strip, hhead, parse_rdropWhile]

/-- Clients understand calls of `setCookie` only if there are none of them: the fields are not named Set-Cookie. Under
    the name that the fields have, a client would understand exactly calls with a value, a date that fits and a path
    that it takes as it is. -/
theorem setCookie_understood_iff (response : HttpResponse) (calls : List SetCookieCall) :
    (Understood (text "Set-Cookie") response calls ↔ calls = []) ∧
      (Understood constants.SetCookie response calls ↔
        ∀ call ∈ calls, call.value ≠ [] ∧ (∀ time ∈ call.expires, InYears time) ∧ call.PathUnderstood) := by
  have hname : constants.SetCookie.map toLower ≠ (text "Set-Cookie").map toLower := by decide +kernel
  refine ⟨⟨fun hunderstood => ?_, ?_⟩, fun hunderstood call hcall => ?_, fun hcalls => ?_⟩
  · have hparse := understood_iff.mp hunderstood
    rw [fieldsNamed_cookieLines _ hunderstood.inYears, if_neg hname] at hparse
    exact List.map_eq_nil_iff.mp hparse.symm
  · rintro rfl
    exact understood_iff.mpr (by decide +kernel)
  · have hexpires := hunderstood.inYears
    have hparse := understood_iff.mp hunderstood
    rw [fieldsNamed_cookieLines _ hexpires, if_pos rfl, List.map_map, List.map_inj_left] at hparse
    have hcookie := hparse call hcall
    rw [Function.comp_apply, call.parse_strip_fieldText, call.parse_fieldText_iff (hexpires call hcall)] at hcookie
    exact ⟨hcookie.1, hexpires call hcall, hcookie.2⟩
  · refine understood_iff.mpr ?_
    rw [fieldsNamed_cookieLines _ fun call hcall => (hcalls call hcall).2.1, if_pos rfl, List.map_map, List.map_inj_left]
    intro call hcall
    obtain ⟨hvalue, hexpires, hpath⟩ := hcalls call hcall
    rw [Function.comp_apply, call.parse_strip_fieldText]
    exact (call.parse_fieldText_iff hexpires).mpr ⟨hvalue, hpath⟩

end understood

/-- A call with a name and a value, and the defaults for all other arguments -/
def keyValueCall : SetCookieCall where
  key := text "key"
  value := text "value"
  timeBuffer_length := rfl
  key_ne_nil := by decide +kernel
  key_token := by decide +kernel
  value_octets := ⟨text "value", by decide +kernel, .inl rfl⟩
  path_chars := by decide +kernel
  domain_chars := by decide +kernel
  domain_head := by decide +kernel
  sameSite_chars := by decide +kernel

theorem not_setCookie_understood_keyValue : ¬ Understood (text "Set-Cookie") {} [keyValueCall] := by
  rw [understood_iff]
  decide +kernel

end cpv
