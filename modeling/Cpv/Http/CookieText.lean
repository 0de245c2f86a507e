import Cpv.Http.Request
import Cpv.Utility.KeyValueText

namespace cpv

/-- A character of the name of a cookie: visible ASCII, and no separator. -/
def isTokenChar (c : UInt8) : Bool := 0x20 < c && c < 0x7f && !(text "()<>@,;:\\\"/[]?=\x7b\x7d").contains c

/-- A character of the value of a cookie: visible ASCII, but no quote, comma, semicolon or backslash. -/
def isCookieOctet (c : UInt8) : Bool := 0x20 < c && c < 0x7f && !(text "\",;\\").contains c

/-- A name and a value as a client may send them. -/
structure CookiePair where
  name : SharedString
  value : SharedString
  name_ne_nil : name ≠ []
  name_token : ∀ c ∈ name, isTokenChar c
  value_octets : ∀ c ∈ value, isCookieOctet c

/-- The text of a pair, without spaces around it. -/
def CookiePair.text (pair : CookiePair) : SharedString := pair.name ++ byte '=' :: pair.value

/-- A pair between two semicolons, with the spaces around it. -/
structure CookieSegment extends CookiePair where
  spacesBefore : Nat := 0
  spacesAfter : Nat := 0

/-- The text between two semicolons -/
def CookieSegment.text (segment : CookieSegment) : SharedString :=
  List.replicate segment.spacesBefore (byte ' ') ++ segment.toCookiePair.text ++
    List.replicate segment.spacesAfter (byte ' ')

/-- A Cookie header -/
def cookieText (segments : List CookieSegment) : SharedString := [byte ';'].intercalate (segments.map CookieSegment.text)

/-- What a key and a value are put into the cookies as: a value without a key becomes the key. -/
def cookieEntry (key value : SharedString) : Option (SharedString × SharedString) :=
  if key ≠ [] then some (key, value) else if value ≠ [] then some (value, []) else none

/-- How a pair is read: the key is the text between the last two '=', the value the text after the last one. Where the
    header ends right after a '=', nothing is read. -/
def CookieSegment.reading (isLast : Bool) (segment : CookieSegment) : Reading SharedString SharedString where
  own := (segment.name, segment.value)
  taken :=
    if isLast ∧ valueText segment.toCookiePair.text = [] ∧ segment.spacesAfter = 0 then none
    else cookieEntry ((keyText segment.toCookiePair.text).getD []) (valueText segment.toCookiePair.text)

/-- How the pairs of a header are read, from left to right. -/
def cookieReadings : List CookieSegment → List (Reading SharedString SharedString)
  | [] => []
  | segment :: rest => segment.reading rest.isEmpty :: cookieReadings rest

theorem map_own_cookieReadings (segments : List CookieSegment) :
    (cookieReadings segments).map Reading.own = segments.map fun segment => (segment.name, segment.value) := by
  induction segments with
  | nil => rfl
  | cons segment rest ih => rw [cookieReadings, List.map_cons, ih]; rfl

namespace CookiePair

variable (pair : CookiePair)

theorem name_free {c : UInt8} (hc : c ∈ pair.name) : c ≠ byte '=' ∧ c ≠ byte ';' ∧ ¬ isTrimmed c :=
  forall_byte (P := fun c => isTokenChar c → c ≠ byte '=' ∧ c ≠ byte ';' ∧ ¬ isTrimmed c)
    (by decide +kernel) c (pair.name_token c hc)

theorem value_free {c : UInt8} (hc : c ∈ pair.value) : c ≠ byte ';' ∧ ¬ isTrimmed c :=
  forall_byte (P := fun c => isCookieOctet c → c ≠ byte ';' ∧ ¬ isTrimmed c)
    (by decide +kernel) c (pair.value_octets c hc)

theorem not_mem_name : byte '=' ∉ pair.name := fun hmem => (pair.name_free hmem).1 rfl

/-- The text of a pair is split at the '=' behind the name and at those in the value. -/
theorem splitOn_text : pair.text.splitOn (byte '=') = pair.name :: pair.value.splitOn (byte '=') :=
  List.splitOn_append_cons_self_of_not_mem pair.not_mem_name _

theorem mem_text {c : UInt8} (hc : c ∈ pair.text) : c ≠ byte ';' ∧ ¬ isTrimmed c := by
  rcases List.mem_append.mp hc with hname | hvalue
  · exact (pair.name_free hname).2
  · rcases List.mem_cons.mp hvalue with rfl | hvalue
    · decide
    · exact pair.value_free hvalue

end CookiePair

namespace CookieSegment

variable (segment : CookieSegment)

/-- The spaces around a pair are removed from its first and from its last part. -/
theorem text_parts :
    valueText segment.text =
        valueText segment.toCookiePair.text ++ List.replicate segment.spacesAfter (byte ' ') ∧
      trimString (valueText segment.text) = valueText segment.toCookiePair.text ∧
      (keyText segment.text).map trimString = keyText segment.toCookiePair.text := by
  obtain ⟨init, last, hvalue⟩ := (List.eq_nil_or_concat (segment.value.splitOn (byte '='))).resolve_left
    (List.splitOn_ne_nil _ _)
  rw [List.concat_eq_append] at hvalue
  have hclean : ∀ part ∈ init ++ [last], ∀ c ∈ part, ¬ isTrimmed c := fun part hpart c hc =>
    (segment.value_free (List.mem_of_mem_splitOn (hvalue ▸ hpart) hc)).2
  have hspaces : ∀ count, byte '=' ∉ List.replicate count (byte ' ') := fun count hmem =>
    absurd (List.eq_of_mem_replicate hmem) (by decide)
  have htext : segment.text = (List.replicate segment.spacesBefore (byte ' ') ++ segment.name) ++
      byte '=' :: (segment.value ++ List.replicate segment.spacesAfter (byte ' ')) := by
    simp only [text, CookiePair.text, List.append_assoc, List.cons_append]
  have hsplit : segment.text.splitOn (byte '=') = (List.replicate segment.spacesBefore (byte ' ') ++ segment.name) ::
      (init ++ [last ++ List.replicate segment.spacesAfter (byte ' ')]) := by
    rw [htext, List.splitOn_append_cons_self_of_not_mem, List.splitOn_append_of_not_mem hvalue (hspaces _)]
    exact fun hmem => (List.mem_append.mp hmem).elim (hspaces _) segment.not_mem_name
  have hlast := trimString_spaces (hclean last (by simp)) 0 segment.spacesAfter
  have hname := trimString_spaces (fun c hc => (segment.name_free hc).2.2) segment.spacesBefore 0
  rw [List.replicate_zero, List.nil_append] at hlast
  rw [List.replicate_zero, List.append_nil] at hname
  simp only [valueText, keyText]
  rw [hsplit, segment.splitOn_text, hvalue, ← List.cons_append, ← List.cons_append, List.getLastD_concat,
    List.getLastD_concat, List.dropLast_concat, List.dropLast_concat]
  refine ⟨rfl, hlast, ?_⟩
  rcases List.eq_nil_or_concat init with rfl | ⟨parts, part, rfl⟩
  · exact congrArg some hname
  · have hpart := trimString_spaces (hclean part (by simp)) 0 0
    rw [List.replicate_zero, List.nil_append, List.append_nil] at hpart
    rw [List.concat_eq_append, ← List.cons_append, ← List.cons_append, List.getLast?_concat, List.getLast?_concat,
      Option.map_some, hpart]

/-- A value without '=' is read as it is meant, unless it is empty at the very end of the header. -/
theorem taken_reading_of_plain (hplain : byte '=' ∉ segment.value) {isLast : Bool}
    (hnonempty : isLast → segment.value ≠ [] ∨ segment.spacesAfter ≠ 0) :
    (segment.reading isLast).taken = some (segment.reading isLast).own := by
  have hvalue : valueText segment.toCookiePair.text = segment.value := by
    rw [valueText, segment.splitOn_text, List.splitOn_eq_singleton hplain]
    rfl
  have hkey : keyText segment.toCookiePair.text = some segment.name := by
    rw [keyText, segment.splitOn_text, List.splitOn_eq_singleton hplain]
    rfl
  simp only [reading, hvalue, hkey, Option.getD_some, cookieEntry]
  rw [if_pos segment.name_ne_nil, if_neg]
  rintro ⟨hlast, hempty, hspaces⟩
  exact (hnonempty hlast).elim (absurd hempty) (absurd hspaces)

theorem not_mem_text : byte ';' ∉ segment.text := by
  intro hmem
  have hspaces : ∀ count, byte ';' ∉ List.replicate count (byte ' ') := fun count hmem =>
    absurd (List.eq_of_mem_replicate hmem) (by decide)
  rcases List.mem_append.mp hmem with hmem | hmem
  · rcases List.mem_append.mp hmem with hmem | hmem
    · exact hspaces _ hmem
    · exact (segment.mem_text hmem).1 rfl
  · exact hspaces _ hmem

end CookieSegment

namespace HttpRequestCookies

variable (cookies : HttpRequestCookies)

theorem assign_eq (key value : SharedString) : cookies.assign key value = assignAll cookies (cookieEntry key value).toList := by
  unfold assign cookieEntry
  split
  · rfl
  · split <;> rfl

/-- What the scanner has read of a text up to a semicolon. -/
theorem parseLoop_segment {segment : SharedString} (hsegment : byte ';' ∉ segment) (rest : SharedString) :
    cookies.parseLoop [] [] (segment ++ rest) =
      cookies.parseLoop (valueText segment) (((keyText segment).map trimString).getD []) rest := by
  induction segment using List.reverseRecOn generalizing rest with
  | nil => rfl
  | append_singleton segment c ih =>
    obtain ⟨hsegment, hc⟩ := not_or.mp (mt List.mem_append.mpr hsegment)
    rw [List.append_assoc, ih hsegment, List.singleton_append, parseLoop]
    by_cases hequals : c = byte '='
    · rw [if_pos hequals, hequals, valueText_concat_equals, keyText_concat_equals]
      rfl
    · obtain ⟨hvalue, hkey⟩ := @concat_ne_equals segment c hequals
      rw [if_neg hequals, if_neg fun h => hc (by rw [h]; exact .head _), hvalue, hkey]

/-- A header assigns the pairs as they are read, from left to right. -/
theorem parseInto_cookieText (segments : List CookieSegment) :
    cookies.parseInto (cookieText segments) =
      assignAll cookies ((cookieReadings segments).filterMap Reading.taken) := by
  rw [parseInto]
  induction segments generalizing cookies with
  | nil => rfl
  | cons segment rest ih =>
    obtain ⟨hpending, hvalue, hkey⟩ := segment.text_parts
    have hassign : cookies.assign (((keyText segment.text).map trimString).getD [])
        (trimString (valueText segment.text)) = assignAll cookies (cookieEntry
          ((keyText segment.toCookiePair.text).getD []) (valueText segment.toCookiePair.text)).toList := by
      rw [hkey, hvalue, assign_eq]
    rw [cookieReadings, assignAll_filterMap_cons]
    cases rest with
    | nil =>
      have htext : cookieText [segment] = segment.text ++ [] := by
        rw [cookieText, List.map_singleton, List.intercalate_singleton, List.append_nil]
      have hempty : valueText segment.text = [] ↔
          valueText segment.toCookiePair.text = [] ∧ segment.spacesAfter = 0 := by
        rw [hpending, List.append_eq_nil_iff, List.replicate_eq_nil_iff]
      rw [htext, parseLoop_segment cookies segment.not_mem_text, parseLoop, hassign]
      simp only [CookieSegment.reading, List.isEmpty_nil, true_and, ← hempty]
      by_cases hnil : valueText segment.text = []
      · rw [if_neg (not_not_intro hnil), if_pos hnil]
        rfl
      · rw [if_pos hnil, if_neg hnil]
        rfl
    | cons next rest =>
      have htext : cookieText (segment :: next :: rest) = segment.text ++ byte ';' :: cookieText (next :: rest) := by
        rw [cookieText, List.map_cons, List.map_cons, List.intercalate_cons_cons]
        simp [cookieText]
      rw [htext, parseLoop_segment cookies segment.not_mem_text, parseLoop, if_neg (by decide), if_pos rfl, hassign, ih]
      simp [CookieSegment.reading]

end HttpRequestCookies

/-- A Cookie header gives each name the value of its last occurrence, and nothing else, exactly where for every key the
    last pair that is meant for it or read under it leaves it so. -/
theorem parse_cookieText_iff (segments : List CookieSegment) :
    (∀ key, (HttpRequestCookies.parseInto ∅ (cookieText segments)).lookup key =
        lastValue (segments.map fun segment => (segment.name, segment.value)) key) ↔
      ∀ key, SettledFor (cookieReadings segments) key := by
  refine forall_congr' fun key => ?_
  rw [HttpRequestCookies.parseInto_cookieText, lookup_assignAll, AList.lookup_empty, Option.or_none,
    ← map_own_cookieReadings]
  exact lastValue_filterMap_taken_eq_iff _ key

/-- A header whose values are without '=' leaves every key as it is meant. -/
theorem settledFor_of_plain {segments : List CookieSegment} (hplain : ∀ segment ∈ segments, byte '=' ∉ segment.value)
    (hlast : ∀ segment ∈ segments.getLast?, segment.value ≠ [] ∨ segment.spacesAfter ≠ 0) (key : SharedString) :
    SettledFor (cookieReadings segments) key := by
  have hright : ∀ reading ∈ cookieReadings segments, reading.taken = some reading.own := by
    induction segments with
    | nil => exact fun reading hmem => absurd hmem List.not_mem_nil
    | cons segment rest ih =>
      have hrest : ∀ other ∈ rest.getLast?, other.value ≠ [] ∨ other.spacesAfter ≠ 0 := fun other hother =>
        hlast other (by rw [List.getLast?_cons, Option.mem_def.mp hother]; rfl)
      intro reading hmem
      rcases List.mem_cons.mp hmem with rfl | hmem
      · refine segment.taken_reading_of_plain (hplain segment (.head _)) fun hend => hlast segment ?_
        rw [List.isEmpty_iff.mp hend]
        rfl
      · exact ih (fun other hother => hplain other (.tail _ hother)) hrest reading hmem
  intro before reading after heq _ hwrong
  exact absurd (hright reading (by rw [heq]; simp)) hwrong

/-- The cookie "a" with the value "Zg==" -/
def paddedCookie : CookieSegment where
  name := text "a"
  value := text "Zg=="
  name_ne_nil := by decide
  name_token := by decide +kernel
  value_octets := by decide +kernel

/-- The padding of a value in base64 loses the cookie. -/
theorem not_parse_cookieText_padded :
    ¬ ∀ key, (HttpRequestCookies.parseInto ∅ (cookieText [paddedCookie])).lookup key =
      lastValue ([paddedCookie].map fun segment => (segment.name, segment.value)) key := by
  intro hparse
  exact absurd (hparse (text "a")) (by decide +kernel)

end cpv
