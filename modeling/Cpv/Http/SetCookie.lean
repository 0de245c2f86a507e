import Cpv.Http.Context
import Cpv.Http.CookieDate
import Cpv.Http.CookieText
import Cpv.Http.HeaderMap

namespace cpv

/-- Add or replace cookie on client side. What the thread local buffer for times has is `timeBuffer`. -/
def setCookie (timeBuffer : SharedString) (response : HttpResponse) (key value path domain : SharedString)
    (expires : Option Int) (httpOnly secure : Bool) (sameSite : SharedString) : HttpResponse :=
  let builder := SharedStringBuilder.ofCapacity
    (key.length + value.length + path.length + domain.length + sameSite.length + HttpHeaderTimeStringSize + 57)
  let builder := builder.append key
  let builder := if value ≠ [] then (builder.append (text "=")).append value else builder
  let builder := if path ≠ [] then (builder.append (text "; Path=")).append path else builder
  let builder := if domain ≠ [] then (builder.append (text "; Domain=")).append domain else builder
  let builder := expires.elim builder fun time =>
    (builder.append (text "; Expires=")).append (viewTimeForHttpHeader time timeBuffer)
  let builder := if httpOnly then builder.append (text "; HttpOnly") else builder
  let builder := if secure then builder.append (text "; Secure") else builder
  let builder := if sameSite ≠ [] then (builder.append (text "; SameSite=")).append sameSite else builder
  { response with headers := response.headers.addAdditionHeader constants.SetCookie builder.build.1 }

/-- Remove cookie on client side -/
def removeCookie (timeBuffer : SharedString) (response : HttpResponse) (key path domain : SharedString) : HttpResponse :=
  setCookie timeBuffer response key [] path domain (some 0) false false []

/-- A character of a domain -/
def isDomainChar (c : UInt8) : Bool :=
  (byte 'a' ≤ c && c ≤ byte 'z') || (byte 'A' ≤ c && c ≤ byte 'Z') || (byte '0' ≤ c && c ≤ byte '9') || c == byte '-' ||
    c == byte '.'

/-- A call of `setCookie` whose arguments are as the grammar of cookies has them. A value may be between quotes, and an
    empty part is left out. -/
structure SetCookieCall where
  key : SharedString
  value : SharedString
  path : SharedString := text "/"
  domain : SharedString := []
  expires : Option Int := none
  httpOnly : Bool := false
  secure : Bool := false
  sameSite : SharedString := []
  timeBuffer : SharedString := List.replicate (HttpHeaderTimeStringSize + 1) 0
  timeBuffer_length : timeBuffer.length = HttpHeaderTimeStringSize + 1
  key_ne_nil : key ≠ []
  key_token : ∀ c ∈ key, isTokenChar c
  value_octets : ∃ octets, (∀ c ∈ octets, isCookieOctet c) ∧ (value = octets ∨ value = byte '"' :: octets ++ [byte '"'])
  path_chars : ∀ c ∈ path, isAvChar c
  domain_chars : ∀ c ∈ domain, isDomainChar c
  domain_head : domain.head? ≠ some (byte '.')
  sameSite_chars : ∀ c ∈ sameSite, isAvChar c

namespace SetCookieCall

variable (call : SetCookieCall)

def apply (response : HttpResponse) : HttpResponse :=
  setCookie call.timeBuffer response call.key call.value call.path call.domain call.expires call.httpOnly call.secure
    call.sameSite

/-- The cookie that the call is to set. The letter case of a domain does not matter. -/
def cookie : ClientCookie where
  name := call.key
  value := call.value
  attributes :=
    (if call.path ≠ [] then [.path (some call.path)] else []) ++
      (if call.domain ≠ [] then [.domain (call.domain.map toLower)] else []) ++
      (call.expires.map .expires).toList ++ (if call.httpOnly then [.httpOnly] else []) ++
      if call.secure then [.secure] else []

/-- The parts of the text behind semicolons -/
def attributeTexts : List SharedString :=
  (if call.path ≠ [] then [text " Path=" ++ call.path] else []) ++
    (if call.domain ≠ [] then [text " Domain=" ++ call.domain] else []) ++
    (call.expires.map fun time => text " Expires=" ++ viewTimeForHttpHeader time call.timeBuffer).toList ++
    (if call.httpOnly then [text " HttpOnly"] else []) ++ (if call.secure then [text " Secure"] else []) ++
    if call.sameSite ≠ [] then [text " SameSite=" ++ call.sameSite] else []

/-- The text of the part before the first semicolon -/
def pairText : SharedString := call.key ++ if call.value ≠ [] then byte '=' :: call.value else []

/-- What is written for the call -/
def fieldText : SharedString := call.pairText ++ call.attributeTexts.flatMap (byte ';' :: ·)

end SetCookieCall

namespace SetCookieCall

open ClientCookie

theorem eq_of_mem_ite {α : Type} {condition : Prop} [Decidable condition] {a part : α}
    (hpart : part ∈ if condition then [a] else []) : part = a := by
  split at hpart
  · exact List.mem_singleton.mp hpart
  · exact absurd hpart List.not_mem_nil

theorem flatMap_ite (condition : Prop) [Decidable condition] (str : SharedString) :
    (if condition then [str] else []).flatMap (byte ';' :: ·) = if condition then byte ';' :: str else [] := by
  split
  · exact List.flatMap_singleton ..
  · rfl

theorem fieldText_eq (call : SetCookieCall) :
    call.fieldText = call.key ++ (if call.value ≠ [] then text "=" ++ call.value else []) ++
      (if call.path ≠ [] then text "; Path=" ++ call.path else []) ++
      (if call.domain ≠ [] then text "; Domain=" ++ call.domain else []) ++
      (call.expires.map fun time => text "; Expires=" ++ viewTimeForHttpHeader time call.timeBuffer).getD [] ++
      (if call.httpOnly then text "; HttpOnly" else []) ++ (if call.secure then text "; Secure" else []) ++
      if call.sameSite ≠ [] then text "; SameSite=" ++ call.sameSite else [] := by
  unfold fieldText pairText attributeTexts
  simp only [List.flatMap_append, flatMap_ite, List.append_assoc]
  cases call.expires with
  | none => rfl
  | some time =>
    rw [Option.map_some, Option.map_some, Option.toList_some, List.flatMap_singleton]
    rfl

/-- The builder has exactly the parts that are not left out. -/
theorem apply_headers (call : SetCookieCall) (response : HttpResponse) :
    (call.apply response).headers = response.headers.addAdditionHeader constants.SetCookie call.fieldText := by
  unfold apply setCookie
  extract_lets capacity key value path domain expires httpOnly secure sameSite
  have hkey : key.Built call.key := (SharedStringBuilder.Built.ofCapacity _).append call.key
  have hvalue : value.Built _ := hkey.ite (call.value ≠ []) (hkey.append_append (text "=") call.value)
  have hpath : path.Built _ := hvalue.ite (call.path ≠ []) (hvalue.append_append (text "; Path=") call.path)
  have hdomain : domain.Built _ := hpath.ite (call.domain ≠ []) (hpath.append_append (text "; Domain=") call.domain)
  have hexpires : expires.Built _ := hdomain.option call.expires fun time =>
    hdomain.append_append (text "; Expires=") (viewTimeForHttpHeader time call.timeBuffer)
  have hhttpOnly : httpOnly.Built _ := hexpires.ite (call.httpOnly = true) (hexpires.append (text "; HttpOnly"))
  have hsecure : secure.Built _ := hhttpOnly.ite (call.secure = true) (hhttpOnly.append (text "; Secure"))
  have hsameSite : sameSite.Built _ :=
    hsecure.ite (call.sameSite ≠ []) (hsecure.append_append (text "; SameSite=") call.sameSite)
  rw [fieldText_eq]
  exact congrArg (response.headers.addAdditionHeader constants.SetCookie) hsameSite.view

section chars

variable (call : SetCookieCall)

theorem key_free {c : UInt8} (hc : c ∈ call.key) : c ≠ byte '=' ∧ isAvChar c ∧ ¬ isWsp c :=
  forall_byte (P := fun c => isTokenChar c → c ≠ byte '=' ∧ isAvChar c ∧ ¬ isWsp c) (by decide +kernel) c
    (call.key_token c hc)

theorem value_free {c : UInt8} (hc : c ∈ call.value) : isAvChar c ∧ ¬ isWsp c := by
  obtain ⟨octets, hoctets, hvalue⟩ := call.value_octets
  have hoctet {c : UInt8} (hc : c ∈ octets) : isAvChar c ∧ ¬ isWsp c :=
    forall_byte (P := fun c => isCookieOctet c → isAvChar c ∧ ¬ isWsp c) (by decide +kernel) c (hoctets c hc)
  have hquote : isAvChar (byte '"') ∧ ¬ isWsp (byte '"') := by decide
  rcases hvalue with hvalue | hvalue
  · exact hoctet (hvalue ▸ hc)
  · rw [hvalue, List.cons_append, List.mem_cons, List.mem_append, List.mem_singleton] at hc
    rcases hc with rfl | hc | rfl
    · exact hquote
    · exact hoctet hc
    · exact hquote

theorem domain_free {c : UInt8} (hc : c ∈ call.domain) : isAvChar c ∧ ¬ isWsp c :=
  forall_byte (P := fun c => isDomainChar c → isAvChar c ∧ ¬ isWsp c) (by decide +kernel) c
    (call.domain_chars c hc)

theorem isAvChar_pairText : ∀ c ∈ call.pairText, isAvChar c := by
  intro c hc
  rcases List.mem_append.mp hc with hc | hc
  · exact (call.key_free hc).2.1
  · split at hc
    · rcases List.mem_cons.mp hc with rfl | hc
      · decide
      · exact (call.value_free hc).1
    · exact absurd hc List.not_mem_nil

/-- Dates that fit have no semicolon either. -/
theorem isAvChar_attributeTexts (hexpires : ∀ time ∈ call.expires, InYears time) :
    ∀ part ∈ call.attributeTexts, ∀ c ∈ part, isAvChar c := by
  have hnames : (∀ c ∈ text " Path=", isAvChar c) ∧ (∀ c ∈ text " Domain=", isAvChar c) ∧
      (∀ c ∈ text " Expires=", isAvChar c) ∧ (∀ c ∈ text " HttpOnly", isAvChar c) ∧ (∀ c ∈ text " Secure", isAvChar c) ∧
      ∀ c ∈ text " SameSite=", isAvChar c := by
    decide +kernel
  obtain ⟨hpath, hdomain, hexpiresName, hhttpOnly, hsecure, hsameSite⟩ := hnames
  intro part hpart
  simp only [attributeTexts, List.mem_append, Option.mem_toList, Option.map_eq_some_iff] at hpart
  rcases hpart with ((((hpart | hpart) | ⟨time, htime, rfl⟩) | hpart) | hpart) | hpart
  · rw [eq_of_mem_ite hpart]
    exact List.forall_mem_append.mpr ⟨hpath, call.path_chars⟩
  · rw [eq_of_mem_ite hpart]
    exact List.forall_mem_append.mpr ⟨hdomain, fun c hc => (call.domain_free hc).1⟩
  · obtain ⟨hview, hchars, -⟩ := viewTime_eq (hexpires time htime) call.timeBuffer_length
    rw [hview]
    exact List.forall_mem_append.mpr ⟨hexpiresName, hchars⟩
  · rw [eq_of_mem_ite hpart]
    exact hhttpOnly
  · rw [eq_of_mem_ite hpart]
    exact hsecure
  · rw [eq_of_mem_ite hpart]
    exact List.forall_mem_append.mpr ⟨hsameSite, call.sameSite_chars⟩

end chars

section parse

variable (call : SetCookieCall)

/-- The parts between the semicolons -/
theorem splitOn_fieldText (hexpires : ∀ time ∈ call.expires, InYears time) :
    call.fieldText.splitOn (byte ';') = call.pairText :: call.attributeTexts :=
  List.splitOn_append_flatMap_cons (fun hmem => absurd (call.isAvChar_pairText _ hmem) (by decide))
    (fun part hpart hmem => absurd (call.isAvChar_attributeTexts hexpires part hpart _ hmem) (by decide))

theorem parseAttribute_named {part name value : SharedString} (hpart : part = name ++ byte '=' :: value)
    (hname : byte '=' ∉ name) : parseAttribute part = namedAttribute ((strip name).map toLower) (strip value) := by
  rw [parseAttribute, hpart, splitFirst_append hname, Option.getD_some]

/-- A path is understood that begins with a slash and does not end with a space. -/
def PathUnderstood : Prop := call.path = [] ∨ call.path.head? = some (byte '/') ∧ strip call.path = call.path

theorem parseAttribute_path (path : SharedString) : parseAttribute (text " Path=" ++ path) =
    some (.path (if (strip path).head? = some (byte '/') then some (strip path) else none)) := by
  have hname : (strip (text " Path")).map toLower = text "path" := by decide +kernel
  rw [parseAttribute_named (show text " Path=" ++ path = text " Path" ++ byte '=' :: path from rfl) (by decide +kernel), hname]
  rw [namedAttribute, if_neg (by decide +kernel), if_neg (by decide +kernel), if_neg (by decide +kernel), if_pos rfl]

theorem parseAttribute_domain (hdomain : call.domain ≠ []) :
    parseAttribute (text " Domain=" ++ call.domain) = some (.domain (call.domain.map toLower)) := by
  have hname : (strip (text " Domain")).map toLower = text "domain" := by decide +kernel
  rw [parseAttribute_named (show text " Domain=" ++ call.domain = text " Domain" ++ byte '=' :: call.domain from rfl)
    (by decide +kernel), hname, strip_of_forall fun c hc => (call.domain_free hc).2]
  rw [namedAttribute, if_neg (by decide +kernel), if_neg (by decide +kernel), if_pos rfl, if_neg hdomain,
    if_neg call.domain_head]

theorem parseAttribute_expires {time : Int} (hyears : InYears time) :
    parseAttribute (text " Expires=" ++ viewTimeForHttpHeader time call.timeBuffer) = some (.expires time) := by
  have hname : (strip (text " Expires")).map toLower = text "expires" := by decide +kernel
  obtain ⟨hview, -, hstrip⟩ := viewTime_eq hyears call.timeBuffer_length
  rw [hview, parseAttribute_named (show text " Expires=" ++ strftimeForHttpHeader time =
    text " Expires" ++ byte '=' :: strftimeForHttpHeader time from rfl) (by decide +kernel), hname, hstrip]
  rw [namedAttribute, if_pos rfl, parseDate_strftime hyears]
  rfl

theorem parseAttribute_sameSite (sameSite : SharedString) : parseAttribute (text " SameSite=" ++ sameSite) = none := by
  have hname : (strip (text " SameSite")).map toLower = text "samesite" := by decide +kernel
  rw [parseAttribute_named (show text " SameSite=" ++ sameSite = text " SameSite" ++ byte '=' :: sameSite from rfl)
    (by decide +kernel), hname]
  rw [namedAttribute, if_neg (by decide +kernel), if_neg (by decide +kernel), if_neg (by decide +kernel),
    if_neg (by decide +kernel), if_neg (by decide +kernel), if_neg (by decide +kernel)]

theorem filterMap_ite {α β : Type} (f : α → Option β) (condition : Prop) [Decidable condition] (a : α) :
    (if condition then [a] else []).filterMap f = if condition then (f a).toList else [] := by
  split
  · cases hf : f a <;> simp [hf]
  · rfl

/-- Every attribute is understood, except for `SameSite`. -/
theorem filterMap_attributeTexts (hexpires : ∀ time ∈ call.expires, InYears time) :
    call.attributeTexts.filterMap parseAttribute =
      (if call.path ≠ [] then
          [.path (if (strip call.path).head? = some (byte '/') then some (strip call.path) else none)] else []) ++
        (if call.domain ≠ [] then [.domain (call.domain.map toLower)] else []) ++
        (call.expires.map .expires).toList ++ (if call.httpOnly then [.httpOnly] else []) ++
        if call.secure then [.secure] else [] := by
  have hflags : parseAttribute (text " HttpOnly") = some .httpOnly ∧ parseAttribute (text " Secure") = some .secure := by
    decide +kernel
  have htimes : (call.expires.map fun time => text " Expires=" ++ viewTimeForHttpHeader time call.timeBuffer).toList.filterMap
      parseAttribute = (call.expires.map .expires).toList := by
    cases htime : call.expires with
    | none => rfl
    | some time =>
      rw [Option.map_some, Option.toList_some, List.filterMap_cons, call.parseAttribute_expires (hexpires time htime)]
      rfl
  have hdomain : (if call.domain ≠ [] then [text " Domain=" ++ call.domain] else []).filterMap parseAttribute =
      if call.domain ≠ [] then [.domain (call.domain.map toLower)] else [] := by
    split
    · rename_i hne
      rw [List.filterMap_cons, call.parseAttribute_domain hne]
      rfl
    · rfl
  rw [attributeTexts]
  simp only [List.filterMap_append, hdomain, htimes, filterMap_ite, parseAttribute_path, parseAttribute_sameSite, hflags,
    Option.toList_some, Option.toList_none, ite_self, List.append_nil]

/-- The field is understood exactly when it has a value and the path is understood. -/
theorem parse_fieldText_iff (hexpires : ∀ time ∈ call.expires, InYears time) :
    parse call.fieldText = some call.cookie ↔ call.value ≠ [] ∧ call.PathUnderstood := by
  have hkey : strip call.key = call.key := strip_of_forall fun c hc => (call.key_free hc).2.2
  have hequals : byte '=' ∉ call.key := fun hmem => (call.key_free hmem).1 rfl
  rw [parse, call.splitOn_fieldText hexpires, List.headI_cons, List.tail_cons, call.filterMap_attributeTexts hexpires,
    pairText]
  by_cases hvalue : call.value = []
  · rw [if_neg (not_not_intro hvalue), List.append_nil, splitFirst_eq_none hequals]
    exact iff_of_false (by simp) fun hunderstood => hunderstood.1 hvalue
  · have hstrip : strip call.value = call.value := strip_of_forall fun c hc => (call.value_free hc).2
    rw [if_pos hvalue, splitFirst_append hequals]
    simp only [Option.bind_eq_bind, Option.bind_some, hkey, hstrip, if_neg call.key_ne_nil, cookie, Option.some.injEq,
      ClientCookie.mk.injEq, true_and, List.append_cancel_right_eq, hvalue, ne_eq, not_false_eq_true]
    by_cases hpath : call.path = []
    · simp [PathUnderstood, hpath]
    · rw [if_pos hpath, if_pos hpath, PathUnderstood, or_iff_right hpath, List.singleton_inj, CookieAttribute.path.injEq]
      constructor
      · intro hsame
        split at hsame
        · rename_i hhead
          have hstripPath := Option.some.inj hsame
          exact ⟨hstripPath ▸ hhead, hstripPath⟩
        · cases hsame
      · rintro ⟨hhead, hstripPath⟩
        rw [hstripPath, if_pos hhead]

end parse

end SetCookieCall

end cpv
