import Cpv.Core.Machine
import Cpv.Utility.StringUtils
import Cpv.Utility.Uri

namespace cpv

/-- A shared string with the place of its buffer: the address of its first
    character and the characters. -/
structure StringSlice where
  data : Nat := 0
  str : SharedString := []
  deriving DecidableEq

/-- Cookies collection for http request -/
abbrev HttpRequestCookies := StringMap SharedString

namespace HttpRequestCookies

/-- A cookie by its key and value; a cookie without '=' is a key only. -/
def assign (cookies : HttpRequestCookies) (key value : SharedString) : HttpRequestCookies :=
  if key ≠ [] then cookies.insert key value
  else if value ≠ [] then cookies.insert value []
  else cookies

/-- The loop over the Cookie header, with the text behind `mark` and the key. -/
def parseLoop (cookies : HttpRequestCookies) (pending key : SharedString) :
    SharedString → HttpRequestCookies
  | [] => if pending ≠ [] then cookies.assign key (trimString pending) else cookies
  | c :: rest =>
    if c = byte '=' then parseLoop cookies [] (trimString pending) rest
    else if c = byte ';' then parseLoop (cookies.assign key (trimString pending)) [] [] rest
    else parseLoop cookies (pending ++ [c]) key rest

/-- Parse the value from Cookie header into what is already there. -/
def parseInto (cookies : HttpRequestCookies) (source : SharedString) : HttpRequestCookies :=
  parseLoop cookies [] [] source

end HttpRequestCookies

/-- Members of HttpRequest. Of the headers the buffer of the Cookie header is
    known too. What a lazy member was parsed from is remembered as a view, of
    which only the address and the emptiness are ever looked at. -/
structure HttpRequestData where
  url : StringSlice := {}
  headers : HttpRequestHeaders := {}
  cookieData : Nat := 0
  sourceOfUri : StringSlice := {}
  uri : Uri := {}
  sourceOfCookies : StringSlice := {}
  cookies : HttpRequestCookies := ∅

namespace HttpRequestData

/-- The Cookie header -/
def cookieHeader (request : HttpRequestData) : StringSlice :=
  { data := request.cookieData, str := request.headers.cookie }

def ensureUriUpdated (request : HttpRequestData) : HttpRequestData :=
  if request.sourceOfUri.str = [] then
    { request with sourceOfUri := request.url, uri := request.uri.parseInto request.url.str }
  else if request.sourceOfUri.data ≠ request.url.data then
    -- compare pointer directly
    { request with sourceOfUri := request.url, uri := Uri.parseInto {} request.url.str }
  else request

def ensureCookiesUpdated (request : HttpRequestData) : HttpRequestData :=
  if request.sourceOfCookies.str = [] then
    { request with
      sourceOfCookies := request.cookieHeader
      cookies := request.cookies.parseInto request.cookieHeader.str }
  else if request.sourceOfCookies.data ≠ request.cookieHeader.data then
    { request with
      sourceOfCookies := request.cookieHeader
      cookies := HttpRequestCookies.parseInto ∅ request.cookieHeader.str }
  else request

/-- Set the request url -/
def setUrl (request : HttpRequestData) (url : StringSlice) : HttpRequestData := { request with url }

/-- Set request header -/
def setHeader (request : HttpRequestData) (key : SharedString) (value : StringSlice) : HttpRequestData :=
  { request with
    headers := request.headers.setHeader key value.str
    cookieData := if key = constants.Cookie then value.data else request.cookieData }

/-- Set the Cookie header -/
def setCookie (request : HttpRequestData) (value : StringSlice) : HttpRequestData :=
  { request with headers := { request.headers with cookie := value.str }, cookieData := value.data }

/-- Get the uri instance parsed from url -/
def getUri (request : HttpRequestData) : HttpRequestData × Uri :=
  (request.ensureUriUpdated, request.ensureUriUpdated.uri)

/-- Get the cookies collection parsed from Cookie header -/
def getCookies (request : HttpRequestData) : HttpRequestData × HttpRequestCookies :=
  (request.ensureCookiesUpdated, request.ensureCookiesUpdated.cookies)

end HttpRequestData

inductive HttpRequestCall
  | setUrl (url : StringSlice)
  | setHeader (key : SharedString) (value : StringSlice)
  | setCookie (value : StringSlice)
  | getUri
  | getCookies
  deriving DecidableEq

namespace HttpRequestData

/-- One call on the request. Every call is possible at any time. -/
def step (request : HttpRequestData) : HttpRequestCall → Option HttpRequestData
  | .setUrl url => some (request.setUrl url)
  | .setHeader key value => some (request.setHeader key value)
  | .setCookie value => some (request.setCookie value)
  | .getUri => some request.getUri.1
  | .getCookies => some request.getCookies.1

/-- The answer of a call is what parsing the current text gives. -/
def AnswersFresh (request : HttpRequestData) : HttpRequestCall → Prop
  | .getUri => request.getUri.2 = Uri.parse request.url.str
  | .getCookies => request.getCookies.2 = HttpRequestCookies.parseInto ∅ request.headers.cookie
  | _ => True

/-- The view remembered for the uri is empty, lies at another address than the
    current url, or had a text that parses to the same. The same for the
    cookies. -/
def PointerTells (request : HttpRequestData) : HttpRequestCall → Prop
  | .getUri =>
    request.sourceOfUri.str = [] ∨ request.sourceOfUri.data ≠ request.url.data ∨
      Uri.parse request.sourceOfUri.str = Uri.parse request.url.str
  | .getCookies =>
    request.sourceOfCookies.str = [] ∨ request.sourceOfCookies.data ≠ request.cookieHeader.data ∨
      HttpRequestCookies.parseInto ∅ request.sourceOfCookies.str =
        HttpRequestCookies.parseInto ∅ request.headers.cookie
  | _ => True

/-- The Cookie header has its own member, which no other key sets. -/
theorem cookieHeader_setHeader (request : HttpRequestData) (key : SharedString) (value : StringSlice) :
    (request.setHeader key value).cookieHeader =
      if key = constants.Cookie then value else request.cookieHeader := by
  have hcookie : (request.headers.setHeader key value.str).cookie =
      if key = constants.Cookie then value.str else request.headers.cookie :=
    HttpRequestHeaders.get_setHeader HttpRequestHeaders.FixedMembers[11] (List.getElem_mem _) _ _ _
  unfold cookieHeader
  rw [show (request.setHeader key value).headers.cookie = _ from hcookie]
  unfold setHeader
  split <;> rfl

/-- The lazy members are what the remembered views were parsed to. -/
structure LazyMembers (request : HttpRequestData) : Prop where
  uri : request.uri = Uri.parse request.sourceOfUri.str
  cookies : request.cookies = HttpRequestCookies.parseInto ∅ request.sourceOfCookies.str

theorem LazyMembers.ensureUriUpdated {request : HttpRequestData} (h : request.LazyMembers) :
    request.ensureUriUpdated.LazyMembers := by
  unfold HttpRequestData.ensureUriUpdated
  split
  · rename_i hempty
    have huri : request.uri = {} := by
      rw [h.uri, hempty]
      rfl
    exact ⟨by rw [huri]; rfl, h.cookies⟩
  · split
    · exact ⟨rfl, h.cookies⟩
    · exact h

theorem LazyMembers.ensureCookiesUpdated {request : HttpRequestData} (h : request.LazyMembers) :
    request.ensureCookiesUpdated.LazyMembers := by
  unfold HttpRequestData.ensureCookiesUpdated
  split
  · rename_i hempty
    have hcookies : request.cookies = ∅ := by
      rw [h.cookies, hempty]
      rfl
    exact ⟨h.uri, by rw [hcookies]⟩
  · split
    · exact ⟨h.uri, rfl⟩
    · exact h

/-- No call leaves a lazy member that is not what its view was parsed to. -/
theorem LazyMembers.step {request after : HttpRequestData} {call : HttpRequestCall}
    (hstep : request.step call = some after) (h : request.LazyMembers) : after.LazyMembers := by
  cases call with
  | setUrl url =>
    cases hstep
    exact ⟨h.uri, h.cookies⟩
  | setHeader key value =>
    cases hstep
    exact ⟨h.uri, h.cookies⟩
  | setCookie value =>
    cases hstep
    exact ⟨h.uri, h.cookies⟩
  | getUri =>
    cases hstep
    exact h.ensureUriUpdated
  | getCookies =>
    cases hstep
    exact h.ensureCookiesUpdated

theorem LazyMembers.answersFresh_iff {request : HttpRequestData} (h : request.LazyMembers)
    (call : HttpRequestCall) : request.AnswersFresh call ↔ request.PointerTells call := by
  cases call with
  | getUri =>
    have hupdated := h.ensureUriUpdated.uri
    unfold AnswersFresh PointerTells getUri
    simp only
    rw [hupdated]
    unfold HttpRequestData.ensureUriUpdated
    by_cases hempty : request.sourceOfUri.str = []
    · simp [hempty]
    · by_cases hdata : request.sourceOfUri.data = request.url.data
      · simp [hempty, hdata]
      · simp [hempty, hdata]
  | getCookies =>
    have hupdated := h.ensureCookiesUpdated.cookies
    unfold AnswersFresh PointerTells getCookies
    simp only
    rw [hupdated]
    unfold HttpRequestData.ensureCookiesUpdated
    have hheader : request.cookieHeader.str = request.headers.cookie := rfl
    by_cases hempty : request.sourceOfCookies.str = []
    · simp [hempty, hheader]
    · by_cases hdata : request.sourceOfCookies.data = request.cookieHeader.data
      · simp [hempty, hdata]
      · simp [hempty, hdata, hheader]
  | _ => exact Iff.rfl

/-- A request out of the pool: the buffers of its empty url and headers may be
    those of the request before it. -/
def newRequest (urlData cookieData : Nat) : HttpRequestData :=
  { url := { data := urlData }, cookieData }

end HttpRequestData

open HttpRequestData

/-- All the answers of a run are fresh exactly where the address of a text tells
    whether it is the text that was parsed last. -/
theorem answersFresh_iff_pointerTells (urlData cookieData : Nat) (calls : List HttpRequestCall) :
    Machine.Conforms step AnswersFresh (newRequest urlData cookieData) calls ↔
      Machine.Conforms step PointerTells (newRequest urlData cookieData) calls :=
  Machine.conforms_congr (fun _ _ _ hstep h => LazyMembers.step hstep h)
    (fun _ call h => h.answersFresh_iff call) ⟨rfl, rfl⟩ calls

/-- The answer to the first url of two at the beginning of one buffer is given for both. -/
theorem sharedBuffer_not_fresh :
    ¬Machine.Conforms step AnswersFresh (newRequest 0 0)
      [.setUrl { data := 1, str := text "/first/second" }, .getUri,
        .setUrl { data := 1, str := text "/first" }, .getUri] := by
  intro h
  have hfresh := (((h.2 _ rfl).2 _ rfl).2 _ rfl).1
  have hpath := congrArg Uri.path hfresh
  revert hpath
  decide +kernel

end cpv
