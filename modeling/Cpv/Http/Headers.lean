import Mathlib.Data.List.AList
import Mathlib.Data.List.Sort
import Cpv.Http.Constants

namespace cpv

/-- An associative container from strings to values. -/
abbrev StringMap (Value : Type) := AList fun _ : SharedString => Value

/-- The elements in the order a map of strings is iterated, by their keys. -/
def StringMap.ordered {Value : Type} (map : StringMap Value) : List (Sigma fun _ : SharedString => Value) :=
  map.entries.insertionSort fun a b => a.1 ≤ b.1

theorem StringMap.ordered_perm {Value : Type} (map : StringMap Value) :
    (StringMap.ordered map).Perm map.entries :=
  List.perm_insertionSort _ _

/-- A member a header collection keeps apart from the others: its key in the
    table of fixed members, and how the collection reads and writes it. -/
structure FixedMember (Headers : Type) where
  key : SharedString
  get : Headers → SharedString
  set : Headers → SharedString → Headers

/-- The pair of a fixed member, none while the member is empty. -/
def memberPair (key value : SharedString) : List (SharedString × SharedString) :=
  if value ≠ [] then [(key, value)] else []

/-- The fragments of a fixed member's line, none while the member is empty. -/
def memberLine (crlfKeyColonSpace value : SharedString) : List SharedString :=
  if value ≠ [] then [crlfKeyColonSpace, value] else []

/-- The fragments of the line of another header. -/
def headerLine (key value : SharedString) : List SharedString :=
  [constants.CRLF, key, constants.ColonSpace, value]

/-- Headers collection for http request -/
structure HttpRequestHeaders where
  remainHeaders : StringMap SharedString := ∅
  host : SharedString := []
  contentType : SharedString := []
  contentLength : SharedString := []
  connection : SharedString := []
  pragma : SharedString := []
  upgradeInsecureRequests : SharedString := []
  dnt : SharedString := []
  userAgent : SharedString := []
  accept : SharedString := []
  acceptEncoding : SharedString := []
  acceptLanguage : SharedString := []
  cookie : SharedString := []
  xRequestedWith : SharedString := []

namespace HttpRequestHeaders

def FixedMembers : List (FixedMember HttpRequestHeaders) := [
  { key := constants.Host, get := host, set := fun h v => { h with host := v } },
  { key := constants.ContentType, get := contentType, set := fun h v => { h with contentType := v } },
  { key := constants.ContentLength, get := contentLength, set := fun h v => { h with contentLength := v } },
  { key := constants.Connection, get := connection, set := fun h v => { h with connection := v } },
  { key := constants.Pragma, get := pragma, set := fun h v => { h with pragma := v } },
  { key := constants.UpgradeInsecureRequests, get := upgradeInsecureRequests,
    set := fun h v => { h with upgradeInsecureRequests := v } },
  { key := constants.DNT, get := dnt, set := fun h v => { h with dnt := v } },
  { key := constants.UserAgent, get := userAgent, set := fun h v => { h with userAgent := v } },
  { key := constants.Accept, get := accept, set := fun h v => { h with accept := v } },
  { key := constants.AcceptEncoding, get := acceptEncoding, set := fun h v => { h with acceptEncoding := v } },
  { key := constants.AcceptLanguage, get := acceptLanguage, set := fun h v => { h with acceptLanguage := v } },
  { key := constants.Cookie, get := cookie, set := fun h v => { h with cookie := v } },
  { key := constants.XRequestedWith, get := xRequestedWith, set := fun h v => { h with xRequestedWith := v } }]

/-- Set header value -/
def setHeader (headers : HttpRequestHeaders) (key value : SharedString) : HttpRequestHeaders :=
  match FixedMembers.find? (·.key == key) with
  | some fixed => fixed.set headers value
  | none => { headers with remainHeaders := headers.remainHeaders.insert key value }

/-- Get header value, return empty string if key not exists -/
def getHeader (headers : HttpRequestHeaders) (key : SharedString) : SharedString :=
  match FixedMembers.find? (·.key == key) with
  | some fixed => fixed.get headers
  | none => (headers.remainHeaders.lookup key).getD []

/-- What a function is applied to for all headers -/
def foreach (headers : HttpRequestHeaders) : List (SharedString × SharedString) :=
  memberPair constants.Host headers.host ++
    memberPair constants.ContentType headers.contentType ++
    memberPair constants.ContentLength headers.contentLength ++
    memberPair constants.Connection headers.connection ++
    memberPair constants.Pragma headers.pragma ++
    memberPair constants.UpgradeInsecureRequests headers.upgradeInsecureRequests ++
    memberPair constants.DNT headers.dnt ++
    memberPair constants.UserAgent headers.userAgent ++
    memberPair constants.Accept headers.accept ++
    memberPair constants.AcceptEncoding headers.acceptEncoding ++
    memberPair constants.AcceptLanguage headers.acceptLanguage ++
    memberPair constants.Cookie headers.cookie ++
    memberPair constants.XRequestedWith headers.xRequestedWith ++
    (StringMap.ordered headers.remainHeaders).map fun pair => (pair.1, pair.2)

/-- Append all headers to packet fragments for http 1 -/
def appendToHttp1Packet (headers : HttpRequestHeaders) (fragments : List SharedString) : List SharedString :=
  fragments ++ memberLine constants.with_crlf_colonspace.Host headers.host ++
    memberLine constants.with_crlf_colonspace.ContentType headers.contentType ++
    memberLine constants.with_crlf_colonspace.ContentLength headers.contentLength ++
    memberLine constants.with_crlf_colonspace.Connection headers.connection ++
    memberLine constants.with_crlf_colonspace.Pragma headers.pragma ++
    memberLine constants.with_crlf_colonspace.UpgradeInsecureRequests headers.upgradeInsecureRequests ++
    memberLine constants.with_crlf_colonspace.DNT headers.dnt ++
    memberLine constants.with_crlf_colonspace.UserAgent headers.userAgent ++
    memberLine constants.with_crlf_colonspace.Accept headers.accept ++
    memberLine constants.with_crlf_colonspace.AcceptEncoding headers.acceptEncoding ++
    memberLine constants.with_crlf_colonspace.AcceptLanguage headers.acceptLanguage ++
    memberLine constants.with_crlf_colonspace.Cookie headers.cookie ++
    memberLine constants.with_crlf_colonspace.XRequestedWith headers.xRequestedWith ++
    (StringMap.ordered headers.remainHeaders).flatMap (fun pair => headerLine pair.1 pair.2)

/-- Remove header -/
def removeHeader (headers : HttpRequestHeaders) (key : SharedString) : HttpRequestHeaders :=
  match FixedMembers.find? (·.key == key) with
  | some fixed => fixed.set headers []
  | none => { headers with remainHeaders := headers.remainHeaders.erase key }

/-- Get maximum count of headers, may greater than actual count -/
def maxSize (headers : HttpRequestHeaders) : Nat :=
  FixedMembers.length + headers.remainHeaders.entries.length

/-- Clear headers in this collection -/
def clear (headers : HttpRequestHeaders) : HttpRequestHeaders :=
  { headers with
    remainHeaders := ∅
    host := []
    contentType := []
    contentLength := []
    connection := []
    pragma := []
    upgradeInsecureRequests := []
    dnt := []
    userAgent := []
    accept := []
    acceptEncoding := []
    acceptLanguage := []
    cookie := []
    xRequestedWith := [] }

-- setters for fixed members
def setHost (headers : HttpRequestHeaders) (value : SharedString) : HttpRequestHeaders := { headers with host := value }
def setContentType (headers : HttpRequestHeaders) (value : SharedString) : HttpRequestHeaders := { headers with contentType := value }
def setContentLength (headers : HttpRequestHeaders) (value : SharedString) : HttpRequestHeaders := { headers with contentLength := value }
def setConnection (headers : HttpRequestHeaders) (value : SharedString) : HttpRequestHeaders := { headers with connection := value }
def setPragma (headers : HttpRequestHeaders) (value : SharedString) : HttpRequestHeaders := { headers with pragma := value }
def setUpgradeInsecureRequests (headers : HttpRequestHeaders) (value : SharedString) : HttpRequestHeaders := { headers with upgradeInsecureRequests := value }
def setDNT (headers : HttpRequestHeaders) (value : SharedString) : HttpRequestHeaders := { headers with dnt := value }
def setUserAgent (headers : HttpRequestHeaders) (value : SharedString) : HttpRequestHeaders := { headers with userAgent := value }
def setAccept (headers : HttpRequestHeaders) (value : SharedString) : HttpRequestHeaders := { headers with accept := value }
def setAcceptEncoding (headers : HttpRequestHeaders) (value : SharedString) : HttpRequestHeaders := { headers with acceptEncoding := value }
def setAcceptLanguage (headers : HttpRequestHeaders) (value : SharedString) : HttpRequestHeaders := { headers with acceptLanguage := value }
def setCookie (headers : HttpRequestHeaders) (value : SharedString) : HttpRequestHeaders := { headers with cookie := value }
def setXRequestedWith (headers : HttpRequestHeaders) (value : SharedString) : HttpRequestHeaders := { headers with xRequestedWith := value }

/-- The fixed members are kept apart from each other, and from the other headers. -/
theorem fixedMembers_get_set : ∀ member ∈ FixedMembers, ∀ fixed ∈ FixedMembers, ∀ (headers : HttpRequestHeaders)
    (value : SharedString),
    member.get (fixed.set headers value) = if fixed.key = member.key then value else member.get headers := by
  simp only [FixedMembers, List.forall_mem_cons]
  simp +decide only [if_true, if_false, implies_true, and_true, List.not_mem_nil, false_imp_iff]

theorem fixedMembers_get_remainHeaders : ∀ member ∈ FixedMembers, ∀ (headers : HttpRequestHeaders)
    (remainHeaders : StringMap SharedString),
    member.get { headers with remainHeaders } = member.get headers := by
  simp [FixedMembers]

/-- A fixed member gets the values of its own key, and of no other one. -/
theorem get_setHeader (member : FixedMember HttpRequestHeaders) (hmember : member ∈ FixedMembers)
    (headers : HttpRequestHeaders) (key value : SharedString) :
    member.get (headers.setHeader key value) = if key = member.key then value else member.get headers := by
  unfold setHeader
  cases hfind : FixedMembers.find? (·.key == key) with
  | some fixed =>
    have hkey : fixed.key = key := by simpa using List.find?_some hfind
    rw [← hkey]
    exact fixedMembers_get_set member hmember fixed (List.mem_of_find?_eq_some hfind) headers value
  | none =>
    have hother : key ≠ member.key := by
      rintro rfl
      simpa using List.find?_eq_none.mp hfind member hmember
    rw [if_neg hother]
    exact fixedMembers_get_remainHeaders member hmember headers _

end HttpRequestHeaders

/-- Headers collection for http response -/
structure HttpResponseHeaders where
  remainHeaders : StringMap SharedString := ∅
  additionHeaders : List (SharedString × SharedString) := []
  date : SharedString := []
  contentType : SharedString := []
  contentLength : SharedString := []
  contentEncoding : SharedString := []
  transferEncoding : SharedString := []
  connection : SharedString := []
  server : SharedString := []
  vary : SharedString := []
  etag : SharedString := []
  cacheControl : SharedString := []
  expires : SharedString := []
  lastModified : SharedString := []

namespace HttpResponseHeaders

def FixedMembers : List (FixedMember HttpResponseHeaders) := [
  { key := constants.Date, get := date, set := fun h v => { h with date := v } },
  { key := constants.ContentType, get := contentType, set := fun h v => { h with contentType := v } },
  { key := constants.ContentLength, get := contentLength, set := fun h v => { h with contentLength := v } },
  { key := constants.ContentEncoding, get := contentEncoding, set := fun h v => { h with contentEncoding := v } },
  { key := constants.TransferEncoding, get := transferEncoding,
    set := fun h v => { h with transferEncoding := v } },
  { key := constants.Connection, get := connection, set := fun h v => { h with connection := v } },
  { key := constants.Server, get := server, set := fun h v => { h with server := v } },
  { key := constants.Vary, get := vary, set := fun h v => { h with vary := v } },
  { key := constants.ETag, get := etag, set := fun h v => { h with etag := v } },
  { key := constants.CacheControl, get := cacheControl, set := fun h v => { h with cacheControl := v } },
  { key := constants.Expires, get := expires, set := fun h v => { h with expires := v } },
  { key := constants.LastModified, get := lastModified, set := fun h v => { h with lastModified := v } }]

/-- Set header value -/
def setHeader (headers : HttpResponseHeaders) (key value : SharedString) : HttpResponseHeaders :=
  match FixedMembers.find? (·.key == key) with
  | some fixed => fixed.set headers value
  | none => { headers with remainHeaders := headers.remainHeaders.insert key value }

/-- Get header value, return empty string if key not exists -/
def getHeader (headers : HttpResponseHeaders) (key : SharedString) : SharedString :=
  match FixedMembers.find? (·.key == key) with
  | some fixed => fixed.get headers
  | none => (headers.remainHeaders.lookup key).getD []

/-- What a function is applied to for all headers -/
def foreach (headers : HttpResponseHeaders) : List (SharedString × SharedString) :=
  memberPair constants.Date headers.date ++
    memberPair constants.ContentType headers.contentType ++
    memberPair constants.ContentLength headers.contentLength ++
    memberPair constants.ContentEncoding headers.contentEncoding ++
    memberPair constants.TransferEncoding headers.transferEncoding ++
    memberPair constants.Connection headers.connection ++
    memberPair constants.Server headers.server ++
    memberPair constants.Vary headers.vary ++
    memberPair constants.ETag headers.etag ++
    memberPair constants.CacheControl headers.cacheControl ++
    memberPair constants.Expires headers.expires ++
    memberPair constants.LastModified headers.lastModified ++
    (StringMap.ordered headers.remainHeaders).map (fun pair => (pair.1, pair.2)) ++
    headers.additionHeaders

/-- Append all headers to packet fragments for http 1 -/
def appendToHttp1Packet (headers : HttpResponseHeaders) (fragments : List SharedString) : List SharedString :=
  fragments ++ memberLine constants.with_crlf_colonspace.Date headers.date ++
    memberLine constants.with_crlf_colonspace.ContentType headers.contentType ++
    memberLine constants.with_crlf_colonspace.ContentLength headers.contentLength ++
    memberLine constants.with_crlf_colonspace.ContentEncoding headers.contentEncoding ++
    memberLine constants.with_crlf_colonspace.TransferEncoding headers.transferEncoding ++
    memberLine constants.with_crlf_colonspace.Connection headers.connection ++
    memberLine constants.with_crlf_colonspace.Server headers.server ++
    memberLine constants.with_crlf_colonspace.Vary headers.vary ++
    memberLine constants.with_crlf_colonspace.ETag headers.etag ++
    memberLine constants.with_crlf_colonspace.CacheControl headers.cacheControl ++
    memberLine constants.with_crlf_colonspace.Expires headers.expires ++
    memberLine constants.with_crlf_colonspace.LastModified headers.lastModified ++
    (StringMap.ordered headers.remainHeaders).flatMap (fun pair => headerLine pair.1 pair.2) ++
    headers.additionHeaders.flatMap fun pair => headerLine pair.1 pair.2

/-- Remove header -/
def removeHeader (headers : HttpResponseHeaders) (key : SharedString) : HttpResponseHeaders :=
  match FixedMembers.find? (·.key == key) with
  | some fixed => fixed.set headers []
  | none => { headers with remainHeaders := headers.remainHeaders.erase key }

/-- Add header that may occurs multiple times -/
def addAdditionHeader (headers : HttpResponseHeaders) (key value : SharedString) : HttpResponseHeaders :=
  { headers with additionHeaders := headers.additionHeaders ++ [(key, value)] }

/-- Get maximum count of headers, may greater than actual count -/
def maxSize (headers : HttpResponseHeaders) : Nat :=
  FixedMembers.length + headers.remainHeaders.entries.length + headers.additionHeaders.length

/-- Clear headers in this collection -/
def clear (headers : HttpResponseHeaders) : HttpResponseHeaders :=
  { headers with
    remainHeaders := ∅
    additionHeaders := []
    date := []
    contentType := []
    contentLength := []
    contentEncoding := []
    transferEncoding := []
    connection := []
    server := []
    vary := []
    etag := []
    cacheControl := []
    expires := []
    lastModified := [] }

-- setters for fixed members
def setDate (headers : HttpResponseHeaders) (value : SharedString) : HttpResponseHeaders := { headers with date := value }
def setContentType (headers : HttpResponseHeaders) (value : SharedString) : HttpResponseHeaders := { headers with contentType := value }
def setContentLength (headers : HttpResponseHeaders) (value : SharedString) : HttpResponseHeaders := { headers with contentLength := value }
def setContentEncoding (headers : HttpResponseHeaders) (value : SharedString) : HttpResponseHeaders := { headers with contentEncoding := value }
def setTransferEncoding (headers : HttpResponseHeaders) (value : SharedString) : HttpResponseHeaders := { headers with transferEncoding := value }
def setConnection (headers : HttpResponseHeaders) (value : SharedString) : HttpResponseHeaders := { headers with connection := value }
def setServer (headers : HttpResponseHeaders) (value : SharedString) : HttpResponseHeaders := { headers with server := value }
def setVary (headers : HttpResponseHeaders) (value : SharedString) : HttpResponseHeaders := { headers with vary := value }
def setETag (headers : HttpResponseHeaders) (value : SharedString) : HttpResponseHeaders := { headers with etag := value }
def setCacheControl (headers : HttpResponseHeaders) (value : SharedString) : HttpResponseHeaders := { headers with cacheControl := value }
def setExpires (headers : HttpResponseHeaders) (value : SharedString) : HttpResponseHeaders := { headers with expires := value }
def setLastModified (headers : HttpResponseHeaders) (value : SharedString) : HttpResponseHeaders := { headers with lastModified := value }

end HttpResponseHeaders

end cpv
