import Cpv.Http.Context
import Cpv.Utility.FileUtils
import Cpv.Utility.LRUCache
import Cpv.Utility.StringUtils
import Cpv.Utility.Uri

namespace cpv

/-- What is found at a path of the file system. A file that cannot be opened
    fails the request. -/
inductive FileEntry
  | directory
  | regular (content : SharedString) (mtime : Int)
  | unreadable

/-- What the static file handler is given from outside: the file system, the
    formatting of times, and the generated table of mime types. -/
structure FileEnvironment where
  entry : SharedString → Option FileEntry
  formatTimeForHttpHeader : Int → SharedString
  MimeMapping : SharedString → Option SharedString

/-- Whether a file exists at the path and is no directory. -/
def FileEnvironment.isFile (environment : FileEnvironment) (path : SharedString) : Bool :=
  match environment.entry path with
  | none | some .directory => false
  | some _ => true

/-- Get mime type of file path (path can be extension only) -/
def getMimeType (environment : FileEnvironment) (path : SharedString) : SharedString :=
  let extension := (path.reverse.takeWhile (· ≠ byte '.')).reverse
  (environment.MimeMapping extension).getD (text "application/octet-stream")

/-- How a file stream splits its reads: the size of the buffer that a read of at
    most `k` bytes returns at a position with `rest` bytes after it. -/
structure ReadSizes where
  size : (position k rest : Nat) → Nat
  pos : ∀ position k rest, 0 < k → 0 < rest → 0 < size position k rest
  le_requested : ∀ position k rest, size position k rest ≤ k
  le_rest : ∀ position k rest, size position k rest ≤ rest

/-- Reads that return as much as they can. -/
def ReadSizes.whole : ReadSizes where
  size _ k rest := min k rest
  pos _ _ _ hk hrest := by omega
  le_requested _ _ _ := Nat.min_le_left _ _
  le_rest _ _ _ := Nat.min_le_right _ _

/-- An input stream over the content of a file. -/
structure FileInputStream where
  content : SharedString
  position : Nat := 0

namespace FileInputStream

def skip (stream : FileInputStream) (n : Nat) : FileInputStream :=
  { stream with position := stream.position + n }

def read_up_to (sizes : ReadSizes) (stream : FileInputStream) (k : Nat) : SharedString × FileInputStream :=
  let buf := (stream.content.drop stream.position).take
    (sizes.size stream.position k (stream.content.length - stream.position))
  (buf, stream.skip buf.length)

def read_exactly (stream : FileInputStream) (k : Nat) : SharedString :=
  (stream.content.drop stream.position).take k

end FileInputStream

def CompressedFileSuffix : SharedString := text ".gz"
def CompressEncoding : SharedString := text "gzip"
def RangePrefix : SharedString := text "bytes="
def ContentRangePrefix : SharedString := text "bytes "
def ReadFileChunkSize : Nat := 4096
def XCacheHeader : SharedString := text "X-Cache"
def XCacheHitValue : SharedString := text "HIT"

/-- File content and modified time -/
structure FileCacheEntry where
  content : SharedString
  lastModified : SharedString
  noCompressedVersion : Bool

/-- Members of HttpServerRequestStaticFileHandler -/
structure HttpServerRequestStaticFileHandlerData where
  urlBase : SharedString
  pathBase : SharedString
  cacheControl : SharedString
  maxCacheFileSize : Nat
  fileCache : LRUCache SharedString FileCacheEntry

/-- A base with a slash at its end. -/
def withSlash (base : SharedString) : SharedString :=
  if endsWith base constants.Slash then base else base ++ constants.Slash

/-- Constructor -/
def HttpServerRequestStaticFileHandlerData.new (urlBase pathBase cacheControl : SharedString)
    (maxCacheFileEntities maxCacheFileSize : Nat) : HttpServerRequestStaticFileHandlerData where
  urlBase := withSlash urlBase
  pathBase := withSlash pathBase
  cacheControl
  maxCacheFileSize
  fileCache := { maxSize := maxCacheFileEntities }

/-- How the handler's future completes: with a response and the body data
    written to its stream, with an exception after that, or as the next
    handler's does. -/
inductive StaticFileOutcome
  | replied (response : HttpResponse) (body : List SharedString)
  | failed (response : HttpResponse) (body : List SharedString)
  | next

/-- A path that is given to the file system or the cache. -/
inductive PathUse
  | file_type (path : SharedString)
  | open_file (path : SharedString)
  | cache_get (path : SharedString)
  | cache_set (path : SharedString)

def PathUse.path : PathUse → SharedString
  | file_type path | open_file path | cache_get path | cache_set path => path

/-- What serving a request leaves: the handler's members, how the future
    completes, and the paths used for it in order. -/
structure StaticFileResult where
  data : HttpServerRequestStaticFileHandlerData
  outcome : StaticFileOutcome
  uses : List PathUse

/-- The result of a computation after the uses of some paths. -/
def StaticFileResult.after (uses : List PathUse) (result : StaticFileResult) : StaticFileResult :=
  { result with uses := uses ++ result.uses }

/-- Set Cache-Control if present -/
def setCacheControl (headers : HttpResponseHeaders) (cacheControl : SharedString) : HttpResponseHeaders :=
  if cacheControl = [] then headers else { headers with cacheControl }

/-- The response to a request whose file was not modified. -/
def replyNotModified (response : HttpResponse) (headers : HttpResponseHeaders)
    (mimeType ifModifiedSinceHeader : SharedString) : StaticFileOutcome :=
  .replied { response with
    statusCode := constants._304
    statusMessage := constants.NotModified
    headers := { headers with contentType := mimeType, lastModified := ifModifiedSinceHeader } } []

/-- `extensions::reply` with status 200: the whole content in one write. -/
def replyContent (response : HttpResponse) (headers : HttpResponseHeaders) (content mimeType : SharedString) :
    StaticFileOutcome :=
  .replied { response with
    statusCode := constants._200
    statusMessage := constants.OK
    headers := { headers with contentType := mimeType, contentLength := fromInt content.length } } [content]

/-- Reply to http response with 304 or 200 -/
def FileCacheEntry.reply (entry : FileCacheEntry) (response : HttpResponse)
    (mimeType ifModifiedSinceHeader cacheControl : SharedString) (isCompressed : Bool) : StaticFileOutcome :=
  let headers := setCacheControl response.headers cacheControl
  let headers := headers.setHeader XCacheHeader XCacheHitValue
  if ifModifiedSinceHeader = entry.lastModified then
    replyNotModified response headers mimeType ifModifiedSinceHeader
  else
    let headers := if isCompressed then { headers with contentEncoding := CompressEncoding } else headers
    replyContent response { headers with lastModified := entry.lastModified } entry.content mimeType

/-- Class for reply content of static file -/
structure HttpServerRequestStaticFileReplier where
  filePath : SharedString
  compressedPath : SharedString
  supportCompress : Bool
  noCompressedVersion : Bool := false
  range : Option (Nat × Nat)
  mimeType : SharedString
  ifModifiedSinceHeader : SharedString

/-- Parse "Range: bytes=from-to" or "Range: bytes=from-" -/
def parseRangeHeader (rangeHeader : SharedString) : Option (Nat × Nat) :=
  if !startsWith rangeHeader RangePrefix then none
  else
    let rangeStr := rangeHeader.drop RangePrefix.length
    -- multiple range is unsupported for now
    if rangeStr.contains (byte ',') then none
    else match rangeStr.findIdx? (· == byte '-') with
      | none => none
      | some pos =>
        match loadIntFromDec (rangeStr.take pos) with
        | none => none
        | some first =>
          let lastStr := rangeStr.drop (pos + 1)
          if lastStr = [] then some (first.toNat, 2 ^ 64 - 1)
          else (loadIntFromDec lastStr).map fun last => (first.toNat, last.toNat)

namespace HttpServerRequestStaticFileReplier

/-- Get file path for execute -/
def getPath (replier : HttpServerRequestStaticFileReplier) : SharedString :=
  if replier.supportCompress then replier.compressedPath else replier.filePath

/-- Read and reply file content by chunks: the data written, and whether the
    loop ended without an exception. Each round that is not the last one reads
    a byte at least, so that one round more than `remainSize` is enough. -/
def replyChunks (sizes : ReadSizes) : Nat → FileInputStream → Nat → List SharedString →
    List SharedString × Bool
  | 0, _, _, written => (written, false)
  | rounds + 1, stream, remainSize, written =>
    let readSize := min remainSize ReadFileChunkSize
    let (buf, stream) := stream.read_up_to sizes readSize
    -- remain size > 0 but eof occurs
    if buf.length = 0 then (written, false)
    else
      let remainSize := remainSize - buf.length
      if remainSize = 0 then (written ++ [buf], true)
      else replyChunks sizes rounds stream remainSize (written ++ [buf])

/-- The part of `execute` after the file was opened. -/
def replyFile (environment : FileEnvironment) (sizes : ReadSizes)
    (replier : HttpServerRequestStaticFileReplier) (data : HttpServerRequestStaticFileHandlerData)
    (response : HttpResponse) (content : SharedString) (mtime : Int) : StaticFileResult :=
  let headers := setCacheControl response.headers data.cacheControl
  let lastModified := environment.formatTimeForHttpHeader mtime
  if replier.ifModifiedSinceHeader = lastModified then
    { data, uses := [],
      outcome := replyNotModified response headers replier.mimeType replier.ifModifiedSinceHeader }
  else
    let headers := if replier.supportCompress then { headers with contentEncoding := CompressEncoding } else headers
    let fileStream : FileInputStream := { content }
    let fileSize := content.length
    if fileSize ≤ data.maxCacheFileSize ∧ 0 < data.fileCache.maxSize ∧ replier.range = none then
      let buf := fileStream.read_exactly fileSize
      let entry := { content := buf, lastModified, noCompressedVersion := replier.noCompressedVersion }
      { data := { data with fileCache := data.fileCache.set replier.getPath entry }
        uses := [.cache_set replier.getPath]
        outcome := replyContent response { headers with lastModified } buf replier.mimeType }
    else
      let partialContent := replier.range.filter fun range => range.1 < fileSize ∧ range.1 ≤ range.2
      let (response, headers, fileStream, remainSize) := match partialContent with
        | some (first, last) =>
          -- notice to is inclusive: [from, to]
          let last := min last (fileSize - 1)
          ({ response with statusCode := constants._206, statusMessage := constants.PartialContent },
            headers.setHeader constants.ContentRange (ContentRangePrefix ++ fromInt first ++
              constants.Hyphen ++ fromInt last ++ constants.Slash ++ fromInt fileSize),
            fileStream.skip first, last - first + 1)
        | none =>
          ({ response with statusCode := constants._200, statusMessage := constants.OK },
            { headers with lastModified }, fileStream, fileSize)
      let response := { response with
        headers := { headers with contentType := replier.mimeType, contentLength := fromInt remainSize } }
      let (written, completed) := replyChunks sizes (remainSize + 1) fileStream remainSize []
      { data, uses := [],
        outcome := if completed then .replied response written else .failed response written }

/-- One execution of `execute`; `again` is its execution without compression. -/
def executeOnce (environment : FileEnvironment) (sizes : ReadSizes)
    (data : HttpServerRequestStaticFileHandlerData) (response : HttpResponse)
    (again : HttpServerRequestStaticFileReplier → StaticFileResult)
    (replier : HttpServerRequestStaticFileReplier) : StaticFileResult :=
  StaticFileResult.after [.file_type replier.getPath] <|
    if !environment.isFile replier.getPath then
      -- file not exists or is directory
      if replier.supportCompress then again { replier with supportCompress := false, noCompressedVersion := true }
      else { data, outcome := .next, uses := [] }
    else StaticFileResult.after [.open_file replier.getPath] <|
      match environment.entry replier.getPath with
      | some (.regular content mtime) => replier.replyFile environment sizes data response content mtime
      | _ => { data, outcome := .failed response [], uses := [] }

/-- Execute reply operation. Without compression it does not execute again. -/
def execute (environment : FileEnvironment) (sizes : ReadSizes)
    (replier : HttpServerRequestStaticFileReplier) (data : HttpServerRequestStaticFileHandlerData)
    (response : HttpResponse) : StaticFileResult :=
  replier.executeOnce environment sizes data response
    (executeOnce environment sizes data response fun _ => { data, outcome := .next, uses := [] })

end HttpServerRequestStaticFileReplier

/-- Whether a text occurs in another. -/
def containsText (str pattern : SharedString) : Bool := str.tails.any fun tail => startsWith tail pattern

/-- Get file content from cache if appropriate -/
def replyFromCache (data : HttpServerRequestStaticFileHandlerData) (response : HttpResponse)
    (compressedPath filePath mimeType ifModifiedSinceHeader : SharedString) (supportCompress : Bool) :
    LRUCache SharedString FileCacheEntry × List PathUse × Option StaticFileOutcome :=
  let (compressed, fileCache, uses) :=
    if supportCompress then
      let found := data.fileCache.get compressedPath
      (found.1, found.2, [PathUse.cache_get compressedPath])
    else (none, data.fileCache, [])
  match compressed with
  | some entry =>
    (fileCache, uses, some (entry.reply response mimeType ifModifiedSinceHeader data.cacheControl true))
  | none =>
    let (plain, fileCache) := fileCache.get filePath
    let uses := uses ++ [.cache_get filePath]
    match plain with
    | some entry =>
      -- client not support compress or ensure there no compressed version
      if !supportCompress || entry.noCompressedVersion then
        (fileCache, uses, some (entry.reply response mimeType ifModifiedSinceHeader data.cacheControl false))
      else (fileCache, uses, none)
    | none => (fileCache, uses, none)

namespace HttpServerRequestStaticFileHandlerData

/-- The part of `handle` after its checks of the relative path. -/
def handleFile (environment : FileEnvironment) (sizes : ReadSizes)
    (data : HttpServerRequestStaticFileHandlerData) (request : HttpRequest) (response : HttpResponse)
    (relPath : SharedString) : StaticFileResult :=
  let compressedPath := data.pathBase ++ relPath ++ CompressedFileSuffix
  let filePath := compressedPath.take (compressedPath.length - CompressedFileSuffix.length)
  let supportCompress := containsText request.headers.acceptEncoding CompressEncoding
  let rangeHeader := request.headers.getHeader constants.Range
  let ifModifiedSinceHeader := request.headers.getHeader constants.IfModifiedSince
  let mimeType := getMimeType environment relPath
  let (fileCache, uses, hit) :=
    if 0 < data.fileCache.maxSize ∧ rangeHeader = [] then
      replyFromCache data response compressedPath filePath mimeType ifModifiedSinceHeader supportCompress
    else (data.fileCache, [], none)
  let data := { data with fileCache }
  match hit with
  | some outcome => { data, outcome, uses }
  | none =>
    let replier : HttpServerRequestStaticFileReplier := {
      filePath, compressedPath
      -- disable compress when range header is presented
      supportCompress := supportCompress && rangeHeader = []
      range := parseRangeHeader rangeHeader
      mimeType, ifModifiedSinceHeader }
    (replier.execute environment sizes data response).after uses

/-- Return content of request file -/
def handle (environment : FileEnvironment) (sizes : ReadSizes)
    (data : HttpServerRequestStaticFileHandlerData) (request : HttpRequest) (response : HttpResponse) :
    StaticFileResult :=
  let path := (Uri.parse request.url).path
  let relPath := path.drop data.urlBase.length
  if !startsWith path data.urlBase then { data, outcome := .next, uses := [] }
  else if relPath = [] then { data, outcome := .next, uses := [] }
  else if !isSafePath relPath then { data, outcome := .next, uses := [] }
  else data.handleFile environment sizes request response relPath

/-- The relative path of a request that passes the checks of `handle`. -/
def relPath (data : HttpServerRequestStaticFileHandlerData) (request : HttpRequest) : Option SharedString :=
  let path := (Uri.parse request.url).path
  let relPath := path.drop data.urlBase.length
  if startsWith path data.urlBase ∧ relPath ≠ [] ∧ isSafePath relPath then some relPath else none

theorem handle_eq (environment : FileEnvironment) (sizes : ReadSizes)
    (data : HttpServerRequestStaticFileHandlerData) (request : HttpRequest) (response : HttpResponse) :
    data.handle environment sizes request response =
      match data.relPath request with
      | some relPath => data.handleFile environment sizes request response relPath
      | none => { data, outcome := .next, uses := [] } := by
  unfold handle relPath
  grind

/-- The checks a relative path has passed. -/
theorem relPath_spec {data : HttpServerRequestStaticFileHandlerData} {request : HttpRequest}
    {relative : SharedString} (hrelPath : data.relPath request = some relative) :
    relative ≠ [] ∧ isSafePath relative = true := by
  simp only [relPath] at hrelPath
  split at hrelPath
  · rename_i hchecks
    obtain rfl := Option.some.inj hrelPath
    exact hchecks.2
  · cases hrelPath

theorem filePath_eq (base relPath : SharedString) :
    (base ++ relPath ++ CompressedFileSuffix).take
      ((base ++ relPath ++ CompressedFileSuffix).length - CompressedFileSuffix.length) = base ++ relPath :=
  List.take_left' (by simp only [List.length_append]; omega)

end HttpServerRequestStaticFileHandlerData

end cpv
