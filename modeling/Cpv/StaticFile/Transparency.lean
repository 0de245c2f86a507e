import Cpv.StaticFile.Reply

namespace cpv

/-- What a client sees of a reply, the X-Cache header apart. -/
structure VisibleReply where
  completed : Bool
  body : SharedString
  statusCode : SharedString
  statusMessage : SharedString
  contentType : SharedString
  contentEncoding : SharedString
  contentLength : SharedString
  lastModified : SharedString
  cacheControl : SharedString
  deriving DecidableEq

def visibleReply (completed : Bool) (response : HttpResponse) (body : List SharedString) : VisibleReply where
  completed
  body := body.flatten
  statusCode := response.statusCode
  statusMessage := response.statusMessage
  contentType := response.headers.contentType
  contentEncoding := response.headers.contentEncoding
  contentLength := response.headers.contentLength
  lastModified := response.headers.lastModified
  cacheControl := response.headers.cacheControl

/-- The visible part of an outcome, none where the next handler replies. -/
def StaticFileOutcome.visible : StaticFileOutcome → Option VisibleReply
  | replied response body => some (visibleReply true response body)
  | failed response body => some (visibleReply false response body)
  | next => none

/-- A request with the response object it comes with, and how the file stream
    splits its reads while it is served. -/
structure ServedRequest where
  request : HttpRequest
  response : HttpResponse
  sizes : ReadSizes

/-- The handler's members after serving requests one after another. -/
def serveAll (environment : FileEnvironment) (data : HttpServerRequestStaticFileHandlerData)
    (requests : List ServedRequest) : HttpServerRequestStaticFileHandlerData :=
  requests.foldl (fun data served =>
    (data.handle environment served.sizes served.request served.response).data) data

namespace HttpServerRequestStaticFileReplier

/-- The replier that opens a file: the one without compression, if there is no
    compressed version to open. -/
def resolve (environment : FileEnvironment) (replier : HttpServerRequestStaticFileReplier) :
    HttpServerRequestStaticFileReplier :=
  if replier.supportCompress && !environment.isFile replier.compressedPath then
    { replier with supportCompress := false, noCompressedVersion := true }
  else replier

@[simp]
theorem resolve_range (environment : FileEnvironment) (replier : HttpServerRequestStaticFileReplier) :
    (replier.resolve environment).range = replier.range := by
  unfold resolve
  split <;> rfl

/-- A replier that knows of no compressed version has found none. -/
theorem resolve_noCompressedVersion {environment : FileEnvironment}
    {replier : HttpServerRequestStaticFileReplier}
    (hsuffix : replier.compressedPath = replier.filePath ++ CompressedFileSuffix)
    (hfresh : replier.noCompressedVersion = false)
    (hversion : (replier.resolve environment).noCompressedVersion = true) :
    environment.isFile ((replier.resolve environment).getPath ++ CompressedFileSuffix) = false := by
  unfold resolve at hversion ⊢
  split at hversion
  · rename_i hnone
    rw [if_pos hnone, getPath, if_neg (by simp), ← hsuffix]
    simp only [Bool.and_eq_true, Bool.not_eq_true'] at hnone
    exact hnone.2
  · rw [hfresh] at hversion
    cases hversion

/-- What the replier does with what is found at its path. -/
def replyEntry (environment : FileEnvironment) (sizes : ReadSizes)
    (replier : HttpServerRequestStaticFileReplier) (data : HttpServerRequestStaticFileHandlerData)
    (response : HttpResponse) : StaticFileResult :=
  match environment.entry replier.getPath with
  | some (.regular content mtime) => replier.replyFile environment sizes data response content mtime
  | some .unreadable => { data, outcome := .failed response [], uses := [] }
  | some .directory | none => { data, outcome := .next, uses := [] }

theorem execute_eq (environment : FileEnvironment) (sizes : ReadSizes)
    (replier : HttpServerRequestStaticFileReplier) (data : HttpServerRequestStaticFileHandlerData)
    (response : HttpResponse) :
    ∃ uses, replier.execute environment sizes data response =
      ((replier.resolve environment).replyEntry environment sizes data response).after uses := by
  have honce (again : HttpServerRequestStaticFileReplier → StaticFileResult)
      (replier : HttpServerRequestStaticFileReplier)
      (hopens : replier.supportCompress = false ∨ environment.isFile replier.getPath = true) :
      ∃ uses, replier.executeOnce environment sizes data response again =
        (replier.replyEntry environment sizes data response).after uses := by
    unfold executeOnce replyEntry
    cases hentry : environment.entry replier.getPath with
    | none =>
      have hfile : environment.isFile replier.getPath = false := by rw [FileEnvironment.isFile, hentry]
      have hplain : replier.supportCompress = false := by simpa [hfile] using hopens
      refine ⟨[.file_type replier.getPath], ?_⟩
      simp [hfile, hplain]
    | some entry =>
      cases entry with
      | directory =>
        have hfile : environment.isFile replier.getPath = false := by rw [FileEnvironment.isFile, hentry]
        have hplain : replier.supportCompress = false := by simpa [hfile] using hopens
        refine ⟨[.file_type replier.getPath], ?_⟩
        simp [hfile, hplain]
      | regular content mtime =>
        have hfile : environment.isFile replier.getPath = true := by rw [FileEnvironment.isFile, hentry]
        refine ⟨[.file_type replier.getPath, .open_file replier.getPath], ?_⟩
        simp [hfile, StaticFileResult.after]
      | unreadable =>
        have hfile : environment.isFile replier.getPath = true := by rw [FileEnvironment.isFile, hentry]
        refine ⟨[.file_type replier.getPath, .open_file replier.getPath], ?_⟩
        simp [hfile, StaticFileResult.after]
  cases hsupport : replier.supportCompress with
  | false =>
    have hresolve : replier.resolve environment = replier := by simp [resolve, hsupport]
    rw [hresolve]
    exact honce _ replier (.inl hsupport)
  | true =>
    have hpath : replier.getPath = replier.compressedPath := by rw [getPath, if_pos hsupport]
    cases hfile : environment.isFile replier.compressedPath with
    | true =>
      have hresolve : replier.resolve environment = replier := by simp [resolve, hfile]
      rw [hresolve]
      exact honce _ replier (.inr (by rw [hpath]; exact hfile))
    | false =>
      obtain ⟨uses, huses⟩ := honce (fun _ => { data, outcome := .next, uses := [] })
        { replier with supportCompress := false, noCompressedVersion := true } (.inl rfl)
      have hresolve : replier.resolve environment =
          { replier with supportCompress := false, noCompressedVersion := true } := by
        simp [resolve, hsupport, hfile]
      refine ⟨.file_type replier.getPath :: uses, ?_⟩
      rw [hresolve, execute, executeOnce, hpath, hfile, hsupport]
      simp only [Bool.not_false, if_true]
      rw [huses]
      rfl

/-- How the reads are split does not show. -/
theorem replyChunks_congr (sizes sizes' : ReadSizes) {stream : FileInputStream} {remainSize : Nat}
    (hrest : remainSize ≤ stream.content.length - stream.position) :
    let loop := replyChunks sizes (remainSize + 1) stream remainSize []
    let loop' := replyChunks sizes' (remainSize + 1) stream remainSize []
    loop.1.flatten = loop'.1.flatten ∧ loop.2 = loop'.2 := by
  obtain hzero | hpos := Nat.eq_zero_or_pos remainSize
  · subst hzero
    simp [replyChunks_zero]
  · obtain ⟨chunks, hchunks, hflatten⟩ := replyChunks_spec sizes stream (Nat.lt_succ_self _) hpos hrest []
    obtain ⟨chunks', hchunks', hflatten'⟩ := replyChunks_spec sizes' stream (Nat.lt_succ_self _) hpos hrest []
    rw [hchunks, hchunks']
    simp [hflatten, hflatten']

/-- The reply with a file's content at once, as the cache gives it. -/
def replyWhole (environment : FileEnvironment) (replier : HttpServerRequestStaticFileReplier)
    (cacheControl : SharedString) (response : HttpResponse) (content : SharedString) (mtime : Int) :
    StaticFileOutcome :=
  let headers := setCacheControl response.headers cacheControl
  let lastModified := environment.formatTimeForHttpHeader mtime
  if replier.ifModifiedSinceHeader = lastModified then
    replyNotModified response headers replier.mimeType replier.ifModifiedSinceHeader
  else
    let headers := if replier.supportCompress then { headers with contentEncoding := CompressEncoding } else headers
    replyContent response { headers with lastModified } content replier.mimeType

variable {environment : FileEnvironment} {replier : HttpServerRequestStaticFileReplier}
  {data : HttpServerRequestStaticFileHandlerData} {content : SharedString} {mtime : Int}

/-- A file that is put into the cache is replied at once. -/
theorem replyFile_cached
    (hcached : content.length ≤ data.maxCacheFileSize ∧ 0 < data.fileCache.maxSize ∧ replier.range = none)
    (sizes : ReadSizes) (response : HttpResponse) :
    (replier.replyFile environment sizes data response content mtime).outcome =
      replier.replyWhole environment data.cacheControl response content mtime := by
  unfold replyFile replyWhole
  simp only [if_pos hcached, FileInputStream.read_exactly, List.drop_zero, List.take_length]
  split <;> rfl

/-- Without the cache a file is replied as if at once, but for the empty file,
    for which only the answer that it was not modified succeeds. -/
theorem replyFile_streamed_iff
    (hstreamed : ¬ (content.length ≤ data.maxCacheFileSize ∧ 0 < data.fileCache.maxSize ∧ replier.range = none))
    (hrange : replier.range = none) (sizes : ReadSizes) (response : HttpResponse) :
    (replier.replyFile environment sizes data response content mtime).outcome.visible =
        (replier.replyWhole environment data.cacheControl response content mtime).visible ↔
      replier.ifModifiedSinceHeader = environment.formatTimeForHttpHeader mtime ∨ content ≠ [] := by
  unfold replyFile replyWhole
  by_cases hmodified : replier.ifModifiedSinceHeader = environment.formatTimeForHttpHeader mtime
  · simp [hmodified]
  · simp only [if_neg hmodified, if_neg hstreamed]
    rw [hrange, Option.filter_none]
    by_cases hempty : content = []
    · subst hempty
      simp [replyChunks_zero, StaticFileOutcome.visible, replyContent, visibleReply, hmodified]
    · have hpos : 0 < content.length := List.length_pos_iff.mpr hempty
      obtain ⟨chunks, hchunks, hflatten⟩ := replyChunks_spec sizes { content } (Nat.lt_succ_self content.length)
        hpos (Nat.le_refl _) []
      rw [List.drop_zero, List.take_length] at hflatten
      simp [hchunks, hflatten, StaticFileOutcome.visible, replyContent, visibleReply, hempty]

/-- Two handlers that do not put a file into their caches reply alike. -/
theorem replyFile_streamed_congr {data' : HttpServerRequestStaticFileHandlerData}
    (hstreamed : ¬ (content.length ≤ data.maxCacheFileSize ∧ 0 < data.fileCache.maxSize ∧ replier.range = none))
    (hstreamed' : ¬ (content.length ≤ data'.maxCacheFileSize ∧ 0 < data'.fileCache.maxSize ∧ replier.range = none))
    (hcontrol : data.cacheControl = data'.cacheControl) (sizes sizes' : ReadSizes) (response : HttpResponse) :
    (replier.replyFile environment sizes data response content mtime).outcome.visible =
      (replier.replyFile environment sizes' data' response content mtime).outcome.visible := by
  unfold replyFile
  rw [hcontrol]
  by_cases hmodified : replier.ifModifiedSinceHeader = environment.formatTimeForHttpHeader mtime
  · simp only [if_pos hmodified]
  · simp only [if_neg hmodified, if_neg hstreamed, if_neg hstreamed']
    have hvisible (response : HttpResponse) {stream : FileInputStream} {remainSize : Nat}
        (hrest : remainSize ≤ stream.content.length - stream.position) :
        StaticFileOutcome.visible (if (replyChunks sizes (remainSize + 1) stream remainSize []).2 = true
            then .replied response (replyChunks sizes (remainSize + 1) stream remainSize []).1
            else .failed response (replyChunks sizes (remainSize + 1) stream remainSize []).1) =
          StaticFileOutcome.visible (if (replyChunks sizes' (remainSize + 1) stream remainSize []).2 = true
            then .replied response (replyChunks sizes' (remainSize + 1) stream remainSize []).1
            else .failed response (replyChunks sizes' (remainSize + 1) stream remainSize []).1) := by
      obtain ⟨hbody, hcompleted⟩ := replyChunks_congr sizes sizes' hrest
      rw [hcompleted]
      split <;> simp [StaticFileOutcome.visible, visibleReply, hbody]
    cases hrange : replier.range.filter fun range => range.1 < content.length ∧ range.1 ≤ range.2 with
    | none => exact hvisible _ (Nat.le_refl _)
    | some bounds =>
      obtain ⟨-, hbounds⟩ := Option.filter_eq_some_iff.mp hrange
      simp only [decide_eq_true_eq] at hbounds
      refine hvisible _ ?_
      simp only [FileInputStream.skip]
      omega

end HttpServerRequestStaticFileReplier

/-- A hit is replied as the file at once, when it is the file's entry. -/
theorem FileCacheEntry.reply_visible {environment : FileEnvironment}
    (replier : HttpServerRequestStaticFileReplier) {entry : FileCacheEntry} {mtime : Int}
    (hmodified : entry.lastModified = environment.formatTimeForHttpHeader mtime) (cacheControl : SharedString)
    (response : HttpResponse) :
    (entry.reply response replier.mimeType replier.ifModifiedSinceHeader cacheControl
        replier.supportCompress).visible =
      (replier.replyWhole environment cacheControl response entry.content mtime).visible := by
  have hremain : HttpResponseHeaders.FixedMembers.find? (·.key == XCacheHeader) = none := by decide
  unfold FileCacheEntry.reply HttpServerRequestStaticFileReplier.replyWhole
  rw [hmodified]
  simp only [HttpResponseHeaders.setHeader, hremain]
  split
  · rfl
  · cases replier.supportCompress <;> rfl

/-- A cache entry that tells the truth about the file at its path, and about
    its having no compressed version. -/
def EntryValid (environment : FileEnvironment) (path : SharedString) (entry : FileCacheEntry) : Prop :=
  ∃ mtime, environment.entry path = some (.regular entry.content mtime) ∧
    entry.lastModified = environment.formatTimeForHttpHeader mtime ∧
    (entry.noCompressedVersion = true → environment.isFile (path ++ CompressedFileSuffix) = false)

/-- The replier opens an empty file for a request for the whole of it. -/
def OpensEmptyFile (environment : FileEnvironment) (replier : HttpServerRequestStaticFileReplier) : Prop :=
  replier.range = none ∧ ∃ mtime, environment.entry replier.getPath = some (.regular [] mtime) ∧
    replier.ifModifiedSinceHeader ≠ environment.formatTimeForHttpHeader mtime

theorem not_opensEmptyFile_iff {environment : FileEnvironment} {replier : HttpServerRequestStaticFileReplier}
    {content : SharedString} {mtime : Int} (hrange : replier.range = none)
    (hentry : environment.entry replier.getPath = some (.regular content mtime)) :
    ¬ OpensEmptyFile environment replier ↔
      replier.ifModifiedSinceHeader = environment.formatTimeForHttpHeader mtime ∨ content ≠ [] := by
  simp only [OpensEmptyFile, hrange, hentry, Option.some.injEq, FileEntry.regular.injEq, true_and, not_exists,
    not_and, not_not]
  constructor
  · intro hreplied
    by_cases hempty : content = []
    · exact .inl (hreplied mtime ⟨hempty, rfl⟩)
    · exact .inr hempty
  · rintro hreplied other ⟨hempty, rfl⟩
    exact hreplied.resolve_right fun hne => hne hempty

/-- With and without a cache the replier does the same with what it finds, unless
    it finds an empty file. -/
theorem replyEntry_visible_iff {environment : FileEnvironment} (replier : HttpServerRequestStaticFileReplier)
    {data bare : HttpServerRequestStaticFileHandlerData} (hbare : bare.fileCache.maxSize = 0)
    (hcontrol : data.cacheControl = bare.cacheControl) (sizes sizes' : ReadSizes) (response : HttpResponse) :
    (replier.replyEntry environment sizes data response).outcome.visible =
        (replier.replyEntry environment sizes' bare response).outcome.visible ↔
      data.fileCache.maxSize = 0 ∨ ¬ OpensEmptyFile environment replier := by
  unfold HttpServerRequestStaticFileReplier.replyEntry
  split
  · rename_i content mtime hentry
    have hstreamed : ¬ (content.length ≤ bare.maxCacheFileSize ∧ 0 < bare.fileCache.maxSize ∧ replier.range = none) := by
      omega
    by_cases hcached : content.length ≤ data.maxCacheFileSize ∧ 0 < data.fileCache.maxSize ∧ replier.range = none
    · rw [HttpServerRequestStaticFileReplier.replyFile_cached hcached, hcontrol, eq_comm,
        HttpServerRequestStaticFileReplier.replyFile_streamed_iff hstreamed hcached.2.2,
        not_opensEmptyFile_iff hcached.2.2 hentry]
      exact (or_iff_right (by omega)).symm
    · rw [HttpServerRequestStaticFileReplier.replyFile_streamed_congr hcached hstreamed hcontrol sizes sizes']
      refine iff_of_true rfl ?_
      obtain hzero | hpos := Nat.eq_zero_or_pos data.fileCache.maxSize
      · exact .inl hzero
      · -- an empty file would have been put into the cache
        refine .inr ?_
        rintro ⟨hrange, other, hempty, -⟩
        rw [hentry] at hempty
        obtain ⟨rfl, -⟩ := FileEntry.regular.inj (Option.some.inj hempty)
        exact hcached ⟨Nat.zero_le _, hpos, hrange⟩
  · rename_i hentry
    simp [hentry, StaticFileOutcome.visible, OpensEmptyFile]
  · rename_i hentry
    simp [hentry, OpensEmptyFile]
  · rename_i hentry
    simp [hentry, OpensEmptyFile]

/-- What a lookup in a valid cache leaves and finds: the cache stays valid, and a
    hit is the reply at once of the replier that would open the file. -/
theorem replyFromCache_spec {environment : FileEnvironment} {data : HttpServerRequestStaticFileHandlerData}
    (hvalid : data.fileCache.Holds (EntryValid environment)) (response : HttpResponse)
    (replier : HttpServerRequestStaticFileReplier)
    (hsuffix : replier.compressedPath = replier.filePath ++ CompressedFileSuffix) :
    let found := replyFromCache data response replier.compressedPath replier.filePath replier.mimeType
      replier.ifModifiedSinceHeader replier.supportCompress
    found.1.Holds (EntryValid environment) ∧ found.1.maxSize = data.fileCache.maxSize ∧
      ∀ outcome, found.2.2 = some outcome →
        ∃ content mtime, environment.entry (replier.resolve environment).getPath = some (.regular content mtime) ∧
          outcome.visible = ((replier.resolve environment).replyWhole environment data.cacheControl response
            content mtime).visible := by
  have hhit (replier target : HttpServerRequestStaticFileReplier) (path : SharedString) (entry : FileCacheEntry)
      (htarget : replier.resolve environment = target) (hpath : target.getPath = path)
      (hentry : EntryValid environment path entry) (outcome : StaticFileOutcome)
      (houtcome : some (entry.reply response target.mimeType target.ifModifiedSinceHeader data.cacheControl
        target.supportCompress) = some outcome) :
      ∃ content mtime, environment.entry (replier.resolve environment).getPath = some (.regular content mtime) ∧
        outcome.visible = ((replier.resolve environment).replyWhole environment data.cacheControl response
          content mtime).visible := by
    obtain ⟨mtime, hfile, hmodified, -⟩ := hentry
    obtain rfl := Option.some.inj houtcome
    rw [htarget, hpath]
    exact ⟨entry.content, mtime, hfile, FileCacheEntry.reply_visible target hmodified data.cacheControl response⟩
  have hfilePath (replier : HttpServerRequestStaticFileReplier) (hsupport : replier.supportCompress = false) :
      replier.getPath = replier.filePath := by
    simp [HttpServerRequestStaticFileReplier.getPath, hsupport]
  unfold replyFromCache
  cases hsupport : replier.supportCompress with
  | false =>
    have hresolve : replier.resolve environment = replier := by
      simp [HttpServerRequestStaticFileReplier.resolve, hsupport]
    have hholds := hvalid.get replier.filePath
    have hsize := data.fileCache.get_maxSize replier.filePath
    simp only [Bool.false_eq_true, if_false]
    cases hplain : (data.fileCache.get replier.filePath).1 with
    | none =>
      refine ⟨hholds, hsize, ?_⟩
      rintro outcome ⟨⟩
    | some entry =>
      refine ⟨hholds, hsize, fun outcome houtcome => ?_⟩
      exact hhit replier replier _ entry hresolve (hfilePath replier hsupport) (hvalid.value hplain) outcome
        (by rw [hsupport]; exact houtcome)
  | true =>
    have hholds := hvalid.get replier.compressedPath
    have hsize := data.fileCache.get_maxSize replier.compressedPath
    simp only [if_true]
    cases hcompressed : (data.fileCache.get replier.compressedPath).1 with
    | some entry =>
      have hentry := hvalid.value hcompressed
      have hresolve : replier.resolve environment = replier := by
        obtain ⟨mtime, hfile, -⟩ := hentry
        simp [HttpServerRequestStaticFileReplier.resolve, FileEnvironment.isFile, hfile]
      have hpath : replier.getPath = replier.compressedPath := by
        rw [HttpServerRequestStaticFileReplier.getPath, if_pos hsupport]
      refine ⟨hholds, hsize, fun outcome houtcome => ?_⟩
      exact hhit replier replier _ entry hresolve hpath hentry outcome (by rw [hsupport]; exact houtcome)
    | none =>
      have hholds' := hholds.get replier.filePath
      have hsize' := ((data.fileCache.get replier.compressedPath).2.get_maxSize replier.filePath).trans hsize
      cases hplain : ((data.fileCache.get replier.compressedPath).2.get replier.filePath).1 with
      | none =>
        refine ⟨hholds', hsize', ?_⟩
        rintro outcome ⟨⟩
      | some entry =>
        cases hversion : entry.noCompressedVersion with
        | false =>
          simp only [hversion, Bool.not_true, Bool.or_self, Bool.false_eq_true, if_false]
          refine ⟨hholds', hsize', ?_⟩
          rintro outcome ⟨⟩
        | true =>
          have hentry := hholds.value hplain
          have hresolve : replier.resolve environment =
              { replier with supportCompress := false, noCompressedVersion := true } := by
            obtain ⟨mtime, -, -, hnone⟩ := hentry
            simp [HttpServerRequestStaticFileReplier.resolve, hsupport, hsuffix, hnone hversion]
          simp only [hversion, Bool.or_true, if_true]
          refine ⟨hholds', hsize', fun outcome houtcome => ?_⟩
          exact hhit replier _ _ entry hresolve (hfilePath _ rfl) hentry outcome houtcome

/-- Serving a request changes nothing in the handler but its cache, which stays
    valid. -/
structure KeepsValid (environment : FileEnvironment) (data after : HttpServerRequestStaticFileHandlerData) :
    Prop where
  urlBase : after.urlBase = data.urlBase
  pathBase : after.pathBase = data.pathBase
  cacheControl : after.cacheControl = data.cacheControl
  maxCacheFileSize : after.maxCacheFileSize = data.maxCacheFileSize
  maxSize : after.fileCache.maxSize = data.fileCache.maxSize
  valid : after.fileCache.Holds (EntryValid environment)

namespace KeepsValid

variable {environment : FileEnvironment} {data mid after : HttpServerRequestStaticFileHandlerData}

theorem refl (hvalid : data.fileCache.Holds (EntryValid environment)) : KeepsValid environment data data :=
  ⟨rfl, rfl, rfl, rfl, rfl, hvalid⟩

theorem trans (hfirst : KeepsValid environment data mid) (hsecond : KeepsValid environment mid after) :
    KeepsValid environment data after where
  urlBase := hsecond.urlBase.trans hfirst.urlBase
  pathBase := hsecond.pathBase.trans hfirst.pathBase
  cacheControl := hsecond.cacheControl.trans hfirst.cacheControl
  maxCacheFileSize := hsecond.maxCacheFileSize.trans hfirst.maxCacheFileSize
  maxSize := hsecond.maxSize.trans hfirst.maxSize
  valid := hsecond.valid

end KeepsValid

theorem replyEntry_keepsValid {environment : FileEnvironment} {data : HttpServerRequestStaticFileHandlerData}
    (hvalid : data.fileCache.Holds (EntryValid environment)) {replier : HttpServerRequestStaticFileReplier}
    (hversion : replier.noCompressedVersion = true →
      environment.isFile (replier.getPath ++ CompressedFileSuffix) = false)
    (sizes : ReadSizes) (response : HttpResponse) :
    KeepsValid environment data (replier.replyEntry environment sizes data response).data := by
  unfold HttpServerRequestStaticFileReplier.replyEntry
  split
  · rename_i content mtime hentry
    unfold HttpServerRequestStaticFileReplier.replyFile
    simp only
    split
    · exact KeepsValid.refl hvalid
    · split
      · refine ⟨rfl, rfl, rfl, rfl, LRUCache.set_maxSize _ _ _, hvalid.set ⟨mtime, ?_, rfl, hversion⟩⟩
        simpa [FileInputStream.read_exactly] using hentry
      · exact KeepsValid.refl hvalid
  · exact KeepsValid.refl hvalid
  · exact KeepsValid.refl hvalid
  · exact KeepsValid.refl hvalid

/-- The replier that a request makes for a relative path. -/
def requestReplier (environment : FileEnvironment) (data : HttpServerRequestStaticFileHandlerData)
    (request : HttpRequest) (relPath : SharedString) : HttpServerRequestStaticFileReplier where
  filePath := data.pathBase ++ relPath
  compressedPath := data.pathBase ++ relPath ++ CompressedFileSuffix
  supportCompress := containsText request.headers.acceptEncoding CompressEncoding &&
    request.headers.getHeader constants.Range = []
  range := parseRangeHeader (request.headers.getHeader constants.Range)
  mimeType := getMimeType environment relPath
  ifModifiedSinceHeader := request.headers.getHeader constants.IfModifiedSince

/-- A request that reaches a file is replied from a valid cache entry, as the
    replier that would open the file replies at once; or that replier looks at
    its file. -/
theorem handleFile_spec {environment : FileEnvironment} {data : HttpServerRequestStaticFileHandlerData}
    (hvalid : data.fileCache.Holds (EntryValid environment)) (sizes : ReadSizes) (request : HttpRequest)
    (response : HttpResponse) (relPath : SharedString) :
    let result := data.handleFile environment sizes request response relPath
    let target := (requestReplier environment data request relPath).resolve environment
    KeepsValid environment data result.data ∧
      ((0 < data.fileCache.maxSize ∧ target.range = none ∧ ∃ content mtime,
          environment.entry target.getPath = some (.regular content mtime) ∧
          result.outcome.visible =
            (target.replyWhole environment data.cacheControl response content mtime).visible) ∨
        ∃ before, KeepsValid environment data before ∧
          result.outcome = (target.replyEntry environment sizes before response).outcome) := by
  intro result target
  have hopen (before : HttpServerRequestStaticFileHandlerData) (hbefore : KeepsValid environment data before)
      (uses : List PathUse) (hresult : result = ((requestReplier environment data request relPath).execute
        environment sizes before response).after uses) :
      KeepsValid environment data result.data ∧
        result.outcome = (target.replyEntry environment sizes before response).outcome := by
    obtain ⟨_, hexecute⟩ := HttpServerRequestStaticFileReplier.execute_eq environment sizes
      (requestReplier environment data request relPath) before response
    have hversion : target.noCompressedVersion = true → _ :=
      HttpServerRequestStaticFileReplier.resolve_noCompressedVersion rfl rfl
    rw [hresult, hexecute]
    exact ⟨hbefore.trans (replyEntry_keepsValid hbefore.valid hversion sizes response), rfl⟩
  have hresult : result = data.handleFile environment sizes request response relPath := rfl
  simp only [HttpServerRequestStaticFileHandlerData.handleFile,
    HttpServerRequestStaticFileHandlerData.filePath_eq] at hresult
  by_cases henabled : 0 < data.fileCache.maxSize ∧ request.headers.getHeader constants.Range = []
  · rw [if_pos henabled] at hresult
    have hlookup := replyFromCache_spec hvalid response (requestReplier environment data request relPath) rfl
    have hsupport : (requestReplier environment data request relPath).supportCompress =
        containsText request.headers.acceptEncoding CompressEncoding := by
      simp [requestReplier, henabled.2]
    rw [hsupport] at hlookup
    generalize hfound : replyFromCache data response (data.pathBase ++ relPath ++ CompressedFileSuffix)
      (data.pathBase ++ relPath) (getMimeType environment relPath)
      (request.headers.getHeader constants.IfModifiedSince)
      (containsText request.headers.acceptEncoding CompressEncoding) = found at hresult
    obtain ⟨fileCache, uses, hit⟩ := found
    simp only [requestReplier] at hlookup
    rw [hfound] at hlookup
    obtain ⟨hholds, hsize, hhit⟩ := hlookup
    have hlooked : KeepsValid environment data { data with fileCache } := ⟨rfl, rfl, rfl, rfl, hsize, hholds⟩
    cases hit with
    | some outcome =>
      have hnone : target.range = none := by
        rw [HttpServerRequestStaticFileReplier.resolve_range, requestReplier, henabled.2]
        rfl
      rw [hresult]
      exact ⟨hlooked, .inl ⟨henabled.1, hnone, hhit outcome rfl⟩⟩
    | none =>
      obtain ⟨hkeeps, houtcome⟩ := hopen _ hlooked uses hresult
      exact ⟨hkeeps, .inr ⟨_, hlooked, houtcome⟩⟩
  · rw [if_neg henabled] at hresult
    have hsame := KeepsValid.refl hvalid
    obtain ⟨hkeeps, houtcome⟩ := hopen data hsame [] hresult
    exact ⟨hkeeps, .inr ⟨data, hsame, houtcome⟩⟩

/-- The request makes the handler open an empty file to reply the whole of it. -/
def RequestsEmptyFile (environment : FileEnvironment) (data : HttpServerRequestStaticFileHandlerData)
    (request : HttpRequest) : Prop :=
  ∃ relPath, data.relPath request = some relPath ∧
    OpensEmptyFile environment ((requestReplier environment data request relPath).resolve environment)

/-- A handler with a valid cache and one without any reply alike, but to
    requests for an empty file. -/
theorem handle_visible_iff {environment : FileEnvironment} {data bare : HttpServerRequestStaticFileHandlerData}
    (hvalid : data.fileCache.Holds (EntryValid environment))
    (hvalid' : bare.fileCache.Holds (EntryValid environment)) (hbare : bare.fileCache.maxSize = 0)
    (hurl : data.urlBase = bare.urlBase) (hpath : data.pathBase = bare.pathBase)
    (hcontrol : data.cacheControl = bare.cacheControl) (sizes sizes' : ReadSizes) (request : HttpRequest)
    (response : HttpResponse) :
    (data.handle environment sizes request response).outcome.visible =
        (bare.handle environment sizes' request response).outcome.visible ↔
      data.fileCache.maxSize = 0 ∨ ¬ RequestsEmptyFile environment bare request := by
  have hrelPath : data.relPath request = bare.relPath request := by
    unfold HttpServerRequestStaticFileHandlerData.relPath
    rw [hurl]
  rw [HttpServerRequestStaticFileHandlerData.handle_eq, HttpServerRequestStaticFileHandlerData.handle_eq, hrelPath,
    RequestsEmptyFile]
  cases hrequest : bare.relPath request with
  | none => simp
  | some relPath =>
    have hreplier : requestReplier environment data request relPath = requestReplier environment bare request relPath := by
      unfold requestReplier
      rw [hpath]
    obtain ⟨-, hreply⟩ := handleFile_spec hvalid sizes request response relPath
    obtain ⟨-, hbareReply⟩ := handleFile_spec hvalid' sizes' request response relPath
    rw [hreplier] at hreply
    simp only [Option.some.injEq, exists_eq_left']
    generalize (requestReplier environment bare request relPath).resolve environment = target at hreply hbareReply ⊢
    obtain ⟨before', hkeeps', hbareOutcome⟩ := hbareReply.resolve_left fun h => by omega
    have hbare' := hkeeps'.maxSize.trans hbare
    rw [hbareOutcome]
    obtain ⟨henabled, hrange, content, mtime, hentry, hhit⟩ | ⟨before, hkeeps, houtcome⟩ := hreply
    · -- the cache gives the file at once, the other handler streams it
      have hbareEntry : (target.replyEntry environment sizes' before' response).outcome =
          (target.replyFile environment sizes' before' response content mtime).outcome := by
        rw [HttpServerRequestStaticFileReplier.replyEntry, hentry]
      have hstreamed : ¬ (content.length ≤ before'.maxCacheFileSize ∧ 0 < before'.fileCache.maxSize ∧
          target.range = none) := by
        omega
      rw [hhit, hbareEntry, hcontrol, ← hkeeps'.cacheControl, eq_comm,
        HttpServerRequestStaticFileReplier.replyFile_streamed_iff hstreamed hrange,
        not_opensEmptyFile_iff hrange hentry]
      exact (or_iff_right (by omega)).symm
    · have hcontrol' : before.cacheControl = before'.cacheControl := by
        rw [hkeeps.cacheControl, hkeeps'.cacheControl, hcontrol]
      rw [houtcome, replyEntry_visible_iff target hbare' hcontrol', hkeeps.maxSize]

/-- Serving requests keeps the cache valid and everything else as it is. -/
theorem serveAll_keepsValid {environment : FileEnvironment} {data : HttpServerRequestStaticFileHandlerData}
    (hvalid : data.fileCache.Holds (EntryValid environment)) (requests : List ServedRequest) :
    KeepsValid environment data (serveAll environment data requests) := by
  induction requests generalizing data with
  | nil => exact KeepsValid.refl hvalid
  | cons served requests ih =>
    have hstep : KeepsValid environment data
        (data.handle environment served.sizes served.request served.response).data := by
      rw [HttpServerRequestStaticFileHandlerData.handle_eq]
      split
      · exact (handleFile_spec hvalid _ _ _ _).1
      · exact KeepsValid.refl hvalid
    exact hstep.trans (ih hstep.valid)

/-- After whatever requests, a handler with a cache replies like one without,
    except to requests for empty files. -/
theorem cache_transparent_iff (environment : FileEnvironment) (urlBase pathBase cacheControl : SharedString)
    (maxCacheFileEntities maxCacheFileSize : Nat) (history bareHistory : List ServedRequest)
    (request : HttpRequest) (response : HttpResponse) (sizes sizes' : ReadSizes) :
    let start := HttpServerRequestStaticFileHandlerData.new urlBase pathBase cacheControl
    let cached := serveAll environment (start maxCacheFileEntities maxCacheFileSize) history
    let bare := serveAll environment (start 0 maxCacheFileSize) bareHistory
    (cached.handle environment sizes request response).outcome.visible =
        (bare.handle environment sizes' request response).outcome.visible ↔
      maxCacheFileEntities = 0 ∨ ¬ RequestsEmptyFile environment (start 0 maxCacheFileSize) request := by
  intro start cached bare
  have hnew (maxCacheFileEntities : Nat) : (start maxCacheFileEntities maxCacheFileSize).fileCache.Holds
      (EntryValid environment) := LRUCache.Holds.new maxCacheFileEntities
  have hcached : KeepsValid environment _ cached := serveAll_keepsValid (hnew maxCacheFileEntities) history
  have hbare : KeepsValid environment _ bare := serveAll_keepsValid (hnew 0) bareHistory
  have hsame : RequestsEmptyFile environment bare request ↔
      RequestsEmptyFile environment (start 0 maxCacheFileSize) request := by
    unfold RequestsEmptyFile HttpServerRequestStaticFileHandlerData.relPath requestReplier
    rw [hbare.urlBase, hbare.pathBase]
  rw [handle_visible_iff hcached.valid hbare.valid hbare.maxSize (hcached.urlBase.trans hbare.urlBase.symm)
    (hcached.pathBase.trans hbare.pathBase.symm) (hcached.cacheControl.trans hbare.cacheControl.symm), hsame,
    hcached.maxSize]
  rfl

def emptyFileRequest : HttpRequest := { method := constants.GET, url := text "/static/f.txt" }

/-- The first request for an empty file already shows whether there is a cache. -/
theorem emptyFile_cache_visible :
    let start := HttpServerRequestStaticFileHandlerData.new (text "/static") (text "/srv") (text "public")
    ((start 16 1048576).handle (oneFile []) ReadSizes.whole emptyFileRequest {}).outcome.visible ≠
      ((start 0 1048576).handle (oneFile []) ReadSizes.whole emptyFileRequest {}).outcome.visible := by
  decide +kernel

end cpv
